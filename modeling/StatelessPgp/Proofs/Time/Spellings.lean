import StatelessPgp.Proofs.Time.Fields

/-!
# Spellings of one time

A second of the calendar is spelled in three ways in UTC, and in another one with every offset.
All of them are read as the same instant, but for the seconds of the offset.  A text with an
offset that also fits a layout has the meaning that the layout gives it.
-/

namespace StatelessPgp

open Text

/-- A second of the calendar in the years that have four digits. -/
structure CivilTime where
  year : Nat
  month : Nat
  day : Nat
  hour : Nat
  minute : Nat
  second : Nat
  year_le : year ≤ 9999
  isValid : Date.isValid ⟨year, month, day⟩ = true
  hour_lt : hour < 24
  minute_lt : minute < 60
  second_lt : second < 60

/-- The distance of a clock from UTC, less than a day. -/
structure ClockOffset where
  isAhead : Bool
  hours : Nat
  minutes : Nat
  hours_lt : hours < 24
  minutes_lt : minutes < 60

theorem Timestamp.exists_ofParts? {seconds : Int} (least : -8334601228800 ≤ seconds)
    (most : seconds ≤ 8210266876799) :
    ∃ time : Timestamp, time.seconds = seconds ∧ time.nanos = 0 ∧
      ofParts? seconds 0 = some time :=
  ⟨⟨seconds, 0, least, most, by decide⟩, rfl, rfl,
    dif_pos ⟨least, most, by decide, nofun⟩⟩

namespace ClockOffset

/-- The seconds that a clock is ahead. -/
def seconds (offset : ClockOffset) : Int :=
  if offset.isAhead then offset.hours * 3600 + offset.minutes * 60
  else -(offset.hours * 3600 + offset.minutes * 60)

/-- The form `±hh:mm`. -/
def written (offset : ClockOffset) : List Char :=
  (if offset.isAhead then '+' else '-') :: paddedDigits 2 offset.hours ++
    ':' :: paddedDigits 2 offset.minutes

variable (offset : ClockOffset)

theorem seconds_bounds :
    -OffsetTime.greatestOffset ≤ offset.seconds ∧ offset.seconds ≤ OffsetTime.greatestOffset := by
  have hours := offset.hours_lt
  have minutes := offset.minutes_lt
  rw [seconds, OffsetTime.greatestOffset]
  split <;> omega

theorem offset_written : OffsetTime.offset offset.written = .ok (offset.seconds, []) := by
  have hours := OffsetTime.fixedNumber_paddedDigits Nat.zero_lt_two
    (offset.hours_lt.trans (by decide))
  have minutes := OffsetTime.fixedNumber_paddedDigits Nat.zero_lt_two
    (offset.minutes_lt.trans (by decide)) []
  have inside : offset.minutes ≤ 59 := Nat.le_of_lt_succ offset.minutes_lt
  have size : OffsetTime.unsignedOffset
      (paddedDigits 2 offset.hours ++ ':' :: paddedDigits 2 offset.minutes) =
        .ok (offset.hours * 3600 + offset.minutes * 60, []) := by
    rw [List.append_nil] at minutes
    simp [OffsetTime.unsignedOffset, OffsetTime.offsetNumber, OffsetTime.offsetMinutes,
      OffsetTime.expect, hours, minutes, inside, bind, Except.bind, pure, Except.pure]
  rw [written, seconds]
  cases offset.isAhead <;> simp [OffsetTime.offset, size, Except.map]

end ClockOffset

namespace CivilTime

/-- The form `YYYY-MM-DDThh:mm`. -/
def toMinute (civil : CivilTime) : List Char :=
  paddedDigits 4 civil.year ++ '-' :: paddedDigits 2 civil.month ++
    '-' :: paddedDigits 2 civil.day ++ 'T' :: paddedDigits 2 civil.hour ++
    ':' :: paddedDigits 2 civil.minute

/-- The form `YYYY-MM-DDThh:mm:ss`. -/
def toSecond (civil : CivilTime) : List Char :=
  civil.toMinute ++ ':' :: paddedDigits 2 civil.second

/-- The form `YYYYMMDDThhmmss`. -/
def compact (civil : CivilTime) : List Char :=
  paddedDigits 4 civil.year ++ paddedDigits 2 civil.month ++ paddedDigits 2 civil.day ++
    'T' :: paddedDigits 2 civil.hour ++ paddedDigits 2 civil.minute ++
    paddedDigits 2 civil.second

/-- What a civil time says on a clock. -/
def reading (civil : CivilTime) : Reading :=
  { year := civil.year, month := civil.month, day := civil.day
    hour := civil.hour, minute := civil.minute, second := civil.second }

/-- The seconds between the start of 1970 and a civil time in UTC. -/
def seconds (civil : CivilTime) : Int :=
  civil.reading.date.dayNumber * 86400 + civil.hour * 3600 + civil.minute * 60 + civil.second

variable (civil : CivilTime)

theorem month_lt : civil.month < 10 ^ 2 :=
  (Date.month_bounds civil.isValid).2.trans_lt (by decide)

theorem day_lt : civil.day < 10 ^ 2 :=
  (Date.day_le civil.isValid).trans_lt (by decide)

theorem isValid_reading : civil.reading.isValid = true := by
  have date : civil.reading.date.isValid = true := civil.isValid
  have hour : civil.reading.hour ≤ 23 := Nat.le_of_lt_succ civil.hour_lt
  have minute : civil.reading.minute ≤ 59 := Nat.le_of_lt_succ civil.minute_lt
  have second : civil.reading.second ≤ 60 := civil.second_lt.le
  simp [Reading.isValid, date, hour, minute, second]

/-- The civil times are far from the ends of all times. -/
theorem seconds_bounds : -1000000000000 ≤ civil.seconds ∧ civil.seconds ≤ 1000000000000 := by
  have long := civil.year_le
  have hour := civil.hour_lt
  have minute := civil.minute_lt
  have second := civil.second_lt
  have began : -1 ≤ civil.reading.date.yearFromMarch ∧
      civil.reading.date.yearFromMarch + 1 ≤ 10000 := by
    have year : civil.reading.date.year = civil.year := rfl
    rw [Date.yearFromMarch, year]
    split <;> omega
  have early := Date.daysBeforeYear_mono began.1
  have late := Date.daysBeforeYear_mono began.2
  have before := Date.dayNumber_lt civil.isValid
  have first : Date.daysBeforeYear (-1) = -719834 := by decide
  have last : Date.daysBeforeYear 10000 = 2932957 := by decide
  have least : Date.daysBeforeYear civil.reading.date.yearFromMarch ≤
      civil.reading.date.dayNumber := by
    rw [Date.dayNumber]
    omega
  have most : civil.reading.date.dayNumber < Date.daysBeforeYear 10000 := before.trans_le late
  rw [seconds]
  omega

theorem exists_timestamp (shift : Int) (least : -86400 < shift) (most : shift < 86400) :
    ∃ time : Timestamp, time.seconds = civil.seconds - shift ∧ time.nanos = 0 ∧
      civil.reading.timestamp? shift = some time := by
  obtain ⟨early, late⟩ := civil.seconds_bounds
  have second : min 59 civil.reading.second = civil.second :=
    min_eq_right (Nat.le_of_lt_succ civil.second_lt)
  have whole : civil.reading.second ≠ 60 := civil.second_lt.ne
  have least : -8334601228800 ≤ civil.seconds - shift := by omega
  obtain ⟨time, seconds, nanos, found⟩ := Timestamp.exists_ofParts? least (by omega)
  refine ⟨time, seconds, nanos, ?_⟩
  rw [Reading.timestamp?, if_pos civil.isValid_reading]
  dsimp only
  rw [second, if_neg whole]
  exact found

/-- The calendar and the clock show a civil time at its instant. -/
theorem shown {time : Timestamp} (seconds : time.seconds = civil.seconds)
    (nanos : time.nanos = 0) :
    time.date = ⟨civil.year, civil.month, civil.day⟩ ∧ time.hour = civil.hour ∧
      time.minute = civil.minute ∧ time.second = civil.second := by
  have hour := civil.hour_lt
  have minute := civil.minute_lt
  have second := civil.second_lt
  rw [CivilTime.seconds] at seconds
  have number : time.dayNumber = civil.reading.date.dayNumber := by
    rw [Timestamp.dayNumber]
    omega
  refine ⟨?_, ?_, ?_, ?_⟩
  · rw [Timestamp.date, number]
    exact Date.ofDayNumber_dayNumber civil.isValid
  · rw [Timestamp.hour, Timestamp.secondOfDay]
    omega
  · rw [Timestamp.minute, Timestamp.secondOfDay]
    omega
  · rw [Timestamp.second, Timestamp.secondOfDay, nanos]
    omega

section Layouts

open Layout

theorem year?_paddedDigits (rest : List Char) :
    year? (trimStart (paddedDigits 4 civil.year ++ rest)) = some ((civil.year : Int), rest) :=
  year?_of_fixedNumber
    (OffsetTime.fixedNumber_paddedDigits (by decide) (Nat.lt_succ_of_le civil.year_le) rest)

theorem pair?_fields (rest : List Char) :
    pair? (paddedDigits 2 civil.month ++ rest) = some (civil.month, rest) ∧
      pair? (paddedDigits 2 civil.day ++ rest) = some (civil.day, rest) ∧
      pair? (paddedDigits 2 civil.hour ++ rest) = some (civil.hour, rest) ∧
      pair? (paddedDigits 2 civil.minute ++ rest) = some (civil.minute, rest) ∧
      pair? (paddedDigits 2 civil.second ++ rest) = some (civil.second, rest) :=
  ⟨pair?_paddedDigits civil.month_lt rest, pair?_paddedDigits civil.day_lt rest,
    pair?_paddedDigits (civil.hour_lt.trans (by decide)) rest,
    pair?_paddedDigits (civil.minute_lt.trans (by decide)) rest,
    pair?_paddedDigits (civil.second_lt.trans (by decide)) rest⟩

/-- Each layout takes the spelling that it describes. -/
theorem readFrom?_spelled :
    readFrom? extended {} (civil.toSecond ++ ['Z']) = some civil.reading ∧
      readFrom? Layout.compact {} (civil.compact ++ ['Z']) = some civil.reading ∧
      (civil.second = 0 →
        readFrom? withoutSeconds {} (civil.toMinute ++ ['Z']) = some civil.reading) := by
  refine ⟨?_, ?_, fun whole => ?_⟩
  · simp [toSecond, toMinute, extended, readFrom?, Item.read?, year?_paddedDigits, pair?_fields,
      reading]
  · simp [compact, Layout.compact, readFrom?, Item.read?, year?_paddedDigits, pair?_fields,
      reading]
  · simp [toMinute, withoutSeconds, readFrom?, Item.read?, year?_paddedDigits, pair?_fields,
      reading, whole]

/-- An earlier layout does not fit the spelling that a later one describes: it demands a mark
where a digit stands, or a field where a mark does. -/
theorem readFrom?_misfits :
    readFrom? extended {} (civil.compact ++ ['Z']) = none ∧
      readFrom? extended {} (civil.toMinute ++ ['Z']) = none ∧
      readFrom? Layout.compact {} (civil.toMinute ++ ['Z']) = none := by
  obtain ⟨first, digits, run, digit⟩ := exists_paddedDigits 2 civil.month
  have unmarked : first ≠ '-' := by
    rintro rfl
    cases digit
  have closed (rest : List Char) : pair? ('-' :: rest) = none :=
    pair?_mark (by decide) (by decide) rest
  refine ⟨?_, ?_, ?_⟩
  · simp [compact, extended, readFrom?, Item.read?, year?_paddedDigits, run, unmarked]
  · simp [toMinute, extended, readFrom?, Item.read?, year?_paddedDigits, pair?_fields]
  · simp [toMinute, Layout.compact, readFrom?, Item.read?, year?_paddedDigits, closed]

end Layouts

section Offsets

open OffsetTime

theorem fixedNumber_fields (rest : List Char) :
    fixedNumber 4 (paddedDigits 4 civil.year ++ rest) = .ok (civil.year, rest) ∧
      fixedNumber 2 (paddedDigits 2 civil.month ++ rest) = .ok (civil.month, rest) ∧
      fixedNumber 2 (paddedDigits 2 civil.day ++ rest) = .ok (civil.day, rest) ∧
      fixedNumber 2 (paddedDigits 2 civil.hour ++ rest) = .ok (civil.hour, rest) ∧
      fixedNumber 2 (paddedDigits 2 civil.minute ++ rest) = .ok (civil.minute, rest) ∧
      fixedNumber 2 (paddedDigits 2 civil.second ++ rest) = .ok (civil.second, rest) :=
  ⟨fixedNumber_paddedDigits (by decide) (Nat.lt_succ_of_le civil.year_le) rest,
    fixedNumber_paddedDigits (by decide) civil.month_lt rest,
    fixedNumber_paddedDigits (by decide) civil.day_lt rest,
    fixedNumber_paddedDigits (by decide) (civil.hour_lt.trans (by decide)) rest,
    fixedNumber_paddedDigits (by decide) (civil.minute_lt.trans (by decide)) rest,
    fixedNumber_paddedDigits (by decide) (civil.second_lt.trans (by decide)) rest⟩

theorem length_toSecond : civil.toSecond.length = shortestLength := by
  have year : (paddedDigits 4 civil.year).length = 4 :=
    length_paddedDigits (by decide) (Nat.lt_succ_of_le civil.year_le)
  have month := length_paddedDigits (by decide) civil.month_lt
  have day := length_paddedDigits (by decide) civil.day_lt
  have hour : (paddedDigits 2 civil.hour).length = 2 :=
    length_paddedDigits (by decide) (civil.hour_lt.trans (by decide))
  have minute : (paddedDigits 2 civil.minute).length = 2 :=
    length_paddedDigits (by decide) (civil.minute_lt.trans (by decide))
  have second : (paddedDigits 2 civil.second).length = 2 :=
    length_paddedDigits (by decide) (civil.second_lt.trans (by decide))
  simp [toSecond, toMinute, year, month, day, hour, minute, second, shortestLength]

theorem reading_toSecond {rest : List Char} (unbroken : fraction rest = .ok (0, rest)) :
    OffsetTime.reading (civil.toSecond ++ rest) = .ok (civil.reading, rest) := by
  have long : ¬ byteLength (civil.toSecond ++ rest) < shortestLength := by
    have least := length_le_byteLength (civil.toSecond ++ rest)
    rw [List.length_append, civil.length_toSecond] at least
    omega
  have valid := civil.isValid_reading
  rw [reading] at valid
  rw [OffsetTime.reading, if_neg long]
  simp [toSecond, toMinute, date, timeOfDay, expect, fixedNumber_fields, unbroken, valid,
    civil.isValid, reading, bind, Except.bind, pure, Except.pure]

theorem fraction_written (offset : ClockOffset) :
    fraction offset.written = .ok (0, offset.written) := by
  rw [ClockOffset.written]
  cases offset.isAhead <;> rfl

/-- A spelling with an offset is read as the instant in UTC less the offset. -/
theorem timestamp_written (offset : ClockOffset) :
    ∃ time : Timestamp, time.seconds = civil.seconds - offset.seconds ∧ time.nanos = 0 ∧
      timestamp (civil.toSecond ++ offset.written) = .ok time := by
  obtain ⟨least, most⟩ := offset.seconds_bounds
  have day : greatestOffset < 86400 := by decide
  obtain ⟨time, seconds, nanos, found⟩ :=
    civil.exists_timestamp offset.seconds (by omega) (by omega)
  refine ⟨time, seconds, nanos, ?_⟩
  have inside : ¬ (offset.seconds < -greatestOffset ∨ greatestOffset < offset.seconds) := by omega
  rw [timestamp, civil.reading_toSecond (fraction_written offset)]
  simp [offset.offset_written, inside, found, bind, Except.bind, pure, Except.pure]

end Offsets

end CivilTime

namespace Timestamp

variable {time : Timestamp}

theorem parse_of_layout {text : List Char} (trimmed : trim text = text)
    (found : Layout.firstTimestamp? text = some time) :
    parse (String.ofList text) = .ok time := by
  rw [parse, String.toList_ofList, trimmed, found]

/-- A text that is a time with an offset is read as that time, whether or not it fits a
layout. -/
theorem parse_of_offset {text : String}
    (accepted : OffsetTime.timestamp (trim text.toList) = .ok time) : parse text = .ok time := by
  rw [parse]
  cases found : Layout.firstTimestamp? (trim text.toList) with
  | none =>
      dsimp only
      rw [accepted]
  | some other =>
      rw [Layout.firstTimestamp?] at found
      obtain ⟨layout, known, fits⟩ := List.exists_of_findSome?_eq_some found
      rw [Layout.eq_of_timestamp known accepted fits]

end Timestamp

namespace CivilTime

variable (civil : CivilTime)

theorem beginsVisibly_toMinute (rest : List Char) : BeginsVisibly (civil.toMinute ++ rest) := by
  rw [toMinute]
  simp only [List.append_assoc]
  exact Layout.beginsVisibly_paddedDigits 4 civil.year _

theorem beginsVisibly_toSecond (rest : List Char) : BeginsVisibly (civil.toSecond ++ rest) := by
  rw [toSecond, List.append_assoc]
  exact civil.beginsVisibly_toMinute _

theorem beginsVisibly_compact (rest : List Char) : BeginsVisibly (civil.compact ++ rest) := by
  rw [compact]
  simp only [List.append_assoc]
  exact Layout.beginsVisibly_paddedDigits 4 civil.year _

theorem endsVisibly_zone (text : List Char) : EndsVisibly (text ++ ['Z']) := by
  intro character last
  rw [List.getLast?_concat] at last
  cases last
  decide

theorem endsVisibly_written (offset : ClockOffset) : EndsVisibly offset.written := by
  rw [ClockOffset.written, List.append_cons]
  exact (Layout.endsVisibly_paddedDigits 2 offset.minutes).append (paddedDigits_ne_nil 2 _) _

/-- The spellings in UTC are read as the instant of a civil time. -/
theorem parse_spelled {time : Timestamp} (placed : civil.reading.timestamp? 0 = some time) :
    Timestamp.parse (String.ofList (civil.toSecond ++ ['Z'])) = .ok time ∧
      Timestamp.parse (String.ofList (civil.compact ++ ['Z'])) = .ok time ∧
      (civil.second = 0 →
        Timestamp.parse (String.ofList (civil.toMinute ++ ['Z'])) = .ok time) := by
  obtain ⟨extended, compact, withoutSeconds⟩ := civil.readFrom?_spelled
  obtain ⟨unextended, unextendedMinute, uncompacted⟩ := civil.readFrom?_misfits
  refine ⟨?_, ?_, fun whole => ?_⟩
  · refine Timestamp.parse_of_layout
      (trim_eq_self (civil.beginsVisibly_toSecond _) (endsVisibly_zone _)) ?_
    simp [Layout.firstTimestamp?, Layout.all, Layout.timestamp?, extended, placed]
  · refine Timestamp.parse_of_layout
      (trim_eq_self (civil.beginsVisibly_compact _) (endsVisibly_zone _)) ?_
    simp [Layout.firstTimestamp?, Layout.all, Layout.timestamp?, unextended, compact, placed]
  · refine Timestamp.parse_of_layout
      (trim_eq_self (civil.beginsVisibly_toMinute _) (endsVisibly_zone _)) ?_
    simp [Layout.firstTimestamp?, Layout.all, Layout.timestamp?, unextendedMinute, uncompacted,
      withoutSeconds whole, placed]

theorem parse_written (offset : ClockOffset) :
    ∃ time : Timestamp, time.seconds = civil.seconds - offset.seconds ∧ time.nanos = 0 ∧
      Timestamp.parse (String.ofList (civil.toSecond ++ offset.written)) = .ok time := by
  obtain ⟨time, seconds, nanos, accepted⟩ := civil.timestamp_written offset
  have ends : EndsVisibly (civil.toSecond ++ offset.written) :=
    (endsVisibly_written offset).append nofun _
  refine ⟨time, seconds, nanos, Timestamp.parse_of_offset ?_⟩
  rwa [String.toList_ofList, trim_eq_self (civil.beginsVisibly_toSecond _) ends]

end CivilTime

/-- Every second of the calendar has one instant, at which the calendar and the clock show it.
Its spellings in UTC are read as that instant, and a spelling with an offset as the instant
that many seconds before it.  A text that is a time with an offset is read as that time, and
none of the layouts for UTC gives it another meaning. -/
theorem spellings_agree :
    (∀ civil : CivilTime, ∃ time : Timestamp,
      (time.date = ⟨civil.year, civil.month, civil.day⟩ ∧ time.hour = civil.hour ∧
        time.minute = civil.minute ∧ time.second = civil.second ∧ time.nanos = 0) ∧
      Timestamp.parse (String.ofList (civil.toSecond ++ ['Z'])) = .ok time ∧
      Timestamp.parse (String.ofList (civil.compact ++ ['Z'])) = .ok time ∧
      (civil.second = 0 →
        Timestamp.parse (String.ofList (civil.toMinute ++ ['Z'])) = .ok time) ∧
      ∀ offset : ClockOffset, ∃ shifted : Timestamp,
        Timestamp.parse (String.ofList (civil.toSecond ++ offset.written)) = .ok shifted ∧
          shifted.seconds = time.seconds - offset.seconds ∧ shifted.nanos = time.nanos) ∧
      ∀ text time, OffsetTime.timestamp (trim text.toList) = .ok time →
        Timestamp.parse text = .ok time ∧
          ∀ layout ∈ Layout.all, ∀ other,
            Layout.timestamp? layout (trim text.toList) = some other → other = time := by
  refine ⟨fun civil => ?spelled, fun text time accepted => ?offset⟩
  case spelled =>
      obtain ⟨time, seconds, nanos, placed⟩ :=
        civil.exists_timestamp 0 (by decide) (by decide)
      rw [Int.sub_zero] at seconds
      obtain ⟨date, hour, minute, second⟩ := civil.shown seconds nanos
      obtain ⟨extended, compact, withoutSeconds⟩ := civil.parse_spelled placed
      refine ⟨time, ⟨date, hour, minute, second, nanos⟩, extended, compact, withoutSeconds,
        fun offset => ?_⟩
      obtain ⟨shifted, before, whole, parsed⟩ := civil.parse_written offset
      exact ⟨shifted, parsed, by rw [before, seconds], by rw [whole, nanos]⟩
  case offset =>
      exact ⟨Timestamp.parse_of_offset accepted,
        fun layout known other fits => Layout.eq_of_timestamp known accepted fits⟩

/-- The start of the year 0, which a clock that is ahead shows in the year before, and a leap
second that fits a layout. -/
theorem start_of_calendar_is_spelled :
    let civil : CivilTime :=
      ⟨0, 1, 1, 0, 0, 0, by decide, by decide, by decide, by decide, by decide⟩
    let offset : ClockOffset := ⟨true, 23, 59, by decide, by decide⟩
    let leap : Timestamp := ⟨1483228799, 1000000000, by decide, by decide, by decide⟩
    String.ofList (civil.toSecond ++ ['Z']) = "0000-01-01T00:00:00Z" ∧
      String.ofList (civil.compact ++ ['Z']) = "00000101T000000Z" ∧
      String.ofList (civil.toMinute ++ ['Z']) = "0000-01-01T00:00Z" ∧ civil.second = 0 ∧
      String.ofList (civil.toSecond ++ offset.written) = "0000-01-01T00:00:00+23:59" ∧
      (∃ time shifted : Timestamp,
        Timestamp.parse (String.ofList (civil.toSecond ++ ['Z'])) = .ok time ∧
          Timestamp.parse (String.ofList (civil.compact ++ ['Z'])) = .ok time ∧
          Timestamp.parse (String.ofList (civil.toMinute ++ ['Z'])) = .ok time ∧
          Timestamp.parse (String.ofList (civil.toSecond ++ offset.written)) = .ok shifted ∧
          shifted.seconds = time.seconds - 86340) ∧
      OffsetTime.timestamp (trim "\t2016-12-31T23:59:60Z".toList) = .ok leap ∧
      Timestamp.parse "\t2016-12-31T23:59:60Z" = .ok leap ∧
      (∀ other, Layout.timestamp? Layout.extended (trim "\t2016-12-31T23:59:60Z".toList) =
        some other → other = leap) ∧
      Layout.timestamp? Layout.extended (trim "\t2016-12-31T23:59:60Z".toList) = some leap := by
  intro civil offset leap
  obtain ⟨spelled, unambiguous⟩ := spellings_agree
  obtain ⟨time, -, extended, compact, withoutSeconds, offsets⟩ := spelled civil
  obtain ⟨shifted, parsed, before, -⟩ := offsets offset
  have ahead : offset.seconds = 86340 := by decide
  rw [ahead] at before
  have accepted : OffsetTime.timestamp (trim "\t2016-12-31T23:59:60Z".toList) = .ok leap := by
    decide +kernel
  obtain ⟨read, alike⟩ := unambiguous _ leap accepted
  exact ⟨by decide +kernel, by decide +kernel, by decide +kernel, rfl, by decide +kernel,
    ⟨time, shifted, extended, compact, withoutSeconds rfl, parsed, before⟩, accepted, read,
    alike Layout.extended (.head _), by decide +kernel⟩

end StatelessPgp
