import StatelessPgp.Proofs.Text.Digits
import StatelessPgp.Proofs.Text.Words
import StatelessPgp.Proofs.Time.Calendar
import StatelessPgp.Proofs.Traversal
import StatelessPgp.Time.Bound

/-!
# Reading a written time

A timestamp that is written and read again has lost the fraction of its second, and a leap
second within a minute has become the second after it.  Each field of the layout takes its own
digits: a year with a sign goes on up to the mark after it, and all other fields have fixed
widths.
-/

namespace StatelessPgp

namespace Layout

open Text

variable {width number : Nat} {text rest : List Char}

theorem number?_eq {limit : Option Nat} {run : List Char} (filled : run ≠ [])
    (taken : digitRun limit text = (run, rest)) :
    number? limit text = some (numberOfDigits run, rest) := by
  rw [number?, taken]
  cases run with
  | nil => exact absurd rfl filled
  | cons first digits => rfl

/-- A field of fixed width takes its digits and no more. -/
theorem number?_some (positive : 0 < width) (bounded : number < 10 ^ width)
    (rest : List Char) :
    number? (some width) (paddedDigits width number ++ rest) = some (number, rest) := by
  have taken : digitRun (some width) (paddedDigits width number ++ rest) =
      (paddedDigits width number, rest) := by
    rw [digitRun, List.takeWhile_append_of_pos fun _ => isDigit_of_mem_paddedDigits]
    simp [length_paddedDigits positive bounded]
  rw [number?_eq (paddedDigits_ne_nil width number) taken, numberOfDigits_paddedDigits]

/-- Without a width, a field goes on up to the mark after it. -/
theorem number?_none {mark : Char} (ends : isDigit mark = false) (rest : List Char) :
    number? none (paddedDigits width number ++ mark :: rest) =
      some (number, mark :: rest) := by
  have taken : digitRun none (paddedDigits width number ++ mark :: rest) =
      (paddedDigits width number, mark :: rest) := by
    rw [digitRun, List.takeWhile_append_of_pos fun _ => isDigit_of_mem_paddedDigits]
    simp [ends]
  rw [number?_eq (paddedDigits_ne_nil width number) taken, numberOfDigits_paddedDigits]

theorem exists_paddedDigits (width number : Nat) :
    ∃ first digits, paddedDigits width number = first :: digits ∧ isDigit first = true := by
  obtain ⟨first, digits, run⟩ := List.exists_cons_of_ne_nil (paddedDigits_ne_nil width number)
  have member : first ∈ paddedDigits width number := by
    rw [run]
    exact .head _
  exact ⟨first, digits, run, isDigit_of_mem_paddedDigits member⟩

theorem beginsVisibly_paddedDigits (width number : Nat) (rest : List Char) :
    BeginsVisibly (paddedDigits width number ++ rest) := by
  obtain ⟨first, digits, run, digit⟩ := exists_paddedDigits width number
  rw [run]
  rintro character ⟨⟩
  exact isBlank_of_isDigit digit

theorem endsVisibly_paddedDigits (width number : Nat) :
    EndsVisibly (paddedDigits width number) := fun _ last =>
  isBlank_of_isDigit (isDigit_of_mem_paddedDigits (List.mem_of_mem_getLast? last))

theorem trimStart_paddedDigits (width number : Nat) (rest : List Char) :
    trimStart (paddedDigits width number ++ rest) = paddedDigits width number ++ rest :=
  trimStart_eq_self (beginsVisibly_paddedDigits width number rest)

theorem pair?_paddedDigits (bounded : number < 100) (rest : List Char) :
    pair? (paddedDigits 2 number ++ rest) = some (number, rest) := by
  rw [pair?, trimStart_paddedDigits]
  exact number?_some (by decide) bounded rest

/-- A year without a sign has at most four digits. -/
theorem year?_of_isDigit {first : Char} (digit : isDigit first = true) (rest : List Char) :
    year? (first :: rest) =
      (number? (some 4) (first :: rest)).map fun (number, rest) => ((number : Int), rest) := by
  unfold year?
  split
  · next same =>
      rw [(List.cons.inj same).1] at digit
      cases digit
  · next same =>
      rw [(List.cons.inj same).1] at digit
      cases digit
  · rfl

/-- A year is read back from its digits and its sign. -/
theorem year?_yearDigits (year : Int) (rest : List Char) :
    year? (trimStart (Timestamp.yearDigits year ++ '-' :: rest)) = some (year, '-' :: rest) := by
  cases year with
  | ofNat year =>
      rw [Timestamp.yearDigits]
      split
      · next short =>
          rw [trimStart_paddedDigits]
          have read : number? (some 4) (paddedDigits 4 year ++ '-' :: rest) =
              some (year, '-' :: rest) :=
            number?_some (by decide) (Nat.lt_succ_of_le short) _
          obtain ⟨first, digits, run, digit⟩ := exists_paddedDigits 4 year
          rw [run, List.cons_append] at read ⊢
          rw [year?_of_isDigit digit, read]
          rfl
      · rw [List.cons_append, trimStart_cons (by decide) _, year?,
          number?_none (by decide)]
        rfl
  | negSucc year =>
      rw [Timestamp.yearDigits, List.cons_append, trimStart_cons (by decide) _, year?,
        number?_none (by decide)]
      rfl

end Layout

namespace Timestamp

open Text Layout

variable (time : Timestamp)

/-- A leap second ends its minute. -/
def IsRegular : Prop :=
  time.isLeap = true → time.seconds % 60 = 59

instance : Decidable time.IsRegular :=
  inferInstanceAs (Decidable (_ → _))

variable {time} in
theorem not_isRegular_iff :
    ¬ time.IsRegular ↔ 1000000000 ≤ time.nanos ∧ time.seconds % 60 ≠ 59 := by
  rw [IsRegular, isLeap, decide_eq_true_iff, Classical.not_imp]

variable {time} in
theorem seconds_lt_of_not_isRegular (irregular : ¬ time.IsRegular) :
    time.seconds + 1 ≤ 8210266876799 := by
  have inside := (not_isRegular_iff.1 irregular).2
  have latest := time.latest
  omega

/-- The time that a written timestamp shows.  A leap second within a minute is shown as the
second after it. -/
def shown : Timestamp :=
  if regular : time.IsRegular then time.truncate
  else ⟨time.seconds + 1, 0, time.earliest.trans (Int.le_add_one le_rfl),
    seconds_lt_of_not_isRegular regular, by decide⟩

variable {time} in
theorem shown_of_isRegular (regular : time.IsRegular) : time.shown = time.truncate :=
  dif_pos regular

variable {time} in
theorem shown_of_not_isRegular (irregular : ¬ time.IsRegular) :
    time.shown.seconds = time.seconds + 1 ∧ time.shown.nanos = 0 := by
  rw [shown, dif_neg irregular]
  exact ⟨rfl, rfl⟩

theorem nanos_truncate : time.truncate.nanos = time.nanos - time.nanos % 1000000000 := by
  have short := time.nanos_lt
  rw [truncate]
  dsimp only
  split <;> omega

/-- What a written timestamp says. -/
def reading : Reading :=
  { year := time.date.year, month := time.date.month, day := time.date.day
    hour := time.hour, minute := time.minute, second := time.second }

theorem hour_lt : time.hour < 24 := by
  rw [hour, secondOfDay]
  omega

theorem minute_lt : time.minute < 60 := by
  rw [minute]
  omega

theorem second_le : time.second ≤ 60 := by
  have short := time.nanos_lt
  rw [second]
  omega

theorem isValid_date : time.date.isValid = true :=
  Date.isValid_ofDayNumber _

theorem month_lt : time.date.month < 100 :=
  (Date.month_bounds time.isValid_date).2.trans_lt (by decide)

theorem day_lt : time.date.day < 100 :=
  (Date.day_le time.isValid_date).trans_lt (by decide)

/-- A written timestamp fits the first layout. -/
theorem readFrom?_written : readFrom? extended {} time.written = some time.reading := by
  have short (number : Nat) (bounded : number < 100) (rest : List Char) :=
    pair?_paddedDigits bounded rest
  have month := fun rest => short time.date.month time.month_lt rest
  have day := fun rest => short time.date.day time.day_lt rest
  have hour := fun rest => short time.hour (Nat.lt_trans time.hour_lt (by decide)) rest
  have minute := fun rest => short time.minute (Nat.lt_trans time.minute_lt (by decide)) rest
  have second := fun rest =>
    short time.second (Nat.lt_of_le_of_lt time.second_le (by decide)) rest
  simp [written, extended, readFrom?, Item.read?, year?_yearDigits, month, day, hour, minute,
    second, reading]

/-- What is read back is placed on the time line where it is shown. -/
theorem timestamp?_reading : time.reading.timestamp? 0 = some time.shown := by
  have valid : time.reading.isValid = true := by
    have date : time.reading.date.isValid = true := time.isValid_date
    have hour : time.reading.hour ≤ 23 := Nat.le_of_lt_succ time.hour_lt
    have minute : time.reading.minute ≤ 59 := Nat.le_of_lt_succ time.minute_lt
    have second : time.reading.second ≤ 60 := time.second_le
    simp [Reading.isValid, date, hour, minute, second]
  have day : time.reading.date.dayNumber = time.seconds / 86400 :=
    Date.dayNumber_ofDayNumber _
  have hour : time.reading.hour = (time.seconds % 86400).toNat / 3600 := rfl
  have minute : time.reading.minute = (time.seconds % 86400).toNat / 60 % 60 := rfl
  have second : time.reading.second =
      (time.seconds % 86400).toNat % 60 + time.nanos / 1000000000 := rfl
  have short := time.nanos_lt
  have placed : time.reading.date.dayNumber * 86400 + time.reading.hour * 3600 +
        time.reading.minute * 60 + (min 59 time.reading.second : Nat) - 0 =
          time.shown.seconds ∧
      time.reading.nanos + (if time.reading.second = 60 then 1000000000 else 0) =
        time.shown.nanos ∧
      (1000000000 ≤ time.shown.nanos → time.shown.seconds % 60 = 59) := by
    have whole : time.reading.nanos = 0 := rfl
    by_cases regular : time.IsRegular
    · have ends := mt (fun inside => not_isRegular_iff.2 inside) (not_not.2 regular)
      have nanos := time.nanos_truncate
      have kept : time.truncate.seconds = time.seconds := rfl
      rw [shown_of_isRegular regular, kept]
      split <;> omega
    · obtain ⟨long, inside⟩ := not_isRegular_iff.1 regular
      obtain ⟨next, start⟩ := shown_of_not_isRegular regular
      rw [next, start]
      split <;> omega
  obtain ⟨seconds, nanos, leap⟩ := placed
  rw [Reading.timestamp?, if_pos valid]
  dsimp only
  rw [nanos, seconds, ofParts?,
    dif_pos ⟨time.shown.earliest, time.shown.latest, time.shown.nanos_lt, leap⟩]

theorem beginsVisibly_written : BeginsVisibly time.written := by
  have year (year : Int) (rest : List Char) : BeginsVisibly (yearDigits year ++ rest) := by
    cases year with
    | ofNat year =>
        rw [yearDigits]
        split
        · exact beginsVisibly_paddedDigits 4 year rest
        · rintro character ⟨⟩
          decide
    | negSucc year =>
        rintro character ⟨⟩
        decide
  rw [written]
  simp only [List.append_assoc]
  exact year _ _

theorem endsVisibly_written : EndsVisibly time.written := by
  intro character last
  rw [written, List.getLast?_concat] at last
  cases last
  decide

theorem written_ne_nil : time.written ≠ [] := by
  rw [written]
  exact List.append_ne_nil_of_right_ne_nil _ nofun

/-- A written timestamp holds digits, signs and marks, and no blank characters. -/
theorem not_mem_written {character : Char} (blank : isBlank character = true) :
    character ∉ time.written := by
  have digit : isDigit character = false := by
    by_contra digit
    rw [isBlank_of_isDigit (by simpa using digit)] at blank
    cases blank
  have padded (width number : Nat) : character ∉ paddedDigits width number := by
    intro member
    rw [isDigit_of_mem_paddedDigits member] at digit
    cases digit
  have mark (visible : Char) (shown : isBlank visible = false) : character ≠ visible := by
    rintro rfl
    rw [shown] at blank
    cases blank
  have year (year : Int) : character ∉ yearDigits year := by
    cases year with
    | ofNat year =>
        rw [yearDigits]
        split
        · exact padded 4 year
        · exact List.not_mem_cons_of_ne_of_not_mem (mark '+' (by decide)) (padded 4 year)
    | negSucc year =>
        exact List.not_mem_cons_of_ne_of_not_mem (mark '-' (by decide)) (padded 4 _)
  simp [written, padded, year, mark '-' (by decide), mark 'T' (by decide),
    mark ':' (by decide), mark 'Z' (by decide)]

/-- A timestamp that is written and read again is what it is shown as. -/
theorem parse_render : parse time.render = .ok time.shown := by
  have first : timestamp? extended time.written = some time.shown := by
    rw [timestamp?, readFrom?_written]
    exact time.timestamp?_reading
  have found : firstTimestamp? time.written = some time.shown := by
    rw [firstTimestamp?, Layout.all, List.findSome?_cons, first]
  rw [parse, render, String.toList_ofList,
    trim_eq_self time.beginsVisibly_written time.endsVisibly_written]
  rw [found]

theorem written_truncate : time.truncate.written = time.written := by
  have second : time.truncate.second = time.second := by
    have short := time.nanos_lt
    rw [Timestamp.second, Timestamp.second]
    change time.secondOfDay % 60 +
      (if 1000000000 ≤ time.nanos then 1000000000 else 0) / 1000000000 = _
    split <;> omega
  rw [written, written, second]
  rfl

/-- The time that is shown has the same written form. -/
theorem written_shown : time.shown.written = time.written := by
  by_cases regular : time.IsRegular
  · rw [shown_of_isRegular regular, written_truncate]
  · obtain ⟨long, inside⟩ := not_isRegular_iff.1 regular
    obtain ⟨next, start⟩ := shown_of_not_isRegular regular
    have short := time.nanos_lt
    -- The second after it lies in the same minute.
    have day : time.shown.dayNumber = time.dayNumber := by
      rw [dayNumber, dayNumber, next]
      omega
    have hour : time.shown.hour = time.hour := by
      rw [Timestamp.hour, Timestamp.hour, secondOfDay, secondOfDay, next]
      omega
    have minute : time.shown.minute = time.minute := by
      rw [Timestamp.minute, Timestamp.minute, secondOfDay, secondOfDay, next]
      omega
    have second : time.shown.second = time.second := by
      rw [Timestamp.second, Timestamp.second, secondOfDay, secondOfDay, next, start]
      omega
    rw [written, written, date, date, day, hour, minute, second]

variable {time}

theorem isRegular_of_ofParts? {seconds : Int} {nanos : Nat}
    (counted : ofParts? seconds nanos = some time) : time.IsRegular := by
  rw [ofParts?] at counted
  split at counted
  · next valid =>
      cases counted
      exact fun long => valid.2.2.2 (of_decide_eq_true long)
  · cases counted

theorem isRegular_of_reading {reading : Reading} {offset : Int}
    (placed : reading.timestamp? offset = some time) : time.IsRegular := by
  rw [Reading.timestamp?] at placed
  split at placed
  · exact isRegular_of_ofParts? placed
  · cases placed

theorem isRegular_of_layout {layout : List Item} {text : List Char}
    (fits : timestamp? layout text = some time) : time.IsRegular := by
  rw [timestamp?] at fits
  cases reads : readFrom? layout {} text with
  | none =>
      rw [reads] at fits
      cases fits
  | some reading =>
      rw [reads] at fits
      exact isRegular_of_reading fits

theorem isRegular_of_offsetTime {text : List Char}
    (fits : OffsetTime.timestamp text = .ok time) : time.IsRegular := by
  rw [OffsetTime.timestamp] at fits
  obtain ⟨⟨reading, rest⟩, -, fits⟩ := exists_of_bind_eq_ok fits
  obtain ⟨⟨offset, rest⟩, -, fits⟩ := exists_of_bind_eq_ok fits
  dsimp only at fits
  split at fits
  · cases fits
  split at fits
  · cases fits
  cases placed : reading.timestamp? offset with
  | none =>
      rw [placed] at fits
      cases fits
  | some found =>
      rw [placed] at fits
      cases fits
      exact isRegular_of_reading placed

/-- A leap second that is read ends its minute. -/
theorem isRegular_of_parse {text : String} (read : parse text = .ok time) : time.IsRegular := by
  rw [parse] at read
  cases first : firstTimestamp? (trim text.toList) with
  | some found =>
      rw [first] at read
      cases read
      obtain ⟨layout, -, fits⟩ := List.exists_of_findSome?_eq_some first
      exact isRegular_of_layout fits
  | none =>
      rw [first] at read
      cases other : OffsetTime.timestamp (trim text.toList) with
      | error defect =>
          rw [other] at read
          cases read
      | ok found =>
          rw [other] at read
          cases read
          exact isRegular_of_offsetTime other

end Timestamp
end StatelessPgp
