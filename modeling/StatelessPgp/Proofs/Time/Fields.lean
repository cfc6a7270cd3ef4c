import StatelessPgp.Proofs.Time.Written
import StatelessPgp.Proofs.Traversal
import StatelessPgp.Time.Offset

/-!
# Fields of two readers

Times in UTC are read by layouts, whose fields may be short and may follow blanks, and times
with an offset by fields of fixed widths.  Where the second reader takes a field, the first
takes the same digits, so that no layout gives another meaning to a time with an offset.
-/

namespace StatelessPgp

open Text

namespace OffsetTime

variable {width number : Nat} {text rest zone : List Char} {reading : Reading}
variable {time : Timestamp}

theorem byteLength_cons (character : Char) (rest : List Char) :
    byteLength (character :: rest) = character.utf8Size + byteLength rest := by
  simp [byteLength]

theorem length_le_byteLength (text : List Char) : text.length ≤ byteLength text := by
  induction text with
  | nil => simp
  | cons character rest hypothesis =>
      have size := character.utf8Size_pos
      rw [byteLength_cons, List.length_cons]
      omega

theorem byteLength_of_digits (digits : ∀ character ∈ text, isDigit character = true) :
    byteLength text = text.length := by
  induction text with
  | nil => simp [byteLength]
  | cons character rest hypothesis =>
      obtain ⟨digit, others⟩ := List.forall_mem_cons.1 digits
      have one : character.utf8Size = 1 := by
        rw [isDigit, Bool.and_eq_true, decide_eq_true_eq, decide_eq_true_eq] at digit
        exact Char.utf8Size_eq_one_iff.2 (UInt32.le_trans digit.2 (by decide))
      rw [byteLength_cons, hypothesis others, one, List.length_cons, Nat.add_comm]

/-- A field of fixed width is a run of so many digits. -/
theorem fixedNumber_eq_ok_iff : fixedNumber width text = .ok (number, rest) ↔
    ∃ run, text = run ++ rest ∧ run.length = width ∧
      (∀ character ∈ run, isDigit character = true) ∧ number = numberOfDigits run := by
  constructor
  · intro taken
    rw [fixedNumber] at taken
    split at taken
    · cases taken
    · next enough =>
        split at taken
        · next digits =>
            cases taken
            rw [List.all_eq_true] at digits
            refine ⟨text.take width, (List.take_append_drop width text).symm, ?_, digits, rfl⟩
            -- A shorter text would be nothing but digits, and so too short in bytes.
            by_contra short
            rw [List.length_take] at short
            rw [List.take_of_length_le (by omega)] at digits
            rw [byteLength_of_digits digits] at enough
            omega
        · cases taken
  · rintro ⟨run, rfl, rfl, digits, rfl⟩
    have enough := length_le_byteLength (run ++ rest)
    rw [List.length_append] at enough
    rw [fixedNumber, if_neg (by omega), List.take_left, List.drop_left,
      if_pos (List.all_eq_true.2 digits)]

theorem fixedNumber_paddedDigits (positive : 0 < width) (bounded : number < 10 ^ width)
    (rest : List Char) :
    fixedNumber width (paddedDigits width number ++ rest) = .ok (number, rest) :=
  fixedNumber_eq_ok_iff.2 ⟨_, rfl, length_paddedDigits positive bounded,
    fun _ => isDigit_of_mem_paddedDigits, (numberOfDigits_paddedDigits width number).symm⟩

theorem expect_eq_ok {accepts : Char → Bool} (found : expect accepts text = .ok rest) :
    ∃ mark, accepts mark = true ∧ text = mark :: rest := by
  cases text with
  | nil => cases found
  | cons mark later =>
      rw [expect] at found
      split at found
      · next accepted =>
          cases found
          exact ⟨mark, accepted, rfl⟩
      · cases found

theorem expect_mark {mark : Char} (found : expect (· == mark) text = .ok rest) :
    text = mark :: rest := by
  obtain ⟨_, same, rfl⟩ := expect_eq_ok found
  rw [beq_iff_eq.1 same]

/-- A date that is read consists of fields with marks between them. -/
theorem date_eq_ok {day : Date} (read : date text = .ok (day, rest)) :
    ∃ year month number afterYear afterMonth,
      fixedNumber 4 text = .ok (year, '-' :: afterYear) ∧
      fixedNumber 2 afterYear = .ok (month, '-' :: afterMonth) ∧
      fixedNumber 2 afterMonth = .ok (number, rest) ∧ day = ⟨year, month, number⟩ := by
  obtain ⟨⟨year, _⟩, year_eq, first⟩ := exists_of_bind_eq_ok read
  obtain ⟨afterYear, yearMark, second⟩ := exists_of_bind_eq_ok first
  obtain ⟨⟨month, _⟩, month_eq, third⟩ := exists_of_bind_eq_ok second
  obtain ⟨afterMonth, monthMark, fourth⟩ := exists_of_bind_eq_ok third
  obtain ⟨⟨number, _⟩, day_eq, fifth⟩ := exists_of_bind_eq_ok fourth
  rw [expect_mark yearMark] at year_eq
  rw [expect_mark monthMark] at month_eq
  dsimp only at fifth
  split at fifth
  · cases fifth
    exact ⟨year, month, number, afterYear, afterMonth, year_eq, month_eq, day_eq, rfl⟩
  · cases fifth

/-- So does a time of day, which a fraction may follow. -/
theorem timeOfDay_eq_ok {day : Date} (read : timeOfDay day text = .ok (reading, rest)) :
    ∃ hour minute second nanos afterHour afterMinute afterSecond,
      fixedNumber 2 text = .ok (hour, ':' :: afterHour) ∧
      fixedNumber 2 afterHour = .ok (minute, ':' :: afterMinute) ∧
      fixedNumber 2 afterMinute = .ok (second, afterSecond) ∧
      fraction afterSecond = .ok (nanos, rest) ∧
      reading = ⟨day.year, day.month, day.day, hour, minute, second, nanos⟩ := by
  obtain ⟨⟨hour, _⟩, hour_eq, first⟩ := exists_of_bind_eq_ok read
  obtain ⟨afterHour, hourMark, second⟩ := exists_of_bind_eq_ok first
  obtain ⟨⟨minute, _⟩, minute_eq, third⟩ := exists_of_bind_eq_ok second
  obtain ⟨afterMinute, minuteMark, fourth⟩ := exists_of_bind_eq_ok third
  obtain ⟨⟨seconds, afterSecond⟩, second_eq, fifth⟩ := exists_of_bind_eq_ok fourth
  obtain ⟨⟨nanos, _⟩, fraction_eq, sixth⟩ := exists_of_bind_eq_ok fifth
  rw [expect_mark hourMark] at hour_eq
  rw [expect_mark minuteMark] at minute_eq
  dsimp only at sixth
  split at sixth
  · cases sixth
    exact ⟨hour, minute, seconds, nanos, afterHour, afterMinute, afterSecond, hour_eq, minute_eq,
      second_eq, fraction_eq, rfl⟩
  · cases sixth

/-- A time with an offset is a date, a mark, a time of day and the offset. -/
theorem timestamp_eq_ok (read : timestamp text = .ok time) :
    ∃ day mark afterDate reading zone shift,
      date text = .ok (day, mark :: afterDate) ∧
      timeOfDay day afterDate = .ok (reading, zone) ∧ offset zone = .ok (shift, []) ∧
      reading.timestamp? shift = some time := by
  obtain ⟨⟨reading, zone⟩, reading_eq, first⟩ := exists_of_bind_eq_ok read
  obtain ⟨⟨shift, rest⟩, offset_eq, second⟩ := exists_of_bind_eq_ok first
  obtain ⟨day, mark, afterDate, date_eq, timeOfDay_eq⟩ : ∃ day mark afterDate,
      date text = .ok (day, mark :: afterDate) ∧
        timeOfDay day afterDate = .ok (reading, zone) := by
    rw [OffsetTime.reading] at reading_eq
    split at reading_eq
    · cases reading_eq
    · obtain ⟨⟨day, _⟩, date_eq, second⟩ := exists_of_bind_eq_ok reading_eq
      obtain ⟨afterDate, separated, third⟩ := exists_of_bind_eq_ok second
      obtain ⟨mark, -, same⟩ := expect_eq_ok separated
      rw [same] at date_eq
      exact ⟨day, mark, afterDate, date_eq, third⟩
  dsimp only at second
  split at second
  · cases second
  · next ended =>
      rw [Bool.not_eq_true, Bool.not_eq_false', List.isEmpty_iff] at ended
      subst ended
      refine ⟨day, mark, afterDate, reading, zone, shift, date_eq, timeOfDay_eq, offset_eq, ?_⟩
      split at second
      · cases second
      · split at second
        · next found =>
            cases second
            exact found
        · cases second

end OffsetTime

namespace Layout

variable {width number : Nat} {text rest : List Char}

/-- A run of digits that fills a field is what the field takes. -/
theorem number?_of_fixedNumber (positive : 0 < width)
    (taken : OffsetTime.fixedNumber width text = .ok (number, rest)) :
    number? (some width) text = some (number, rest) := by
  obtain ⟨run, rfl, rfl, digits, rfl⟩ := OffsetTime.fixedNumber_eq_ok_iff.1 taken
  have whole : digitRun (some run.length) (run ++ rest) = (run, rest) := by
    rw [digitRun, List.takeWhile_append_of_pos digits]
    simp
  exact number?_eq (List.length_pos_iff.1 positive) whole

theorem head_of_fixedNumber (positive : 0 < width)
    (taken : OffsetTime.fixedNumber width text = .ok (number, rest)) :
    ∃ first later, text = first :: later ∧ isDigit first = true := by
  obtain ⟨run, rfl, rfl, digits, rfl⟩ := OffsetTime.fixedNumber_eq_ok_iff.1 taken
  obtain ⟨first, later, rfl⟩ := List.exists_cons_of_ne_nil (List.length_pos_iff.1 positive)
  exact ⟨first, later ++ rest, rfl, digits first (.head _)⟩

theorem pair?_of_fixedNumber (taken : OffsetTime.fixedNumber 2 text = .ok (number, rest)) :
    pair? text = some (number, rest) := by
  obtain ⟨first, later, rfl, digit⟩ := head_of_fixedNumber (by decide) taken
  rw [pair?, trimStart_cons (isBlank_of_isDigit digit)]
  exact number?_of_fixedNumber (by decide) taken

theorem year?_of_fixedNumber (taken : OffsetTime.fixedNumber 4 text = .ok (number, rest)) :
    year? (trimStart text) = some ((number : Int), rest) := by
  obtain ⟨first, later, rfl, digit⟩ := head_of_fixedNumber (by decide) taken
  rw [trimStart_cons (isBlank_of_isDigit digit)]
  rw [year?_of_isDigit digit, number?_of_fixedNumber (by decide) taken]
  rfl

/-- A field does not begin with a mark. -/
theorem pair?_mark {mark : Char} (visible : isBlank mark = false) (other : isDigit mark = false)
    (rest : List Char) : pair? (mark :: rest) = none := by
  rw [pair?, trimStart_cons visible, number?, digitRun]
  simp [other]

/-- A text with an offset fits no layout but the first, and that only if it ends with the mark
for no offset.  The layout then says what the text says. -/
theorem reading_of_readFrom? {layout : List Item} {day : Date} {mark : Char}
    {afterDate zone : List Char} {shift : Int} {reading found : Reading} (known : layout ∈ all)
    (dated : OffsetTime.date text = .ok (day, mark :: afterDate))
    (timed : OffsetTime.timeOfDay day afterDate = .ok (reading, zone))
    (shifted : OffsetTime.offset zone = .ok (shift, []))
    (fits : readFrom? layout {} text = some found) : found = reading ∧ shift = 0 := by
  obtain ⟨year, month, number, afterYear, afterMonth, year_eq, month_eq, day_eq, rfl⟩ :=
    OffsetTime.date_eq_ok dated
  obtain ⟨hour, minute, second, nanos, afterHour, afterMinute, afterSecond, hour_eq, minute_eq,
    second_eq, fraction_eq, rfl⟩ := OffsetTime.timeOfDay_eq_ok timed
  have closed : pair? ('-' :: afterYear) = none := pair?_mark (by decide) (by decide) _
  have years := year?_of_fixedNumber year_eq
  have months := pair?_of_fixedNumber month_eq
  have days := pair?_of_fixedNumber day_eq
  have hours := pair?_of_fixedNumber hour_eq
  have minutes := pair?_of_fixedNumber minute_eq
  have seconds := pair?_of_fixedNumber second_eq
  simp only [all, List.mem_cons, List.not_mem_nil, or_false] at known
  rcases known with rfl | rfl | rfl
  case inl =>
      by_cases separated : mark = 'T'
      · simp only [extended, readFrom?, Item.read?, years, months, days, hours, minutes, seconds,
          separated, Option.map_some, if_true] at fits
        cases afterSecond with
        | nil => cases fits
        | cons first rest =>
            by_cases ended : first = 'Z'
            · subst ended
              cases rest with
              | nil =>
                  cases fits
                  cases fraction_eq
                  cases shifted
                  exact ⟨rfl, rfl⟩
              | cons => cases fits
            · simp [ended] at fits
      · simp [extended, readFrom?, Item.read?, years, months, days, separated] at fits
  case inr.inl => simp [compact, readFrom?, Item.read?, years, closed] at fits
  case inr.inr =>
      by_cases separated : mark = 'T' <;>
        simp [withoutSeconds, readFrom?, Item.read?, years, months, days, hours, minutes,
          separated] at fits

/-- A text that is a time with an offset has no other meaning in any layout. -/
theorem eq_of_timestamp {layout : List Item} {time other : Timestamp} (known : layout ∈ all)
    (accepted : OffsetTime.timestamp text = .ok time)
    (fits : timestamp? layout text = some other) : other = time := by
  obtain ⟨day, mark, afterDate, reading, zone, shift, dated, timed, shifted, placed⟩ :=
    OffsetTime.timestamp_eq_ok accepted
  rw [timestamp?] at fits
  split at fits
  · cases fits
  · next found read =>
      obtain ⟨rfl, rfl⟩ := reading_of_readFrom? known dated timed shifted read
      rw [fits] at placed
      exact Option.some.inj placed

end Layout

end StatelessPgp
