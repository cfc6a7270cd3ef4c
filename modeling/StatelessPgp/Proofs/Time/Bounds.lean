import StatelessPgp.Proofs.Time.Written
import StatelessPgp.Time.Bound

/-!
# Bounds on times as words

A bound is written as one of two words or as a time.  No time is written like one of the
words, so that each bound is read back as it was, but for the fraction of a second.  Only a
leap second within a minute is read back as the second after it.
-/

namespace StatelessPgp

open Text

namespace Timestamp

variable (time : Timestamp)

theorem truncate_truncate : time.truncate.truncate = time.truncate := by
  have nanos : time.truncate.truncate.nanos = time.truncate.nanos := by
    rw [nanos_truncate, nanos_truncate]
    omega
  rw [truncate] at nanos
  rw [truncate]
  congr 1

theorem render_truncate : time.truncate.render = time.render :=
  congrArg String.ofList time.written_truncate

theorem isRegular_truncate (regular : time.IsRegular) : time.truncate.IsRegular := by
  intro leap
  have long : 1000000000 ≤ time.truncate.nanos := of_decide_eq_true leap
  rw [nanos_truncate] at long
  exact regular (decide_eq_true (long.trans (Nat.sub_le _ _)))

/-- A year has a sign just when it would not be one of four digits. -/
theorem sign_yearDigits (year : Int) :
    (year < 0 → ['-'] <+: yearDigits year) ∧ (9999 < year → ['+'] <+: yearDigits year) := by
  cases year with
  | ofNat year =>
      refine ⟨fun negative => absurd negative (Int.natCast_nonneg year).not_gt, fun long => ?_⟩
      have long : 9999 < (year : Int) := long
      rw [yearDigits, if_neg (by omega)]
      exact ⟨_, rfl⟩
  | negSucc year => exact ⟨fun _ => ⟨_, rfl⟩, fun long => by omega⟩

theorem isPrefix_written : yearDigits time.date.year <+: time.written := by
  rw [written]
  simp only [List.append_assoc]
  exact List.prefix_append _ _

/-- A leap second at the end of a minute is the second 60. -/
theorem second_of_leap (leap : time.isLeap = true) (regular : time.IsRegular) :
    time.second = 60 := by
  have long : 1000000000 ≤ time.nanos := of_decide_eq_true leap
  have last := regular leap
  have short := time.nanos_lt
  rw [second, secondOfDay]
  omega

theorem isSuffix_written_of_leap (leap : time.isLeap = true) (regular : time.IsRegular) :
    [':', '6', '0', 'Z'] <:+ time.written := by
  have sixty : paddedDigits 2 60 = ['6', '0'] := by decide
  rw [written, time.second_of_leap leap regular, sixty, List.append_assoc]
  exact List.suffix_append _ _

end Timestamp

namespace TimeBound

/-- The bound without the fraction of the second of its time. -/
def truncate : TimeBound → TimeBound
  | .now => .now
  | .unbounded => .unbounded
  | .fixed time => .fixed time.truncate

/-- The bound as its word shows it. -/
def shown : TimeBound → TimeBound
  | .now => .now
  | .unbounded => .unbounded
  | .fixed time => .fixed time.shown

/-- A bound that is no leap second within a minute. -/
def IsRegular : TimeBound → Prop
  | .now | .unbounded => True
  | .fixed time => time.IsRegular

theorem shown_of_isRegular {bound : TimeBound} (regular : bound.IsRegular) :
    bound.shown = bound.truncate := by
  cases bound with
  | now | unbounded => rfl
  | fixed time => exact congrArg fixed (Timestamp.shown_of_isRegular regular)

/-- A written time ends with its zone, unlike the words for the other bounds. -/
theorem render_fixed_ne {time : Timestamp} {word : String}
    (other : word.toList.getLast? ≠ some 'Z') : (TimeBound.fixed time).render ≠ word := by
  rintro rfl
  apply other
  rw [render, Timestamp.render, String.toList_ofList, Timestamp.written,
    List.getLast?_concat]

theorem render_fixed_ne_now (time : Timestamp) : (TimeBound.fixed time).render ≠ "now" :=
  render_fixed_ne (by decide)

theorem render_fixed_ne_unbounded (time : Timestamp) : (TimeBound.fixed time).render ≠ "-" :=
  render_fixed_ne (by decide)

theorem strip_render (time : Timestamp) :
    strip (TimeBound.fixed time).render = (TimeBound.fixed time).render := by
  rw [render, Timestamp.render, strip, String.toList_ofList,
    trim_eq_self time.beginsVisibly_written time.endsVisibly_written]

theorem parse_render (bound : TimeBound) : parse bound.render = .ok bound.shown := by
  cases bound with
  | now => decide
  | unbounded => decide
  | fixed time =>
      have read : Timestamp.parse (TimeBound.fixed time).render = .ok time.shown :=
        time.parse_render
      rw [parse, strip_render, if_neg (render_fixed_ne_now time),
        if_neg (render_fixed_ne_unbounded time), read]
      rfl

end TimeBound

end StatelessPgp
