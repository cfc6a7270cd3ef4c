import StatelessPgp.Proofs.Operation.Reading
import StatelessPgp.Proofs.Text.Words

/-!
# Reports without records

A backend reports verified signatures in lines, of which blank ones do not count.  So a
report of nothing but blank characters holds no record, like one that was never written.
-/

namespace StatelessPgp

/-- Data that is text of nothing but blank characters. -/
def Text.IsBlankData (data : Bytes) : Prop :=
  ∃ text, decode data = .ok text ∧ ∀ character ∈ text.toList, isBlank character = true

namespace Operation

theorem verificationsOf_of_blank {output : Bytes} (blank : Text.IsBlankData output) :
    verificationsOf output = .ok [] := by
  obtain ⟨text, decoded, blank⟩ := blank
  rw [verificationsOf, decoded]
  dsimp only
  rw [Verification.parseAll, Text.filledLines_of_blank blank]
  rfl

end Operation

namespace ChannelReader

variable {directory : Location} {channel : Channel} {channels : Channels} {files : FileTree}

theorem run_text_of_blank {found : Option Bytes}
    (consumed : (channels.consume directory channel files).1 = .ok found)
    (blank : ∀ data, found = some data → Text.IsBlankData data) :
    ((text channel directory).run (channels, files) : _ × _) =
      (.ok none, (channels.consume directory channel files).2) := by
  rw [text, run_bind, run_consume, consumed]
  cases found with
  | none => rfl
  | some data =>
      obtain ⟨content, decoded, blank⟩ := blank data rfl
      have stripped : Text.stripped? content = none := by
        rw [Text.stripped?, Text.strip, Text.trim_of_blank blank]
        rfl
      simp only [Except.mapError, decoded, stripped]
      rfl

end ChannelReader

theorem Operation.finish_verify (output : Bytes) (directory : Location)
    (state : Channels × FileTree) :
    ((Operation.verify.finish output directory).run state : _ × _).1 = verificationsOf output :=
  congrArg Prod.fst (ChannelReader.run_liftExcept _ _)

/-- A side channel without data, or with blank data only, reports nothing. -/
theorem Operation.readVerifications_of_blank {directory : Location} {channels : Channels}
    {files : FileTree} {found : Option Bytes}
    (consumed : (channels.consume directory .verifications files).1 = .ok found)
    (blank : ∀ data, found = some data → Text.IsBlankData data) :
    ((readVerifications directory).run (channels, files) : _ × _).1 = .ok [] := by
  rw [readVerifications, ChannelReader.run_bind,
    ChannelReader.run_text_of_blank consumed blank]
  rfl

end StatelessPgp
