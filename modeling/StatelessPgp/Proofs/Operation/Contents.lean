import StatelessPgp.Proofs.Files.Removal
import StatelessPgp.Proofs.Operation.Reservation
import StatelessPgp.Proofs.Text.Lines

/-!
# What side channels are read as

The result of reading a side channel is a function of the data that is found in it.  Where the
file of a channel holds data, that is what is found, also after another channel has been read.
-/

namespace StatelessPgp

open FileTree

/-- What the data in a side channel is read as: its text without the blank characters around it,
if any text is left. -/
def Channel.textOf (channel : Channel) : Option Bytes → Except Failure (Option String)
  | none => .ok none
  | some data =>
      match Text.decode data with
      | .ok text => .ok (Text.stripped? text)
      | .error error =>
          .error (.because .badData ("Backend wrote non UTF-8 data to " ++ channel.fileName)
            error.message)

section

variable {directory : Location} {channels : Channels} {files : FileTree} {found : Option Bytes}
variable {after : Channels × FileTree}

theorem ChannelReader.run_text {channel : Channel}
    (consumed : channels.consume directory channel files = (.ok found, after)) :
    ((text channel directory).run (channels, files) : _ × _) = (channel.textOf found, after) := by
  rw [text, run_bind, run_consume, consumed]
  cases found with
  | none => rfl
  | some data =>
      rw [Channel.textOf]
      dsimp only [Except.mapError]
      cases Text.decode data <;> rfl

namespace Operation

theorem run_readSessionKey
    (consumed : channels.consume directory .sessionKey files = (.ok found, after)) :
    ((readSessionKey directory).run (channels, files) : _ × _) =
      ((Channel.sessionKey.textOf found).bind fun
        | none => .ok none
        | some text => (SessionKey.parse text).map some, after) := by
  rw [readSessionKey, ChannelReader.run_bind, ChannelReader.run_text consumed]
  cases Channel.sessionKey.textOf found with
  | error failure => rfl
  | ok text =>
      cases text with
      | none => rfl
      | some text =>
          dsimp only [Except.bind]
          rw [ChannelReader.run_bind, ChannelReader.run_liftExcept]
          cases SessionKey.parse text <;> rfl

theorem run_readVerifications
    (consumed : channels.consume directory .verifications files = (.ok found, after)) :
    ((readVerifications directory).run (channels, files) : _ × _) =
      ((Channel.verifications.textOf found).bind fun
        | none => .ok []
        | some text => Verification.parseAll text, after) := by
  rw [readVerifications, ChannelReader.run_bind, ChannelReader.run_text consumed]
  cases Channel.verifications.textOf found with
  | error failure => rfl
  | ok text =>
      cases text with
      | none => rfl
      | some text => exact ChannelReader.run_liftExcept _ _

theorem run_finish_sign (output : Bytes)
    (consumed : channels.consume directory .micAlg files = (.ok found, after)) :
    ((Operation.sign.finish output directory).run (channels, files) : _ × _) =
      ((Channel.micAlg.textOf found).map fun text => (text.map MicAlg.ofText).getD MicAlg.empty,
        after) := by
  rw [finish, ChannelReader.run_bind, ChannelReader.run_text consumed]
  cases Channel.micAlg.textOf found <;> rfl

end Operation

end

namespace FileTree

variable {tree : FileTree} {base location : Location} {path : Path}

theorem find_eq_ok_iff {followLast : Bool} {entry : Entry} :
    tree.find base path followLast = .ok (location, entry) ↔
      tree.resolve base path followLast = .ok location ∧ tree.get? location = some entry := by
  rw [find]
  cases tree.resolve base path followLast with
  | error error => simp
  | ok place =>
      dsimp only
      constructor
      · intro leads
        split at leads
        · cases leads
        · next found =>
            cases leads
            exact ⟨rfl, found⟩
      · rintro ⟨⟨⟩, found⟩
        rw [found]

end FileTree

namespace Channels

variable {base : Location} {channels : Channels} {files before : FileTree} {channel : Channel}
variable {data : Bytes}

/-- The file of a reserved channel holds data. -/
def Holds (channels : Channels) (base : Location) (files : FileTree) (channel : Channel)
    (data : Bytes) : Prop :=
  ∃ path location, channels.path? channel = some path ∧
    files.find base path false = .ok (location, .file data)

theorem eq_join_of_path? {parent path : Path}
    (named : ∀ entry ∈ channels.reserved, entry.2 = parent.join (Path.ofText entry.1.fileName))
    (reserved : channels.path? channel = some path) :
    path = parent.join (Path.ofText channel.fileName) :=
  named _ (mem_of_path? reserved)

/-- The path of a channel does not end with a slash. -/
theorem Owned.getLast?_path (owned : channels.Owned base before files) {path : Path}
    (reserved : channels.path? channel = some path) : path.getLast? ≠ some Path.slash := by
  cases owned with
  | unopened _ empty => cases (path?_of_empty empty channel).symm.trans reserved
  | opened parent place _ _ _ _ named =>
      rw [eq_join_of_path? named reserved]
      exact Path.getLast?_join channel.isProper_fileName

/-- What a file holds is found when its channel is consumed. -/
theorem Holds.consume (holds : channels.Holds base files channel data)
    (proper : ∀ path, channels.path? channel = some path → path.getLast? ≠ some Path.slash) :
    ∃ left, channels.consume base channel files =
      (.ok (some data), channels.forget channel, left) := by
  obtain ⟨path, location, reserved, leads⟩ := holds
  obtain ⟨resolved, found⟩ := find_eq_ok_iff.1 leads
  have ends := proper path reserved
  have reads : files.read base path = .ok data := by
    rw [FileTree.read, find_followed resolved found]
    rfl
  have discards : files.discard base path = .ok (files.erase location) := by
    rw [FileTree.discard, removeFile, resolveName_eq_resolve files base ends, resolved]
    dsimp only
    rw [found]
    simp only [ends, if_false]
  refine ⟨files.erase location, ?_⟩
  rw [Channels.consume, reserved]
  dsimp only
  rw [reads, discards]

/-- The file of a channel goes on holding its data when another channel is consumed, whatever
stands at the paths of the channels. -/
theorem Holds.after_consume {made : FileTree} {other : Channel} {found : Option Bytes}
    {later : Channels} {left : FileTree} (holds : channels.Holds base files channel data)
    (owned : channels.Owned base before made) (closed : files.Closed) (differs : channel ≠ other)
    (consumes : channels.consume base other files = (.ok found, later, left)) :
    later.Holds base left channel data := by
  obtain ⟨path, location, reserved, leads⟩ := holds
  unfold Channels.consume at consumes
  cases known : channels.path? other with
  | none =>
      rw [known] at consumes
      cases consumes
      exact ⟨path, location, reserved, leads⟩
  | some otherPath =>
      rw [known] at consumes
      dsimp only at consumes
      split at consumes
      · cases consumes
      · next discarded done =>
          simp only [Prod.mk.injEq] at consumes
          obtain ⟨read, rfl, rfl⟩ := consumes
          refine ⟨path, location, (path?_forget_of_ne channels differs).trans reserved, ?_⟩
          rcases discard_eq_ok done with rfl | removed
          · exact leads
          have readable (error : SystemError) (fails : files.read base otherPath = .error error) :
              error.isMissing = true := by
            by_contra present
            simp [fails, present] at read
          cases owned with
          | unopened _ empty => cases (path?_of_empty empty channel).symm.trans reserved
          | opened parent _ _ absolute _ _ named =>
              obtain rfl := eq_join_of_path? named reserved
              obtain rfl := eq_join_of_path? named known
              have proper := channel.isProper_fileName
              have ends : (parent.join (Path.ofText channel.fileName)).getLast? ≠
                  some Path.slash := Path.getLast?_join proper
              obtain ⟨resolved, stands⟩ := find_eq_ok_iff.1 leads
              rw [← resolveName_eq_resolve files base ends] at resolved
              have apart : Path.ofText channel.fileName ≠ Path.ofText other.fileName :=
                fun same => differs (Channel.fileName_inj same)
              obtain ⟨still, same⟩ := resolveName_beside closed absolute other.isProper_fileName
                proper apart removed readable resolved
              rw [find_eq_ok_iff, ← resolveName_eq_resolve discarded base ends]
              exact ⟨still, same.trans stands⟩

end Channels
end StatelessPgp
