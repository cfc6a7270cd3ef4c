import Mathlib.Logic.Function.Basic
import StatelessPgp.Proofs.Channels.Release
import StatelessPgp.Proofs.Files.Entry
import StatelessPgp.Session

/-!
# What a session should answer

A table with one slot for each channel says which answers to expect of a session.
-/

namespace StatelessPgp

/-- What there is to know about a channel. -/
structure Slot where
  reserved : Bool
  /-- What stands at the path of the channel. -/
  content : Content
  deriving DecidableEq, Repr

namespace Slot

/-- The slot of a channel that has not been used. -/
def unused : Slot := ⟨false, .nothing⟩

/-- The slot after the channel has been reserved: a new reservation starts with
nothing. -/
def reserve (slot : Slot) : Slot :=
  if slot.reserved then slot else ⟨true, .nothing⟩

/-- What consuming the channel yields. -/
def taken (slot : Slot) : Except SystemError (Option Bytes) :=
  if slot.reserved then
    match slot.content with
    | .nothing => .ok none
    | .data bytes => .ok (some bytes)
    | .directory => .error .isDirectory
  else .ok none

/-- The slot after the channel has been consumed: it is reserved no more, and only a
directory is left. -/
def consume (slot : Slot) : Slot :=
  if slot.reserved then ⟨false, slot.content.discard.toOption.getD slot.content⟩ else slot

/-- The slot after something has been attempted at the path. -/
def attempt (change : Content → Except SystemError Content) (slot : Slot) : Slot :=
  { slot with content := (change slot.content).toOption.getD slot.content }

end Slot

/-- The slots of all channels. -/
abbrev Slots := Channel → Slot

namespace Slots

/-- No channel has been used. -/
def unused : Slots := fun _ => .unused

/-- The slots after an event. -/
def after (slots : Slots) : Event → Answer → Slots
  | .reserve channel, .reserved (.ok _) =>
      Function.update slots channel (slots channel).reserve
  | .consume channel, _ => Function.update slots channel (slots channel).consume
  | .write channel bytes, _ =>
      Function.update slots channel ((slots channel).attempt (Content.write bytes))
  | .makeDirectory channel, _ =>
      Function.update slots channel ((slots channel).attempt Content.makeDirectory)
  | .drop, _ => unused
  | _, _ => slots

/-- The slots after a trace. -/
def ofTrace (trace : Session.Trace) : Slots :=
  trace.foldl (fun slots entry => slots.after entry.1 entry.2) unused

/-- The answers that the slots allow.  Reserving a channel that is not reserved may
always fail, and it does fail at a directory. -/
def Allows (slots : Slots) : Event → Answer → Prop
  | .reserve channel, .reserved result =>
      ((slots channel).reserved = true → ∃ path, result = .ok path) ∧
        (slots channel = ⟨false, .directory⟩ → ∃ error, result = .error error)
  | .path channel, .path path => path.isSome = (slots channel).reserved
  | .consume channel, .consumed result => result = (slots channel).taken
  | .write channel bytes, .attempted result =>
      (slots channel).reserved = true ∧
        result = ((slots channel).content.write bytes).map fun _ => ()
  | .makeDirectory channel, .attempted result =>
      (slots channel).reserved = true ∧
        result = (slots channel).content.makeDirectory.map fun _ => ()
  | .drop, .done | .elsewhere, .done => True
  | _, _ => False

end Slots

end StatelessPgp
