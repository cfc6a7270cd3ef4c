import StatelessPgp.Operation.Basic
import StatelessPgp.Proofs.Text.Words

/-!
# Reading side channels

Operations read side channels by computations that are put together from reading
single channels.  What reading one channel keeps is kept by all of them, also where
they fail half way.  Where they succeed, what they yield is in the texts of the channels.
-/

namespace StatelessPgp

/-- The text of what was found in a side channel, without the blank characters around it.
Where nothing was found, it is empty. -/
inductive Channel.Tells : Option Bytes → String → Prop where
  | nothing : Tells none ""
  | text {data : Bytes} {content : String} (decoded : Text.decode data = .ok content) :
      Tells (some data) (Text.strip content)

theorem Text.strip_strip (text : String) : strip (strip text) = strip text := by
  rw [strip, strip, String.toList_ofList,
    trim_eq_self (beginsVisibly_trim _) (endsVisibly_trim _)]

theorem Channel.Tells.strip_eq {found : Option Bytes} {text : String} (tells : Tells found text) :
    Text.strip text = text := by
  cases tells with
  | nothing => rfl
  | text => exact Text.strip_strip _

namespace ChannelReader

variable {α β : Type} {kept : Channels × FileTree → Prop} {directory : Location}

/-- A computation keeps a property of the channels and the files. -/
def Keeps (kept : Channels × FileTree → Prop) (directory : Location)
    (reader : ChannelReader α) : Prop :=
  ∀ state, kept state → kept (((reader directory).run state : _ × _).2)

theorem keeps_pure (value : α) : Keeps kept directory (pure value) :=
  fun _ holds => holds

theorem keeps_throw (failure : Failure) :
    Keeps kept directory (throw failure : ChannelReader α) :=
  fun _ holds => holds

theorem run_bind (first : ChannelReader α) (second : α → ChannelReader β)
    (state : Channels × FileTree) :
    ((first >>= second) directory).run state =
      match ((first directory).run state : _ × _) with
      | (.ok value, after) => (second value directory).run after
      | (.error failure, after) => (.error failure, after) := by
  change (match ((first directory).run state : _ × _) with
    | (outcome, after) =>
        (ExceptT.bindCont (fun value => second value directory) outcome) after) = _
  rcases ((first directory).run state : _ × _) with ⟨_ | _, _⟩ <;> rfl

theorem run_read (state : Channels × FileTree) :
    (((read : ChannelReader Location) directory).run state : _ × _) = (.ok directory, state) :=
  rfl

theorem run_get (state : Channels × FileTree) :
    (((get : ChannelReader (Channels × FileTree)) directory).run state : _ × _) =
      (.ok state, state) :=
  rfl

theorem run_consume (channel : Channel) (channels : Channels) (files : FileTree) :
    ((consume channel directory).run (channels, files) : _ × _) =
      ((channels.consume directory channel files).1.mapError .transfer,
        (channels.consume directory channel files).2) := by
  rw [consume, run_bind, run_read]
  dsimp only
  rw [run_bind, run_get]
  dsimp only
  rcases channels.consume directory channel files with ⟨error | data, after⟩ <;> rfl

theorem Keeps.bind {first : ChannelReader α} {second : α → ChannelReader β}
    (keepsFirst : Keeps kept directory first)
    (keepsSecond : ∀ value, Keeps kept directory (second value)) :
    Keeps kept directory (first >>= second) := by
  intro state holds
  have reached := keepsFirst state holds
  rw [run_bind]
  generalize ((first directory).run state : _ × _) = outcome at reached ⊢
  obtain ⟨failure | value, after⟩ := outcome
  · exact reached
  · exact keepsSecond value after reached

theorem run_liftExcept (result : Except Failure α) (state : Channels × FileTree) :
    ((Operation.readSessionKey.liftExcept result directory).run state : _ × _) =
      (result, state) := by
  cases result <;> rfl

theorem keeps_liftExcept (result : Except Failure α) :
    Keeps kept directory (Operation.readSessionKey.liftExcept result) := by
  intro state holds
  rw [run_liftExcept]
  exact holds

variable (consumes : ∀ (channel : Channel) (channels : Channels) (files : FileTree),
  kept (channels, files) → kept (channels.consume directory channel files).2)

include consumes

theorem keeps_consume (channel : Channel) :
    Keeps kept directory (ChannelReader.consume channel) := by
  rintro ⟨channels, files⟩ holds
  rw [run_consume]
  exact consumes channel channels files holds

theorem keeps_text (channel : Channel) : Keeps kept directory (text channel) := by
  unfold text
  refine (keeps_consume consumes channel).bind ?_
  intro data
  cases data with
  | none => exact keeps_pure none
  | some data =>
      dsimp only
      split
      · exact keeps_pure _
      · exact keeps_throw _

theorem keeps_readSessionKey : Keeps kept directory Operation.readSessionKey := by
  unfold Operation.readSessionKey
  refine (keeps_text consumes .sessionKey).bind ?_
  intro found
  cases found with
  | none => exact keeps_pure none
  | some found =>
      exact (keeps_liftExcept (SessionKey.parse found)).bind fun key => keeps_pure (some key)

theorem keeps_readVerifications : Keeps kept directory Operation.readVerifications := by
  unfold Operation.readVerifications
  refine (keeps_text consumes .verifications).bind ?_
  intro found
  cases found with
  | none => exact keeps_pure []
  | some found => exact keeps_liftExcept (Verification.parseAll found)

/-- Whatever reading one channel keeps is kept by every operation. -/
theorem keeps_finish (operation : Operation) (output : Bytes) :
    Keeps kept directory (operation.finish output) := by
  cases operation with
  | sign => exact (keeps_text consumes .micAlg).bind fun found => keeps_pure _
  | inlineDetach =>
      refine (keeps_consume consumes .signatures).bind ?_
      intro found
      cases found with
      | none => exact keeps_throw _
      | some signatures => exact keeps_pure signatures
  | verify => exact keeps_liftExcept (Operation.verificationsOf output)
  | inlineVerify => exact keeps_readVerifications consumes
  | encrypt => exact keeps_readSessionKey consumes
  | decrypt =>
      refine (keeps_readSessionKey consumes).bind ?_
      intro sessionKey
      exact (keeps_readVerifications consumes).bind fun verifications => keeps_pure _
  | _ => exact keeps_pure _

end ChannelReader

section

variable {α β : Type} {directory : Location} {channels : Channels} {files : FileTree}
variable {state after : Channels × FileTree}

namespace ChannelReader

theorem bind_eq_ok {first : ChannelReader α} {second : α → ChannelReader β} {value : β}
    (read : ((first >>= second) directory).run state = (.ok value, after)) :
    ∃ middle reached, (first directory).run state = (.ok middle, reached) ∧
      (second middle directory).run reached = (.ok value, after) := by
  rw [run_bind] at read
  rcases ran : ((first directory).run state : _ × _) with ⟨failure | middle, reached⟩
  · rw [ran] at read
    cases read
  · rw [ran] at read
    exact ⟨middle, reached, rfl, read⟩

theorem consume_eq_ok {channel : Channel} {found : Option Bytes}
    (read : ((consume channel directory).run (channels, files) : _ × _) = (.ok found, after)) :
    channels.consume directory channel files = (.ok found, after) := by
  rw [run_consume] at read
  rcases consumed : channels.consume directory channel files with ⟨error | data, reached⟩
  · rw [consumed] at read
    cases read
  · rw [consumed] at read
    cases read
    rfl

/-- Blank text counts as none. -/
theorem text_eq_ok {channel : Channel} {found : Option String}
    (read : ((text channel directory).run (channels, files) : _ × _) = (.ok found, after)) :
    ∃ data content, channels.consume directory channel files = (.ok data, after) ∧
      Channel.Tells data content ∧
      found = if content.isEmpty then none else some content := by
  rw [text] at read
  obtain ⟨data, reached, consumed, read⟩ := bind_eq_ok read
  have consumed := consume_eq_ok consumed
  cases data with
  | none =>
      cases read
      exact ⟨none, "", consumed, .nothing, rfl⟩
  | some data =>
      dsimp only at read
      cases decoded : Text.decode data with
      | error error =>
          rw [decoded] at read
          cases read
      | ok content =>
          rw [decoded] at read
          obtain ⟨same, rfl⟩ := Prod.ext_iff.1 read
          exact ⟨some data, Text.strip content, consumed, .text decoded,
            (Except.ok.inj same).symm⟩

end ChannelReader

namespace Operation

theorem readSessionKey_eq_ok {key : Option SessionKey}
    (read : ((readSessionKey directory).run (channels, files) : _ × _) = (.ok key, after)) :
    ∃ data, channels.consume directory .sessionKey files = (.ok data, after) ∧
      ∀ reported, key = some reported →
        ∃ content, Channel.Tells data content ∧ SessionKey.parse content = .ok reported := by
  rw [readSessionKey] at read
  obtain ⟨found, reached, said, read⟩ := ChannelReader.bind_eq_ok read
  obtain ⟨data, content, consumed, tells, rfl⟩ := ChannelReader.text_eq_ok said
  by_cases blank : content.isEmpty = true
  · rw [if_pos blank] at read
    cases read
    exact ⟨data, consumed, nofun⟩
  · rw [if_neg blank] at read
    dsimp only at read
    obtain ⟨reported, _, parsed, read⟩ := ChannelReader.bind_eq_ok read
    rw [ChannelReader.run_liftExcept] at parsed
    obtain ⟨parsed, rfl⟩ := Prod.ext_iff.1 parsed
    cases read
    refine ⟨data, consumed, fun other same => ⟨content, tells, ?_⟩⟩
    cases same
    exact parsed

theorem readVerifications_eq_ok {records : List Verification}
    (read : ((readVerifications directory).run (channels, files) : _ × _) =
      (.ok records, after)) :
    ∃ data content, channels.consume directory .verifications files = (.ok data, after) ∧
      Channel.Tells data content ∧ Verification.parseAll content = .ok records := by
  rw [readVerifications] at read
  obtain ⟨found, reached, said, read⟩ := ChannelReader.bind_eq_ok read
  obtain ⟨data, content, consumed, tells, rfl⟩ := ChannelReader.text_eq_ok said
  by_cases blank : content.isEmpty = true
  · rw [if_pos blank] at read
    cases read
    refine ⟨data, content, consumed, tells, ?_⟩
    rw [String.isEmpty_iff.1 blank]
    rfl
  · rw [if_neg blank] at read
    dsimp only at read
    rw [ChannelReader.run_liftExcept] at read
    obtain ⟨parsed, rfl⟩ := Prod.ext_iff.1 read
    exact ⟨data, content, consumed, tells, parsed⟩

end Operation

end

end StatelessPgp
