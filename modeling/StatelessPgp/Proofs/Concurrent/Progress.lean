import StatelessPgp.Concurrent.Progress

/-!
# Channels of an invocation

An invocation starts without any channels, and with none it ends when they are released.
-/

namespace StatelessPgp

namespace Progress

variable {operation : Operation}

theorem channels_drafted (channels : Channels) (draft : Draft)
    (options : List (String × Channel)) :
    (drafted channels draft options : Progress operation).channels = channels := by
  cases options <;> rfl

theorem channels_start (config : Config) (job : Job) :
    (start config job).channels = .new config.scratchParent := by
  unfold start
  split
  · rfl
  · exact channels_drafted _ _ _

theorem channels_of_released {host : Host} {config : Config} {job : Job}
    {progress later : Progress job.operation} {files left : FileTree} {turn : Turn}
    {result : Option (Except Failure job.operation.Result)}
    (steps : progress.step host config job files turn = some (later, left))
    (ends : later.stage = .released result) : later.channels = .new config.scratchParent := by
  cases turn with
  | drop =>
      rw [step, drop] at steps
      split at steps
      · cases steps
      · cases steps
        rfl
  | reserve =>
      rw [step, reserve] at steps
      split at steps
      · next draft option rest _ =>
          split at steps
          · cases steps
          · split at steps <;> cases steps
            · cases ends
            · cases rest <;> cases ends
      · cases steps
  | start place =>
      obtain ⟨next, launched, same⟩ := Option.map_eq_some_iff.1 steps
      cases same
      rw [launch] at launched
      split at launched
      · split at launched <;> cases launched <;> cases ends
      · cases launched
  | write channel bytes =>
      rw [step, attempt] at steps
      split at steps
      · next running _ =>
          cases steps
          cases running.symm.trans ends
      · cases steps
  | makeDirectory channel =>
      rw [step, attempt] at steps
      split at steps
      · next running _ =>
          cases steps
          cases running.symm.trans ends
      · cases steps
  | exit output report exit =>
      obtain ⟨next, ends, same⟩ := Option.map_eq_some_iff.1 steps
      cases same
      rw [finish] at ends
      split at ends
      · dsimp only at ends
        split at ends <;> cases ends <;> cases ends
      · cases ends
  | consume =>
      rw [step, consume] at steps
      split at steps
      · split at steps <;> cases steps <;> cases ends
      · cases steps

end Progress
end StatelessPgp
