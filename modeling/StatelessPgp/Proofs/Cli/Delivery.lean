import StatelessPgp.Proofs.Cli.Launch
import StatelessPgp.Proofs.Designator.Outputs

/-!
# Delivering results

After a successful run, the side channels are read and released, and then each output is
opened and written in order.  What has been delivered stays: later outputs are other files,
or they are written after it.
-/

namespace StatelessPgp

open FileTree

/-- Reading a channel creates no entry. -/
theorem Channels.isPart_consume (channels : Channels) (base : Location) (channel : Channel)
    (files : FileTree) : (channels.consume base channel files).2.2.IsPart files := by
  rw [consume]
  split
  · exact .refl files
  · split
    · exact .refl files
    · next discarded => exact isPart_discard discarded

namespace Cli

/-- The run of a launch ends with status zero. -/
structure Launch.Succeeds (host : Host) (config : Config) (launch : Launch) (call : Call) :
    Prop where
  started : host.call config launch.command launch.input launch.world.files = .ok call
  exited : (host.backend call launch.world.files).exit = some (.status 0)

namespace Launch

/-- The files that the backend leaves. -/
def left (launch : Launch) (host : Host) (call : Call) : FileTree :=
  (host.backend call launch.world.files).files

/-- What has been written, and the world, when the results of a successful run have been
read and its side channels have been released. -/
def settled (launch : Launch) (host : Host) (operation : Operation) (call : Call) : Console :=
  let output := (host.backend call launch.world.files).output
  let read := ((operation.finish output host.directory).run
    (launch.channels, launch.left host call) : _ × _)
  ⟨if operation.isStreamed then output else [], [],
    ⟨read.2.1.release host.directory read.2.2, call :: launch.world.calls⟩⟩

variable {launch : Launch} {host : Host} {call : Call} {rest : FileTree}

/-- Afterwards the files are those that the backend leaves, without the private
directory. -/
theorem sameEntries_settled (closed : rest.Closed)
    (owned : launch.channels.Owned host.directory rest (launch.left host call))
    (operation : Operation) :
    (launch.settled host operation call).world.files.SameEntries rest := by
  have keeps : ChannelReader.Keeps (fun state => state.1.Owned host.directory rest state.2)
      host.directory (operation.finish (host.backend call launch.world.files).output) := by
    apply ChannelReader.keeps_finish
    intro channel channels files kept
    exact kept.consume closed channel
  exact (keeps (launch.channels, launch.left host call) owned).release closed

theorem isPart_settled (launch : Launch) (host : Host) (operation : Operation) (call : Call) :
    (launch.settled host operation call).world.files.IsPart (launch.left host call) := by
  have keeps : ChannelReader.Keeps (fun state => state.2.IsPart (launch.left host call))
      host.directory (operation.finish (host.backend call launch.world.files).output) := by
    apply ChannelReader.keeps_finish
    intro channel channels files kept
    exact (channels.isPart_consume host.directory channel files).trans kept
  exact (Channels.isPart_release _ _ _).trans
    (keeps (launch.channels, launch.left host call) (.refl _))

end Launch

section

variable {host : Host} {config : Config} {input : Bytes} {world : World} {task : Task}

/-- A backend that keeps to the private directory leaves what there was before the
launch, and the private directory. -/
theorem Request.Launches.owned {launch : Launch} {call : Call}
    (launches : Request.Launches host config input world (.operate task) launch)
    (closed : world.files.Closed)
    (confined : launch.channels.Confined host.directory launch.world.files
      (launch.left host call)) :
    launch.channels.Owned host.directory world.files (launch.left host call) := by
  cases launches with
  | task checked prepared portable =>
      have owned := Operation.prepare_owned closed prepared
      exact owned.confined closed confined

/-- After a successful run, its results are read and then delivered. -/
theorem Task.perform_of_launch {launch : Launch} {call : Call}
    (launches : Request.Launches host config input world (.operate task) launch)
    (succeeds : launch.Succeeds host config call) :
    task.plan.perform host config input world =
      match (((task.plan.operation.finish (host.backend call launch.world.files).output
          host.directory).run (launch.channels, launch.left host call) : _ × _).1.bind
            task.plan.deliver) with
      | .error failure => (.error failure, launch.settled host task.plan.operation call)
      | .ok delivery =>
          ((launch.settled host task.plan.operation call).print
            (Text.encode delivery.printed)).deliverAll host delivery.outputs := by
  cases launches with
  | @task _ settings ready made checked prepared portable =>
      have same := Operation.prepare_config prepared
      subst same
      obtain ⟨completed, executed⟩ := Command.execute_of_succeeded
        (Secrets.validate_of_portable portable) succeeds.started succeeds.exited
      have finished := (Ready.run_of_ok executed).1
      have settled : (Console.start (ready.run host { world with files := made }).world).print
          (ready.run host { world with files := made }).output =
            Launch.settled ⟨ready.command, ready.input, ready.channels, world.files,
              { world with files := made }⟩ host task.plan.operation call := by
        rw [Ready.run, executed]
        rfl
      rw [Plan.perform, checked]
      dsimp only
      rw [Operation.invoke, prepared]
      dsimp only
      rw [finished, settled]
      rfl

/-- What has been read after a successful run is delivered. -/
theorem Task.perform_of_read {launch : Launch} {call : Call}
    {value : task.plan.operation.Result}
    (launches : Request.Launches host config input world (.operate task) launch)
    (succeeds : launch.Succeeds host config call)
    (read : ((task.plan.operation.finish (host.backend call launch.world.files).output
        host.directory).run (launch.channels, (host.backend call launch.world.files).files) :
          _ × _).1 = .ok value) :
    task.plan.perform host config input world =
      match task.plan.deliver value with
      | .error failure => (.error failure, launch.settled host task.plan.operation call)
      | .ok delivery =>
          ((launch.settled host task.plan.operation call).print
            (Text.encode delivery.printed)).deliverAll host delivery.outputs := by
  rw [perform_of_launch launches succeeds, Launch.left, read]
  rfl

/-- A run ends with status zero, and its results can be read and delivered. -/
structure Task.Completes (host : Host) (config : Config) (input : Bytes) (world : World)
    (task : Task) (launch : Launch) (call : Call) (value : task.plan.operation.Result)
    (delivery : Delivery) : Prop where
  launches : Request.Launches host config input world (.operate task) launch
  succeeds : launch.Succeeds host config call
  read : ((task.plan.operation.finish (host.backend call launch.world.files).output
    host.directory).run (launch.channels, launch.left host call) : _ × _).1 = .ok value
  delivered : task.plan.deliver value = .ok delivery

/-- Carrying out a task succeeds only after a successful run, in which something has been
read that can be delivered. -/
theorem Task.exists_completes (direct : task.plan.operation ≠ .validateUserId)
    (performed : (task.plan.perform host config input world).1 = .ok ()) :
    ∃ launch call value delivery,
      task.Completes host config input world launch call value delivery := by
  rw [Plan.perform] at performed
  cases checked : task.plan.settings host world.files with
  | error failure => simp [checked] at performed
  | ok settings =>
      rw [checked] at performed
      dsimp only at performed
      rw [Operation.invoke] at performed
      rcases prepared : task.plan.operation.prepare host config settings input world.files with
        ⟨failure | ready, made⟩
      · simp [prepared, Except.bind] at performed
      · rw [prepared] at performed
        dsimp only at performed
        have ends := ready.ends_run host { world with files := made } direct
        cases found : (ready.run host { world with files := made }).result with
        | error failure => simp [found, Except.bind] at performed
        | ok value =>
            obtain ⟨portable, call, started, exited, read⟩ := ends.of_ok found
            rw [found, Except.bind] at performed
            cases delivered : task.plan.deliver value with
            | error failure => simp [delivered] at performed
            | ok delivery =>
                have same := Operation.prepare_config prepared
                subst same
                exact ⟨_, call, value, delivery, .task checked prepared portable,
                  ⟨started, exited⟩, read, delivered⟩

end

/-- A session key is written where one has been asked for, which takes that one has been
reported. -/
theorem Delivery.sessionKey_cases {token : Option String} {key : Option SessionKey}
    {delivery : Delivery} (delivered : Delivery.sessionKey token key = .ok delivery) :
    (token = none ∧ delivery = {}) ∨ ∃ output reported,
      token = some output ∧ key = some reported ∧
        delivery = { outputs := [(output, Text.encode (reported.render ++ "\n"))] } := by
  cases token with
  | none =>
      cases delivered
      exact .inl ⟨rfl, rfl⟩
  | some output =>
      cases key with
      | none => cases delivered
      | some reported =>
          cases delivered
          exact .inr ⟨output, reported, rfl, rfl, rfl⟩

theorem Delivery.outputs_sessionKey {token : Option String} {key : Option SessionKey}
    {delivery : Delivery} (delivered : Delivery.sessionKey token key = .ok delivery) :
    delivery.outputs.map Prod.fst = token.toList := by
  rcases sessionKey_cases delivered with ⟨rfl, rfl⟩ | ⟨_, _, rfl, -, rfl⟩ <;> rfl

theorem Delivery.outputs_toOutput (token : Option String) (data : Bytes) :
    (Delivery.toOutput token data).outputs.map Prod.fst = token.toList := by
  cases token <;> rfl

/-- What is delivered of a message that has been decrypted. -/
theorem Decrypting.deliver_eq_ok {request : Decrypting} {value : Decryption}
    {delivery : Delivery} (delivered : request.plan.deliver value = .ok delivery) :
    ∃ first, Delivery.sessionKey request.sessionKeyOut value.sessionKey = .ok first ∧
      delivery = { outputs := first.outputs ++ (Delivery.toOutput request.verificationsOut
        (Delivery.report value.verifications)).outputs } := by
  change (Delivery.sessionKey request.sessionKeyOut value.sessionKey).bind _ = _ at delivered
  cases key : Delivery.sessionKey request.sessionKeyOut value.sessionKey with
  | error failure => simp [key, Except.bind] at delivered
  | ok first =>
      rw [key, Except.bind] at delivered
      cases delivered
      exact ⟨first, rfl, rfl⟩

theorem Task.outputs_deliverMatch {userId : String} {matched : Bool} {delivery : Delivery}
    (delivered : deliverMatch userId matched = .ok delivery) : delivery.outputs = [] := by
  rw [deliverMatch] at delivered
  split at delivered <;> cases delivered
  rfl

theorem Task.outputs_deliverVerified {verifications : List Verification} {delivery : Delivery}
    (delivered : deliverVerified verifications = .ok delivery) : delivery.outputs = [] := by
  rw [deliverVerified] at delivered
  split at delivered <;> cases delivered
  rfl

/-- Exactly the outputs that were checked beforehand are delivered, in their order. -/
theorem Task.outputs_of_deliver {task : Task} {value : task.plan.operation.Result}
    {delivery : Delivery} (delivered : task.plan.deliver value = .ok delivery) :
    delivery.outputs.map Prod.fst = task.plan.outputs := by
  cases task with
  | validateUserId => exact congrArg (List.map Prod.fst) (outputs_deliverMatch delivered)
  | verify => exact congrArg (List.map Prod.fst) (outputs_deliverVerified delivered)
  | encrypt request => exact Delivery.outputs_sessionKey delivered
  | decrypt request =>
      obtain ⟨first, key, rfl⟩ := Decrypting.deliver_eq_ok delivered
      rw [List.map_append, Delivery.outputs_sessionKey key, Delivery.outputs_toOutput]
      rfl
  | sign | inlineVerify =>
      cases delivered
      exact Delivery.outputs_toOutput _ _
  | _ =>
      cases delivered
      rfl

namespace Console

variable {host : Host} {token : String} {data : Bytes} {console before after : Console}

/-- The same console over other files. -/
def withFiles (console : Console) (files : FileTree) : Console :=
  { console with world := { console.world with files } }

/-- What opening an output and writing data to it does. -/
inductive Takes (host : Host) (token : String) (data : Bytes) (console : Console) :
    Descriptor → Console → Prop where
  | made {path : String} {location : Location} {files : FileTree}
      (named : Designator.parse token = .ok (.file path))
      (leads : host.LeadsTo console.world.files token location)
      (vacant : console.world.files.get? location = none)
      (deposited : Deposited location data console.world.files files) :
      Takes host token data console (.file location) (console.withFiles files)
  /-- What is longer than the data stays behind it. -/
  | overwritten {number : Nat} {location : Location} {old : Bytes} {files : FileTree}
      (named : Designator.parse token = .ok (.descriptor number))
      (former : console.world.files.get? location = some (.file old))
      (deposited : Deposited location (FileTree.overlay data old) console.world.files files) :
      Takes host token data console (.file location) (console.withFiles files)
  /-- What is open is no file. -/
  | lost {number : Nat} {location : Location}
      (named : Designator.parse token = .ok (.descriptor number))
      (missing : ∀ old, console.world.files.get? location ≠ some (.file old)) :
      Takes host token data console (.file location) console
  | printed {number : Nat} (named : Designator.parse token = .ok (.descriptor number)) :
      Takes host token data console .output (console.print data)
  | reported {number : Nat} (named : Designator.parse token = .ok (.descriptor number)) :
      Takes host token data console .report { console with report := console.report ++ data }

theorem ne_root_of_vacant {files : FileTree} {location : Location}
    (vacant : files.get? location = none) : location ≠ [] := by
  rintro rfl
  cases vacant

theorem deliver_of_grants {descriptor : Descriptor} {opened : FileTree}
    (grants : host.Grants console.world.files token descriptor opened) (data : Bytes) :
    ∃ after, console.deliver host token data = (.ok (), after) ∧
      Takes host token data console descriptor after := by
  rw [deliver, Host.openOutput_eq_ok_iff.2 grants]
  cases grants with
  | @file path location named proper leads vacant parent =>
      have inside := ne_root_of_vacant vacant
      have made := Deposited.of_set console.world.files [] inside (by simp [vacant])
      have written := Deposited.of_set _ (FileTree.overlay data []) inside
        (fun entry found => ⟨[], Option.some.inj (found.symm.trans made.placed)⟩)
      refine ⟨_, rfl, ?_⟩
      have deposited := made.overwrite written
      rw [FileTree.overlay, List.drop_nil, List.append_nil] at deposited
      have same : (console.world.files.set location (.file [])).writeTo data (.file location) =
          (console.world.files.set location (.file [])).set location (.file data) := by
        rw [FileTree.writeTo, made.placed]
        simp [FileTree.overlay]
      change Takes host token data console (.file location)
        (console.withFiles ((console.world.files.set location (.file [])).writeTo data
          (.file location)))
      rw [same]
      exact .made named leads vacant deposited
  | @descriptor number descriptor named free isOpen =>
      refine ⟨_, rfl, ?_⟩
      cases descriptor with
      | output => exact .printed named
      | report => exact .reported named
      | file location =>
          change Takes host token data console (.file location)
            (console.withFiles (console.world.files.writeTo data (.file location)))
          rw [FileTree.writeTo]
          split
          · next old found =>
              have inside : location ≠ [] := by
                rintro rfl
                cases found
              refine .overwritten named found (Deposited.of_set _ _ inside ?_)
              exact fun entry other => ⟨old, Option.some.inj (other.symm.trans found)⟩
          · next missing => exact .lost named missing

theorem takes_of_deliver (done : console.deliver host token data = (.ok (), after)) :
    ∃ descriptor opened, host.Grants console.world.files token descriptor opened ∧
      Takes host token data console descriptor after := by
  cases opened : host.openOutput console.world.files token with
  | error failure => simp [deliver, opened] at done
  | ok result =>
      have grants := Host.openOutput_eq_ok_iff.1 opened
      obtain ⟨other, same, takes⟩ := deliver_of_grants grants data
      rw [done] at same
      cases same
      exact ⟨_, _, grants, takes⟩

/-- Nothing has been taken back: data has been written after what was there, and files
have been made or written. -/
structure Continues (before after : Console) : Prop where
  output : before.output <+: after.output
  report : before.report <+: after.report
  calls : after.world.calls = before.world.calls
  filled : Filled before.world.files after.world.files

theorem Continues.refl (console : Console) : console.Continues console :=
  ⟨List.prefix_refl _, List.prefix_refl _, rfl, .refl _⟩

theorem Continues.trans {first : Console} (left : first.Continues before)
    (right : before.Continues after) : first.Continues after :=
  ⟨left.output.trans right.output, left.report.trans right.report,
    right.calls.trans left.calls, left.filled.trans right.filled⟩

theorem Takes.continues {descriptor : Descriptor}
    (takes : Takes host token data console descriptor after) : console.Continues after := by
  cases takes with
  | made _ _ _ deposited | overwritten _ _ deposited =>
      exact ⟨List.prefix_refl _, List.prefix_refl _, rfl, deposited.filled⟩
  | lost => exact .refl _
  | printed => exact ⟨List.prefix_append _ _, List.prefix_refl _, rfl, .refl _⟩
  | reported => exact ⟨List.prefix_refl _, List.prefix_append _ _, rfl, .refl _⟩

theorem deliver_of_refused {failure : Failure}
    (refused : host.openOutput console.world.files token = .error failure) (data : Bytes) :
    console.deliver host token data = (.error failure, console) := by
  rw [deliver, refused]

theorem deliver_cases (host : Host) (console : Console) (token : String) (data : Bytes) :
    (∃ failure, host.openOutput console.world.files token = .error failure) ∨
      ∃ after, console.deliver host token data = (.ok (), after) ∧
        console.Continues after := by
  cases opened : host.openOutput console.world.files token with
  | error failure => exact .inl ⟨failure, rfl⟩
  | ok result =>
      obtain ⟨after, done, takes⟩ :=
        deliver_of_grants (Host.openOutput_eq_ok_iff.1 opened) data
      exact .inr ⟨after, done, takes.continues⟩

section

variable {outputs rest : List (String × Bytes)} {failure : Failure}

theorem deliverAll_cons_of_refused
    (refused : host.openOutput console.world.files token = .error failure) :
    console.deliverAll host ((token, data) :: rest) = (.error failure, console) := by
  rw [deliverAll, deliver_of_refused refused]

theorem deliverAll_cons_of_ok (done : console.deliver host token data = (.ok (), after)) :
    console.deliverAll host ((token, data) :: rest) = after.deliverAll host rest := by
  rw [deliverAll, done]

theorem continues_deliverAll (host : Host) (console : Console)
    (outputs : List (String × Bytes)) :
    console.Continues (console.deliverAll host outputs).2 := by
  induction outputs generalizing console with
  | nil => exact .refl console
  | cons output rest hypothesis =>
      obtain ⟨token, data⟩ := output
      rcases console.deliver_cases host token data with
        ⟨failure, refused⟩ | ⟨after, done, continues⟩
      · rw [deliverAll_cons_of_refused refused]
        exact .refl console
      · rw [deliverAll_cons_of_ok done]
        exact continues.trans (hypothesis after)

/-- Outputs can only be delivered if each of them could be opened from the start. -/
theorem grants_of_deliverAll (done : (console.deliverAll host outputs).1 = .ok ()) :
    ∀ output ∈ outputs, ∃ descriptor opened,
      host.Grants console.world.files output.1 descriptor opened := by
  induction outputs generalizing console with
  | nil => exact nofun
  | cons output rest hypothesis =>
      obtain ⟨token, data⟩ := output
      rcases console.deliver_cases host token data with
        ⟨failure, refused⟩ | ⟨after, first, continues⟩
      · rw [deliverAll_cons_of_refused refused] at done
        cases done
      · rw [deliverAll_cons_of_ok first] at done
        rw [List.forall_mem_cons]
        constructor
        · obtain ⟨descriptor, opened, grants, -⟩ := takes_of_deliver first
          exact ⟨descriptor, opened, grants⟩
        · intro other member
          obtain ⟨descriptor, opened, grants⟩ := hypothesis done other member
          exact ⟨descriptor, grants.of_filled continues.filled⟩

/-- The output that could not be opened cannot be opened in what is left behind. -/
theorem deliverAll_error (failed : (console.deliverAll host outputs).1 = .error failure) :
    ∃ output ∈ outputs,
      host.openOutput (console.deliverAll host outputs).2.world.files output.1 =
        .error failure := by
  induction outputs generalizing console with
  | nil => cases failed
  | cons output rest hypothesis =>
      obtain ⟨token, data⟩ := output
      rcases console.deliver_cases host token data with
        ⟨refusal, refused⟩ | ⟨after, first, -⟩
      · rw [deliverAll_cons_of_refused refused] at failed ⊢
        cases failed
        exact ⟨(token, data), .head _, refused⟩
      · rw [deliverAll_cons_of_ok first] at failed ⊢
        obtain ⟨other, member, refused⟩ := hypothesis failed
        exact ⟨other, .tail _ member, refused⟩

end

end Console

namespace Outcome

variable {result : Except Failure Unit × Console}

@[simp] theorem output_ofResult (result : Except Failure Unit × Console) :
    (ofResult result).output = result.2.output := by
  rcases result with ⟨failure | -, console⟩ <;> rfl

@[simp] theorem world_ofResult (result : Except Failure Unit × Console) :
    (ofResult result).world = result.2.world := by
  rcases result with ⟨failure | -, console⟩ <;> rfl

theorem status_ofResult_eq_zero : (ofResult result).status = 0 ↔ result.1 = .ok () := by
  rcases result with ⟨failure | -, console⟩
  · exact ⟨fun status => absurd status failure.kind.status_ne_zero, nofun⟩
  · exact ⟨fun _ => rfl, fun _ => rfl⟩

theorem status_ofResult_of_error {failure : Failure} (failed : result.1 = .error failure) :
    (ofResult result).status = failure.status := by
  obtain ⟨_, console⟩ := result
  cases failed
  rfl

end Outcome

namespace Task

/-- Whether a task can have outputs besides the standard output. -/
def hasSideOutputs : Task → Bool
  | .sign .. | .encrypt _ | .decrypt _ | .inlineDetach .. | .inlineVerify .. => true
  | _ => false

variable {task : Task}

theorem hasSideOutputs_of_mem {token : String} (wanted : token ∈ task.plan.outputs) :
    task.hasSideOutputs = true := by
  cases task with
  | sign | encrypt | decrypt | inlineDetach | inlineVerify => rfl
  | _ => cases wanted

theorem isStreamed_of_hasSideOutputs (side : task.hasSideOutputs = true) :
    task.plan.operation.isStreamed = true := by
  cases task with
  | sign | encrypt | decrypt | inlineDetach | inlineVerify => rfl
  | _ => cases side

theorem direct_of_hasSideOutputs (side : task.hasSideOutputs = true) :
    task.plan.operation ≠ .validateUserId := by
  intro same
  have streamed := isStreamed_of_hasSideOutputs side
  rw [same] at streamed
  cases streamed

/-- The standard output is then left to the backend. -/
theorem printed_of_hasSideOutputs (side : task.hasSideOutputs = true)
    {value : task.plan.operation.Result} {delivery : Delivery}
    (delivered : task.plan.deliver value = .ok delivery) : delivery.printed = "" := by
  cases task with
  | encrypt request =>
      rcases Delivery.sessionKey_cases delivered with ⟨-, rfl⟩ | ⟨_, _, -, -, rfl⟩ <;> rfl
  | decrypt request =>
      obtain ⟨first, -, rfl⟩ := Decrypting.deliver_eq_ok delivered
      rfl
  | sign | inlineDetach | inlineVerify =>
      cases delivered
      rfl
  | _ => cases side

section

variable {host : Host} {words : List Bytes} {config : Config} {input : Bytes} {world : World}
variable {launch : Launch} {call : Call} {value : task.plan.operation.Result}
variable {delivery : Delivery}

/-- It then only remains to write the outputs. -/
theorem Completes.outcome_eq
    (completes : task.Completes host config input world launch call value delivery)
    (side : task.hasSideOutputs = true)
    (parsed : Invocation.parse host.lookup words = .ok ⟨config, .operate task⟩) :
    Outcome.ofWords host words input world =
      .ofResult ((launch.settled host task.plan.operation call).deliverAll host
        delivery.outputs) := by
  have printed : (launch.settled host task.plan.operation call).print
      (Text.encode delivery.printed) = launch.settled host task.plan.operation call := by
    rw [printed_of_hasSideOutputs side completes.delivered]
    exact congrArg (Console.mk · _ _) (List.append_nil _)
  rw [Outcome.ofWords_of_parsed parsed]
  change Outcome.ofResult (task.plan.perform host config input world) = _
  rw [perform_of_read completes.launches completes.succeeds completes.read,
    completes.delivered]
  dsimp only
  rw [printed]

theorem output_settled (side : task.hasSideOutputs = true) :
    (launch.settled host task.plan.operation call).output =
      (host.backend call launch.world.files).output := by
  rw [Launch.settled]
  exact if_pos (isStreamed_of_hasSideOutputs side)

/-- A backend that keeps to the private directory leaves the files as they were. -/
theorem Completes.sameEntries
    (completes : task.Completes host config input world launch call value delivery)
    (closed : world.files.Closed)
    (confined : launch.channels.Confined host.directory launch.world.files
      (launch.left host call)) :
    (launch.settled host task.plan.operation call).world.files.SameEntries world.files :=
  Launch.sameEntries_settled closed (completes.launches.owned closed confined) _

theorem Completes.calls_settled
    (completes : task.Completes host config input world launch call value delivery) :
    (launch.settled host task.plan.operation call).world.calls = call :: world.calls := by
  cases completes.launches with
  | task => rfl

end

end Task

end Cli
end StatelessPgp
