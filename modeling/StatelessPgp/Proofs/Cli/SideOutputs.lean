import StatelessPgp.Proofs.Cli.Checks
import StatelessPgp.Proofs.Cli.Delivery

/-!
# What side outputs hold

The side outputs of a task are made from what the backend left in the side channels.  If
they are files, each is made where there was nothing, and stays as it was written.
-/

namespace StatelessPgp

open FileTree

/-- There may be more where outputs lead, and all else is as it was. -/
structure Host.Adds (host : Host) (outputs : List (String × Bytes))
    (before after : FileTree) : Prop where
  kept : ∀ location entry, before.get? location = some entry →
    after.get? location = some entry
  elsewhere : ∀ location, (∀ output ∈ outputs, ¬ host.LeadsTo before output.1 location) →
    after.get? location = before.get? location

namespace Cli

/-- What is written of a session key that was found in a side channel: the key in a line
of its own, if it has been asked for. -/
inductive WritesKey (found : Option Bytes) : Option String → List (String × Bytes) → Prop where
  | unasked : WritesKey found none []
  | line {token content : String} {key : SessionKey} (tells : Channel.Tells found content)
      (parsed : SessionKey.parse content = .ok key) :
      WritesKey found (some token) [(token, Text.encode (key.render ++ "\n"))]

/-- What is written of verifications that were found in a side channel: a line for each,
in their order, if they have been asked for. -/
inductive WritesRecords (found : Option Bytes) :
    Option String → List (String × Bytes) → Prop where
  | unasked : WritesRecords found none []
  | lines {token content : String} {records : List Verification}
      (tells : Channel.Tells found content)
      (parsed : Verification.parseAll content = .ok records) :
      WritesRecords found (some token) [(token, Text.encode (Verification.renderAll records))]

/-- The side outputs of a task, by what is found in the side channels one after the
other. -/
inductive Task.Writes (base : Location) (channels : Channels) (left : FileTree) :
    Task → List (String × Bytes) → Prop where
  | sign {noArmor : Bool} {mode : Option SignAs} {keyPasswords keys : List String}
      {micAlgOut : Option String} {found : Option Bytes} {content : String}
      {after : Channels × FileTree}
      (consumed : channels.consume base .micAlg left = (.ok found, after))
      (tells : Channel.Tells found content) :
      Writes base channels left (.sign noArmor mode keyPasswords micAlgOut keys)
        (micAlgOut.toList.map fun token => (token, Text.encode content))
  | encrypt {request : Encryption} {found : Option Bytes} {after : Channels × FileTree}
      {outputs : List (String × Bytes)}
      (consumed : channels.consume base .sessionKey left = (.ok found, after))
      (writes : WritesKey found request.sessionKeyOut outputs) :
      Writes base channels left (.encrypt request) outputs
  | decrypt {request : Decrypting} {key records : Option Bytes} {remaining : Channels}
      {files : FileTree} {after : Channels × FileTree} {keys lines : List (String × Bytes)}
      (consumedKey : channels.consume base .sessionKey left = (.ok key, remaining, files))
      (consumedRecords : remaining.consume base .verifications files = (.ok records, after))
      (writesKey : WritesKey key request.sessionKeyOut keys)
      (writesRecords : WritesRecords records request.verificationsOut lines) :
      Writes base channels left (.decrypt request) (keys ++ lines)
  | inlineDetach {noArmor : Bool} {signaturesOut : String} {data : Bytes}
      {after : Channels × FileTree}
      (consumed : channels.consume base .signatures left = (.ok (some data), after)) :
      Writes base channels left (.inlineDetach noArmor signaturesOut) [(signaturesOut, data)]
  | inlineVerify {notBefore notAfter : Option TimeBound} {verificationsOut : Option String}
      {certs : List String} {found : Option Bytes} {after : Channels × FileTree}
      {lines : List (String × Bytes)}
      (consumed : channels.consume base .verifications left = (.ok found, after))
      (writes : WritesRecords found verificationsOut lines) :
      Writes base channels left (.inlineVerify notBefore notAfter verificationsOut certs) lines

theorem WritesKey.of_deliver {found : Option Bytes} {token : Option String}
    {key : Option SessionKey} {delivery : Delivery}
    (reported : ∀ reported, key = some reported →
      ∃ content, Channel.Tells found content ∧ SessionKey.parse content = .ok reported)
    (delivered : Delivery.sessionKey token key = .ok delivery) :
    WritesKey found token delivery.outputs := by
  rcases Delivery.sessionKey_cases delivered with ⟨rfl, rfl⟩ | ⟨_, key, rfl, rfl, rfl⟩
  · exact .unasked
  · obtain ⟨content, tells, parsed⟩ := reported key rfl
    exact .line tells parsed

theorem WritesRecords.toOutput {found : Option Bytes} {content : String}
    {records : List Verification} (tells : Channel.Tells found content)
    (parsed : Verification.parseAll content = .ok records) (token : Option String) :
    WritesRecords found token (Delivery.toOutput token (Delivery.report records)).outputs := by
  cases token with
  | none => exact .unasked
  | some token => exact .lines tells parsed

theorem Task.Completes.writes {host : Host} {config : Config} {input : Bytes} {world : World}
    {task : Task} {launch : Launch} {call : Call} {value : task.plan.operation.Result}
    {delivery : Delivery}
    (completes : task.Completes host config input world launch call value delivery)
    (side : task.hasSideOutputs = true) :
    task.Writes host.directory launch.channels (launch.left host call) delivery.outputs := by
  obtain ⟨-, -, read, delivered⟩ := completes
  obtain ⟨after, ran⟩ : ∃ after,
      (task.plan.operation.finish (host.backend call launch.world.files).output
        host.directory).run (launch.channels, launch.left host call) = (.ok value, after) :=
    ⟨_, Prod.ext read rfl⟩
  cases task with
  | sign noArmor mode keyPasswords micAlgOut keys =>
      obtain ⟨found, reached, said, ran⟩ := ChannelReader.bind_eq_ok ran
      obtain ⟨data, content, consumed, tells, rfl⟩ := ChannelReader.text_eq_ok said
      have text : value.text = content := by
        cases ran
        by_cases blank : content.isEmpty = true
        · rw [if_pos blank, String.isEmpty_iff.1 blank]
          rfl
        · rw [if_neg blank]
          exact tells.strip_eq
      cases delivered
      rw [← text] at tells
      exact .sign consumed tells
  | encrypt request =>
      obtain ⟨found, consumed, reported⟩ := Operation.readSessionKey_eq_ok ran
      exact .encrypt consumed (.of_deliver reported delivered)
  | decrypt request =>
      obtain ⟨key, ⟨remaining, files⟩, readKey, ran⟩ := ChannelReader.bind_eq_ok ran
      obtain ⟨records, reached, readRecords, ran⟩ := ChannelReader.bind_eq_ok ran
      cases ran
      obtain ⟨foundKey, consumedKey, reported⟩ := Operation.readSessionKey_eq_ok readKey
      obtain ⟨foundRecords, content, consumedRecords, tells, parsed⟩ :=
        Operation.readVerifications_eq_ok readRecords
      obtain ⟨first, deliveredKey, rfl⟩ := Decrypting.deliver_eq_ok delivered
      exact .decrypt consumedKey consumedRecords (.of_deliver reported deliveredKey)
        (.toOutput tells parsed _)
  | inlineDetach noArmor signaturesOut =>
      obtain ⟨found, reached, consumed, ran⟩ := ChannelReader.bind_eq_ok ran
      cases found with
      | none => cases ran
      | some signatures =>
          cases ran
          cases delivered
          exact .inlineDetach (ChannelReader.consume_eq_ok consumed)
  | inlineVerify notBefore notAfter verificationsOut certs =>
      obtain ⟨found, content, consumed, tells, parsed⟩ :=
        Operation.readVerifications_eq_ok ran
      cases delivered
      exact .inlineVerify consumed (.toOutput tells parsed verificationsOut)
  | _ => cases side

/-- The outputs have been checked before the run. -/
theorem Task.Completes.not_isShadowed {host : Host} {config : Config} {input : Bytes}
    {world : World} {task : Task} {launch : Launch} {call : Call}
    {value : task.plan.operation.Result} {delivery : Delivery} {token : String}
    (completes : task.Completes host config input world launch call value delivery)
    (wanted : token ∈ task.plan.outputs) : ¬ host.IsShadowed world.files token := by
  cases completes.launches with
  | task checked =>
      have resolves := Plan.settings_eq_ok_iff.1 checked
      cases Host.checkOutput_eq_ok_iff.1 (resolves.outputs token wanted) with
      | descriptor _ free | file _ free => exact free

namespace Console

variable {host : Host} {outputs : List (String × Bytes)} {before middle after : Console}

/-- Each output has become a file where there was nothing, and nothing else has changed. -/
structure Filed (host : Host) (outputs : List (String × Bytes)) (before after : Console) :
    Prop where
  written : ∀ output ∈ outputs, ∃ location,
    host.LeadsTo before.world.files output.1 location ∧
      before.world.files.get? location = none ∧
      after.world.files.get? location = some (.file output.2)
  elsewhere : ∀ location,
    (∀ output ∈ outputs, ¬ host.LeadsTo before.world.files output.1 location) →
      after.world.files.get? location = before.world.files.get? location
  output : after.output = before.output

theorem Filed.nil (host : Host) (console : Console) : Filed host [] console console :=
  ⟨nofun, fun _ _ => rfl, rfl⟩

/-- A later output is at another location, as there is a file at that of the first. -/
theorem Filed.cons {token path : String} {data : Bytes} {descriptor : Descriptor}
    (named : Designator.parse token = .ok (.file path))
    (takes : Takes host token data before descriptor middle)
    (filed : Filed host outputs middle after) :
    Filed host ((token, data) :: outputs) before after := by
  have filled := takes.continues.filled
  cases takes with
  | @made _ location files _ leads vacant deposited =>
      -- Nothing can be made where the first output has been made already.
      have apart : ∀ output ∈ outputs, ¬ host.LeadsTo files output.1 location := by
        intro output member leadsToo
        obtain ⟨place, leadsThere, free, -⟩ := filed.written output member
        rw [leadsThere.unique leadsToo] at free
        cases deposited.placed.symm.trans free
      refine ⟨?_, ?_, filed.output⟩
      · rw [List.forall_mem_cons]
        constructor
        · exact ⟨location, leads, vacant, (filed.elsewhere location apart).trans deposited.placed⟩
        · intro output member
          obtain ⟨place, leadsThere, free, held⟩ := filed.written output member
          refine ⟨place, (Host.leadsTo_filled filled).1 leadsThere, ?_, held⟩
          by_contra found
          exact filled.ne_none found free
      · intro place unled
        rw [List.forall_mem_cons] at unled
        have differs : place ≠ location := by
          rintro rfl
          exact unled.1 leads
        rw [filed.elsewhere place fun output member =>
          mt (Host.leadsTo_filled filled).1 (unled.2 output member)]
        exact deposited.elsewhere place differs
  | overwritten other | lost other | printed other | reported other =>
      cases named.symm.trans other

theorem filed_deliverAll
    (plain : ∀ output ∈ outputs, ∃ path, Designator.parse output.1 = .ok (.file path))
    (done : (before.deliverAll host outputs).1 = .ok ()) :
    Filed host outputs before (before.deliverAll host outputs).2 := by
  induction outputs generalizing before with
  | nil => exact .nil host before
  | cons output rest hypothesis =>
      obtain ⟨token, data⟩ := output
      rw [List.forall_mem_cons] at plain
      obtain ⟨⟨path, named⟩, plain⟩ := plain
      rcases before.deliver_cases host token data with
        ⟨failure, refused⟩ | ⟨middle, first, -⟩
      · rw [deliverAll_cons_of_refused refused] at done
        cases done
      · rw [deliverAll_cons_of_ok first] at done ⊢
        obtain ⟨descriptor, opened, -, takes⟩ := takes_of_deliver first
        exact .cons named takes (hypothesis plain done)

theorem Filed.adds {rest : FileTree} (filed : Filed host outputs before after)
    (same : before.world.files.SameEntries rest) : host.Adds outputs rest after.world.files where
  kept location entry found := by
    rw [← same location] at found
    rw [filed.elsewhere location ?_, found]
    intro output member leads
    obtain ⟨place, leadsThere, vacant, -⟩ := filed.written output member
    rw [leadsThere.unique leads, found] at vacant
    cases vacant
  elsewhere location unled := by
    rw [filed.elsewhere location fun output member =>
      mt (Host.leadsTo_filled same.filled).1 (unled output member), same location]

end Console

/-- If a program with side outputs that are files ends with status zero, its backend has
done so too.  Its standard output is that of the backend, and each side output is a file
that was not there before and holds just what was found in the side channels.  Nothing else
is new, and where the backend has left the private directory in place, everything else is as
it left it, without that directory. -/
theorem side_outputs_are_exact {host : Host} {words : List Bytes} {input : Bytes}
    {world : World} {config : Config} {task : Task}
    (parsed : Invocation.parse host.lookup words = .ok ⟨config, .operate task⟩)
    (side : task.hasSideOutputs = true)
    (plain : ∀ token ∈ task.plan.outputs, ∃ path, Designator.parse token = .ok (.file path))
    (succeeds : (Outcome.ofWords host words input world).status = 0) :
    ∃ launch call outputs,
      Request.Launches host config input world (.operate task) launch ∧
        launch.Succeeds host config call ∧
        task.Writes host.directory launch.channels (launch.left host call) outputs ∧
        outputs.map Prod.fst = task.plan.outputs ∧
        (Outcome.ofWords host words input world).output =
          (host.backend call launch.world.files).output ∧
        (Outcome.ofWords host words input world).world.calls = call :: world.calls ∧
        (∀ output ∈ outputs, ∃ path location,
          Designator.parse output.1 = .ok (.file path) ∧
            world.files.exists? host.directory (host.pathOf path) = false ∧
            (Outcome.ofWords host words input world).world.files.find host.directory
              (host.pathOf path) false = .ok (location, .file output.2)) ∧
        (∀ location entry,
          (Outcome.ofWords host words input world).world.files.get? location = some entry →
            (∃ output ∈ outputs, host.LeadsTo
                (Outcome.ofWords host words input world).world.files output.1 location) ∨
              (launch.left host call).get? location = some entry) ∧
        (∀ rest : FileTree, rest.Closed →
          launch.channels.Owned host.directory rest (launch.left host call) →
            host.Adds outputs rest (Outcome.ofWords host words input world).world.files) ∧
        (world.files.Closed →
          launch.channels.Confined host.directory launch.world.files (launch.left host call) →
            host.Adds outputs world.files
              (Outcome.ofWords host words input world).world.files) := by
  have performed : (task.plan.perform host config input world).1 = .ok () := by
    rw [Outcome.ofWords_of_parsed parsed] at succeeds
    exact Outcome.status_ofResult_eq_zero.1 succeeds
  obtain ⟨launch, call, value, delivery, completes⟩ :=
    Task.exists_completes (Task.direct_of_hasSideOutputs side) performed
  have tokens := Task.outputs_of_deliver completes.delivered
  have named : ∀ output ∈ delivery.outputs,
      ∃ path, Designator.parse output.1 = .ok (.file path) := by
    intro output member
    apply plain
    rw [← tokens]
    exact List.mem_map_of_mem member
  rw [completes.outcome_eq side parsed] at succeeds ⊢
  have done := Outcome.status_ofResult_eq_zero.1 succeeds
  have filed := Console.filed_deliverAll named done
  have continues := Console.continues_deliverAll host
    (launch.settled host task.plan.operation call) delivery.outputs
  rw [Outcome.output_ofResult, Outcome.world_ofResult]
  refine ⟨launch, call, delivery.outputs, completes.launches, completes.succeeds,
    completes.writes side, tokens, ?_, ?_, ?_, ?_, ?_, ?_⟩
  · rw [filed.output, Task.output_settled side]
  · rw [continues.calls, completes.calls_settled]
  · intro output member
    obtain ⟨path, parses⟩ := named output member
    obtain ⟨location, leads, -, held⟩ := filed.written output member
    refine ⟨path, location, parses, ?_, ?_⟩
    · have wanted : output.1 ∈ task.plan.outputs := tokens ▸ List.mem_map_of_mem member
      simpa using mt (Host.isShadowed_file parses).2 (completes.not_isShadowed wanted)
    · have leads := (Host.leadsTo_filled continues.filled).2 leads
      rw [Host.LeadsTo, ← Designator.parse_file parses] at leads
      rw [find, leads]
      dsimp only
      rw [held]
  · intro location entry found
    by_cases led : ∃ output ∈ delivery.outputs, host.LeadsTo
        (launch.settled host task.plan.operation call).world.files output.1 location
    · obtain ⟨output, member, leads⟩ := led
      exact .inl ⟨output, member, (Host.leadsTo_filled continues.filled).2 leads⟩
    · rw [filed.elsewhere location fun output member leads => led ⟨output, member, leads⟩]
        at found
      exact .inr (launch.isPart_settled host task.plan.operation call location entry found)
  · intro rest closed owned
    exact filed.adds (Launch.sameEntries_settled closed owned _)
  · intro closed confined
    exact filed.adds (completes.sameEntries closed confined)

theorem decryption_outputs_are_exact :
    let scratch := [Path.ofText "tmp", Path.ofText "sop-scratch"]
    let records := "\n 2020-02-29T23:59:59Z K C  mode:text \r\n\n2020-03-01T00:00:00.5Z K D\n"
    let host := { Host.bare ((Environment.empty.set "KEY" (Text.encode "key")).set "CERT"
        (Text.encode "cert")) [] with
      backend := fun _ files => ⟨Text.encode "plain", [],
        (files.set (scratch ++ [Path.ofText "session-key-out"])
          (.file (Text.encode " 9:ab\n"))).set (scratch ++ [Path.ofText "verify-out"])
            (.file (Text.encode records)), some (.status 0)⟩ }
    let words := ["--backend", "/sop", "decrypt", "--session-key-out", "key",
      "--verifications-out", "records", "--verify-with", "@ENV:CERT", "@ENV:KEY"].map
        Text.encode
    let world : World :=
      ⟨⟨[([Path.ofText "tmp"], .directory), ([Path.ofText "sop"], .program [])]⟩, []⟩
    let request : Decrypting :=
      ⟨some "key", [], [], some "records", ["@ENV:CERT"], none, none, [], ["@ENV:KEY"]⟩
    Invocation.parse host.lookup words =
        .ok ⟨.new (Path.ofText "/sop"), .operate (.decrypt request)⟩ ∧
      (Outcome.ofWords host words [] world).status = 0 ∧
      (Outcome.ofWords host words [] world).output = Text.encode "plain" ∧
      ∃ (launch : Launch) (call : Call) (outputs : List (String × Bytes)),
        (Task.decrypt request).Writes host.directory launch.channels (launch.left host call)
            outputs ∧
          outputs.map Prod.fst = ["key", "records"] ∧
          ∀ output ∈ outputs, ∃ path location,
            Designator.parse output.1 = .ok (.file path) ∧
              world.files.exists? host.directory (host.pathOf path) = false ∧
              (Outcome.ofWords host words [] world).world.files.find host.directory
                (host.pathOf path) false = .ok (location, .file output.2) := by
  intro scratch records host words world request
  have parsed : Invocation.parse host.lookup words =
      .ok ⟨.new (Path.ofText "/sop"), .operate (.decrypt request)⟩ := by decide +kernel
  have plain : ∀ token ∈ (Task.decrypt request).plan.outputs,
      ∃ path, Designator.parse token = .ok (.file path) := by
    have key : Designator.parse "key" = .ok (.file "key") := by decide +kernel
    have records : Designator.parse "records" = .ok (.file "records") := by decide +kernel
    intro token wanted
    rcases List.mem_pair.1 wanted with rfl | rfl
    · exact ⟨_, key⟩
    · exact ⟨_, records⟩
  have succeeds : (Outcome.ofWords host words [] world).status = 0 := by decide +kernel
  obtain ⟨launch, call, outputs, -, -, writes, tokens, output, -, held, -⟩ :=
    side_outputs_are_exact parsed rfl plain succeeds
  exact ⟨parsed, succeeds, output, launch, call, outputs, writes, tokens, held⟩

end Cli
end StatelessPgp
