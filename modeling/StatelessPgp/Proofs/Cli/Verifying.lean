import StatelessPgp.Proofs.Cli.Delivery
import StatelessPgp.Proofs.Verification.Report

/-!
# Verifying commands

Two commands verify signatures.  The one for detached signatures takes its records from
the standard output of the backend and fails without any.  The one for messages that are
signed inline takes them from a side channel, and does not ask whether there are any.
-/

namespace StatelessPgp

open FileTree

namespace Host

variable {host : Host} {files : FileTree} {token : String} {failure : Failure}

theorem rejectAmbiguous_error (rejected : host.rejectAmbiguous files token = .error failure) :
    failure.kind = .ambiguousInput := by
  rw [rejectAmbiguous] at rejected
  split at rejected
  · cases rejected
    rfl
  · cases rejected

end Host

theorem Designator.parse_error {token : String} {failure : Failure}
    (refused : parse token = .error failure) : failure.kind = .missingArg := by
  rw [parse] at refused
  split at refused
  · cases refused
    rfl
  · split at refused
    · cases refused
    · split at refused <;> cases refused

/-- That an output cannot be opened says nothing about signatures. -/
theorem Host.openOutput_error {host : Host} {files : FileTree} {token : String}
    {failure : Failure} (refused : host.openOutput files token = .error failure) :
    failure.kind ≠ .noSignature := by
  rw [openOutput] at refused
  cases parsed : Designator.parse token with
  | error unnamed =>
      rw [parsed] at refused
      cases refused
      rw [Designator.parse_error parsed]
      decide
  | ok designator =>
      rw [parsed] at refused
      cases designator with
      | «variable» name =>
          cases refused
          decide
      | descriptor number =>
          cases rejected : host.rejectAmbiguous files token with
          | error ambiguous =>
              simp only [bind, Except.bind, rejected] at refused
              cases refused
              rw [rejectAmbiguous_error rejected]
              decide
          | ok =>
              by_cases shown : host.ShowsDescriptors files
              · simp only [bind, Except.bind, rejected, checkDescriptors_of_shown shown]
                  at refused
                split at refused <;> cases refused
                rintro ⟨⟩
              · simp only [bind, Except.bind, rejected, checkDescriptors_of_not_shown shown]
                  at refused
                cases refused
                rintro ⟨⟩
      | file path =>
          simp only [bind, Except.bind] at refused
          split at refused
          · cases refused
            rintro ⟨⟩
          · simp only [pure, Except.pure] at refused
            split at refused <;> cases refused <;> rintro ⟨⟩

namespace Cli

/-- The records that a task finds in the report of a backend that ends with status zero. -/
inductive Task.Reports (host : Host) (config : Config) (input : Bytes) (world : World) :
    Task → List Verification → Prop where
  | verify {notBefore notAfter : Option TimeBound} {signatures : String}
      {certs : List String} {launch : Launch} {call : Call} {records : List Verification}
      (launches : Request.Launches host config input world
        (.operate (.verify notBefore notAfter signatures certs)) launch)
      (succeeds : launch.Succeeds host config call)
      (read : Operation.verificationsOf (host.backend call launch.world.files).output =
        .ok records) :
      Reports host config input world (.verify notBefore notAfter signatures certs) records
  | inlineVerify {notBefore notAfter : Option TimeBound} {output : Option String}
      {certs : List String} {launch : Launch} {call : Call} {records : List Verification}
      (launches : Request.Launches host config input world
        (.operate (.inlineVerify notBefore notAfter output certs)) launch)
      (succeeds : launch.Succeeds host config call)
      (read : ((Operation.readVerifications host.directory).run
        (launch.channels, (host.backend call launch.world.files).files) : _ × _).1 =
          .ok records) :
      Reports host config input world (.inlineVerify notBefore notAfter output certs) records

section

variable {host : Host} {config : Config} {input : Bytes} {world : World} {task : Task}

namespace Task.Reports

variable {notBefore notAfter : Option TimeBound} {certs : List String} {launch : Launch}
variable {call : Call}

theorem verify_of_blank {signatures : String}
    (launches : Request.Launches host config input world
      (.operate (.verify notBefore notAfter signatures certs)) launch)
    (succeeds : launch.Succeeds host config call)
    (blank : Text.IsBlankData (host.backend call launch.world.files).output) :
    Reports host config input world (.verify notBefore notAfter signatures certs) [] :=
  .verify launches succeeds (Operation.verificationsOf_of_blank blank)

theorem inlineVerify_of_blank {output : Option String} {found : Option Bytes}
    (launches : Request.Launches host config input world
      (.operate (.inlineVerify notBefore notAfter output certs)) launch)
    (succeeds : launch.Succeeds host config call)
    (consumed : (launch.channels.consume host.directory .verifications
      (host.backend call launch.world.files).files).1 = .ok found)
    (blank : ∀ data, found = some data → Text.IsBlankData data) :
    Reports host config input world (.inlineVerify notBefore notAfter output certs) [] :=
  .inlineVerify launches succeeds (Operation.readVerifications_of_blank consumed blank)

end Task.Reports

namespace Task

variable {notBefore notAfter : Option TimeBound} {certs : List String}
variable {records : List Verification}

theorem verify_of_reports {signatures : String}
    (reports : Reports host config input world
      (.verify notBefore notAfter signatures certs) records) :
    ((Task.verify notBefore notAfter signatures certs).plan.perform host config input world).1 =
      (deliverVerified records).map fun _ => () := by
  cases reports with
  | verify launches succeeds read =>
      rw [perform_of_read launches succeeds ((Operation.finish_verify _ _ _).trans read)]
      have delivered : (Task.verify notBefore notAfter signatures certs).plan.deliver records =
          deliverVerified records := rfl
      rw [delivered, deliverVerified]
      cases records <;> rfl

theorem exists_reports_of_verify {signatures : String}
    (performed : ((Task.verify notBefore notAfter signatures certs).plan.perform host config
      input world).1 = .ok ()) :
    ∃ records,
      Reports host config input world (.verify notBefore notAfter signatures certs) records := by
  obtain ⟨launch, call, records, -, launches, succeeds, read, -⟩ :=
    exists_completes (by change Operation.verify ≠ .validateUserId; decide) performed
  exact ⟨records, .verify launches succeeds ((Operation.finish_verify _ _ _).symm.trans read)⟩

theorem inlineVerify_of_reports {output : Option String}
    (reports : Reports host config input world
      (.inlineVerify notBefore notAfter output certs) records) :
    ∃ console,
      (Task.inlineVerify notBefore notAfter output certs).plan.perform host config input world =
        Console.deliverAll host console
          (Delivery.toOutput output (Delivery.report records)).outputs := by
  cases reports with
  | inlineVerify launches succeeds read =>
      exact ⟨_, perform_of_read launches succeeds read⟩

theorem exists_reports_of_inlineVerify {output : Option String}
    (performed : ((Task.inlineVerify notBefore notAfter output certs).plan.perform host config
      input world).1 = .ok ()) :
    ∃ records,
      Reports host config input world (.inlineVerify notBefore notAfter output certs)
        records := by
  obtain ⟨launch, call, records, -, launches, succeeds, read, -⟩ :=
    exists_completes (by change Operation.inlineVerify ≠ .validateUserId; decide) performed
  exact ⟨records, .inlineVerify launches succeeds read⟩

end Task

end

/-- The status zero of the command for detached signatures says that a signature has been
verified.  That of the command for inline signatures does not: it only says that the
report of the backend could be read, and then nothing but an output that cannot be opened in
what is left behind leads to another status. -/
theorem only_verify_demands_records {host : Host} {words : List Bytes} {input : Bytes}
    {world : World} {config : Config} {task : Task}
    (parsed : Invocation.parse host.lookup words = .ok ⟨config, .operate task⟩) :
    (∀ notBefore notAfter signatures certs,
      task = .verify notBefore notAfter signatures certs →
        ((Outcome.ofWords host words input world).status = 0 ↔
            ∃ records, task.Reports host config input world records ∧ records ≠ []) ∧
          (task.Reports host config input world [] →
            (Outcome.ofWords host words input world).status = 3)) ∧
      (∀ notBefore notAfter output certs,
        task = .inlineVerify notBefore notAfter output certs →
          ((Outcome.ofWords host words input world).status = 0 →
              ∃ records, task.Reports host config input world records) ∧
            ∀ records, task.Reports host config input world records →
              (Outcome.ofWords host words input world).status ≠ 3 ∧
                ((Outcome.ofWords host words input world).status = 0 ∨
                  ∃ token ∈ output, ∃ failure,
                    host.openOutput (Outcome.ofWords host words input world).world.files
                        token = .error failure ∧
                      (Outcome.ofWords host words input world).status = failure.status)) := by
  have ends : Outcome.ofWords host words input world =
      .ofResult (task.plan.perform host config input world) := Outcome.ofWords_of_parsed parsed
  rw [ends, Outcome.status_ofResult_eq_zero]
  constructor
  · rintro notBefore notAfter signatures certs rfl
    refine ⟨⟨fun performed => ?_, ?_⟩, fun reports => ?_⟩
    · obtain ⟨records, reports⟩ := Task.exists_reports_of_verify performed
      refine ⟨records, reports, ?_⟩
      rintro rfl
      cases performed.symm.trans (Task.verify_of_reports reports)
    · rintro ⟨records, reports, some⟩
      refine (Task.verify_of_reports reports).trans ?_
      rw [Task.deliverVerified, if_neg (by simpa using some)]
      rfl
    · exact Outcome.status_ofResult_of_error (Task.verify_of_reports reports)
  · rintro notBefore notAfter output certs rfl
    refine ⟨Task.exists_reports_of_inlineVerify, fun records reports => ?_⟩
    obtain ⟨console, performed⟩ := Task.inlineVerify_of_reports reports
    rw [performed]
    cases delivered : (console.deliverAll host
        (Delivery.toOutput output (Delivery.report records)).outputs).1 with
    | ok =>
        rw [Outcome.status_ofResult_eq_zero.2 delivered]
        exact ⟨by decide, .inl rfl⟩
    | error failure =>
        obtain ⟨written, member, refused⟩ := Console.deliverAll_error delivered
        obtain ⟨token, wanted, rfl⟩ := List.mem_map.1 member
        rw [Outcome.status_ofResult_of_error delivered, Outcome.world_ofResult]
        refine ⟨fun status => Host.openOutput_error refused (Kind.status_inj status), .inr ?_⟩
        exact ⟨token, Option.mem_toList.1 wanted, failure, refused, rfl⟩

theorem only_verify_misses_records :
    let environment := (Environment.empty.set "SIG" (Text.encode "sig")).set "CERT"
      (Text.encode "cert")
    let host := Host.bare environment []
    let world : World :=
      ⟨⟨[([Path.ofText "tmp"], .directory), ([Path.ofText "sop"], .program [])]⟩, []⟩
    let config := Config.new (Path.ofText "/sop")
    let detached := ["--backend", "/sop", "verify", "@ENV:SIG", "@ENV:CERT"].map Text.encode
    let inline := ["--backend", "/sop", "inline-verify", "@ENV:CERT"].map Text.encode
    let verify := Task.verify none none "@ENV:SIG" ["@ENV:CERT"]
    let inlineVerify := Task.inlineVerify none none none ["@ENV:CERT"]
    (Invocation.parse host.lookup detached = .ok ⟨config, .operate verify⟩ ∧
        verify.Reports host config [] world [] ∧
        (Outcome.ofWords host detached [] world).status = 3) ∧
      Invocation.parse host.lookup inline = .ok ⟨config, .operate inlineVerify⟩ ∧
        inlineVerify.Reports host config [] world [] ∧
        (Outcome.ofWords host inline [] world).status = 0 := by
  intro environment host world config detached inline verify inlineVerify
  have blank : Text.IsBlankData [] := ⟨"", rfl, nofun⟩
  constructor
  · have parsed : Invocation.parse host.lookup detached = .ok ⟨config, .operate verify⟩ := by
      decide +kernel
    let command : Command := ⟨"/sop", "verify", ["@ENV:SIGNATURE_0", "@ENV:CERT_0"],
      [⟨.signature, 0, Text.encode "sig"⟩, ⟨.cert, 0, Text.encode "cert"⟩]⟩
    have prepared : verify.plan.operation.prepare host config
        [.signatures (Text.encode "sig"), .cert (Text.encode "cert")] [] world.files =
          (.ok ⟨config, command, some [], .new .system⟩, world.files) := by
      dsimp only [environment, host, world, config, verify, command]
      rfl
    have launches : Request.Launches host config [] world (.operate verify) _ :=
      .task rfl prepared (by decide)
    have started : host.call config command (some []) world.files =
        .ok ⟨command.arguments, host.environmentFor config command, [], []⟩ := by
      decide +kernel
    have reports : verify.Reports host config [] world [] :=
      .verify_of_blank launches ⟨started, rfl⟩ blank
    obtain ⟨demanded, -⟩ := only_verify_demands_records parsed
    exact ⟨parsed, reports, (demanded _ _ _ _ rfl).2 reports⟩
  · have parsed : Invocation.parse host.lookup inline =
        .ok ⟨config, .operate inlineVerify⟩ := by decide +kernel
    let path := Path.ofText "/tmp/sop-scratch/verify-out"
    let command : Command := ⟨"/sop", "inline-verify",
      ["@ENV:CERT_0", "--verifications-out=/tmp/sop-scratch/verify-out"],
      [⟨.cert, 0, Text.encode "cert"⟩]⟩
    let channels : Channels :=
      ⟨.system, some (Path.ofText "/tmp/sop-scratch"), [(.verifications, path)]⟩
    let made := world.files.set [Path.ofText "tmp", Path.ofText "sop-scratch"] .directory
    have prepared : inlineVerify.plan.operation.prepare host config
        [.cert (Text.encode "cert")] [] world.files =
          (.ok ⟨config, command, some [], channels⟩, made) := by
      dsimp only [environment, host, world, config, inlineVerify, command, channels, path, made]
      rfl
    have launches : Request.Launches host config [] world (.operate inlineVerify) _ :=
      .task rfl prepared (by decide)
    have started : host.call config command (some []) made =
        .ok ⟨command.arguments, host.environmentFor config command, [], []⟩ := by
      decide +kernel
    have consumed : (channels.consume host.directory .verifications made).1 = .ok none := by
      decide +kernel
    have reports : inlineVerify.Reports host config [] world [] :=
      .inlineVerify_of_blank launches ⟨started, rfl⟩ consumed nofun
    obtain ⟨-, accepted⟩ := only_verify_demands_records parsed
    rcases ((accepted _ _ _ _ rfl).2 _ reports).2 with succeeds | ⟨token, wanted, -⟩
    · exact ⟨parsed, reports, succeeds⟩
    · cases wanted

end Cli
end StatelessPgp
