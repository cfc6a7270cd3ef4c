import StatelessPgp.Proofs.Cli.Checks
import StatelessPgp.Proofs.Cli.Delivery

/-!
# Checking outputs

The check of an output never refuses what could be opened, and neither the check nor a
failure to open it changes anything.  The check is not complete, though: what it overlooks
is reported only when the backend has been run and its output has been passed on.
-/

namespace StatelessPgp
namespace Cli

open FileTree

section

variable {host : Host} {files : FileTree} {config : Config} {input : Bytes} {world : World}
variable {token : String} {plan : Plan}

theorem Plan.perform_of_refused (wanted : token ∈ plan.outputs)
    (refused : host.checkOutput world.files token ≠ .ok ()) (config : Config)
    (input : Bytes) :
    ∃ failure, plan.perform host config input world = (.error failure, .start world) := by
  rw [perform]
  cases checked : plan.settings host world.files with
  | error failure => exact ⟨failure, rfl⟩
  | ok settings => exact absurd ((settings_eq_ok_iff.1 checked).outputs token wanted) refused

/-- Checks that are passed might as well not have been made. -/
theorem Plan.perform_of_checked
    (checked : ∀ token ∈ plan.outputs, host.checkOutput world.files token = .ok ()) :
    plan.perform host config input world =
      ({ plan with outputs := [] } : Plan).perform host config input world := by
  have same : plan.settings host world.files =
      ({ plan with outputs := [] } : Plan).settings host world.files := by
    cases objects : plan.objection with
    | some failure =>
        rw [settings_of_objection objects]
        exact (settings_of_objection rfl).symm
    | none =>
        rw [settings_of_unobjectionable objects, forM_eq_ok_iff.2 checked]
        symm
        apply settings_of_unobjectionable
        rfl
  rw [perform, perform, same]

end

/-- Whatever the check refuses cannot be opened, for the same reason, and what can be
opened passes the check.  Checking changes nothing, and no more does failing to open an
output.  A file is opened by making it, empty, where a path has led to no entry, be it a
link, and nothing else changes. -/
theorem outputs_never_clobber (host : Host) (files : FileTree) (token : String) :
    (∀ failure, host.checkOutput files token = .error failure →
        host.openOutput files token = .error failure) ∧
      (∀ opened, host.openOutput files token = .ok opened →
        host.checkOutput files token = .ok ()) ∧
      (∀ (plan : Plan) (config : Config) (input : Bytes) (world : World),
        world.files = files →
          (token ∈ plan.outputs → host.checkOutput files token ≠ .ok () →
              (plan.perform host config input world).2 = .start world) ∧
            ((∀ output ∈ plan.outputs, host.checkOutput files output = .ok ()) →
              plan.perform host config input world =
                ({ plan with outputs := [] } : Plan).perform host config input world)) ∧
      (∀ (console : Console) (data : Bytes) (failure : Failure),
        console.world.files = files → host.openOutput files token = .error failure →
          console.deliver host token data = (.error failure, console)) ∧
      ∀ path descriptor after, Designator.parse token = .ok (.file path) →
        host.openOutput files token = .ok (descriptor, after) →
          files.exists? host.directory (host.pathOf path) = false ∧
            ∃ location, files.resolve host.directory (host.pathOf path) false = .ok location ∧
              files.get? location = none ∧ descriptor = .file location ∧
              after.find host.directory (host.pathOf path) false =
                .ok (location, .file []) ∧
              ∀ other, other ≠ location → after.get? other = files.get? other := by
  refine ⟨fun failure => Host.openOutput_of_checkOutput_error, ?accepted, ?checks, ?refused,
    ?made⟩
  case accepted =>
    rintro ⟨descriptor, after⟩ opened
    exact Host.checkOutput_eq_ok_iff.2 (Host.openOutput_eq_ok_iff.1 opened).passes
  case checks =>
    rintro plan config input world rfl
    refine ⟨fun wanted refused => ?_, Plan.perform_of_checked⟩
    obtain ⟨failure, performed⟩ := Plan.perform_of_refused wanted refused config input
    rw [performed]
  case refused =>
    rintro console data failure rfl refused
    exact Console.deliver_of_refused refused data
  case made =>
    intro path descriptor after named opened
    cases Host.openOutput_eq_ok_iff.1 opened with
    | descriptor other => cases named.symm.trans other
    | @file path location other proper leads vacant parent =>
        cases named.symm.trans other
        have made := Deposited.of_set files [] (Console.ne_root_of_vacant vacant)
          (by simp [vacant])
        have absent := mt (Host.isShadowed_file named).2 (leads.free vacant)
        rw [Host.LeadsTo, ← Designator.parse_file named] at leads
        refine ⟨by simpa using absent, location, leads, vacant, rfl, ?_, made.elsewhere⟩
        rw [find, (made.filled.resolve_eq_ok_iff false).2 leads]
        dsimp only
        rw [made.placed]

theorem outputs_never_clobber_dangling_link :
    let host := Host.bare .empty []
    let files : FileTree := ⟨[([Path.ofText "place"], .directory),
      ([Path.ofText "taken"], .link (Path.ofText "nowhere"))]⟩
    let exists? := Host.outputExists (Path.ofText "/taken")
    host.checkOutput files "taken" = .error exists? ∧
      host.openOutput files "taken" = .error exists? ∧
      Designator.parse "place/new" = .ok (.file "place/new") ∧
      host.checkOutput files "place/new" = .ok () ∧
      ∃ after, host.openOutput files "place/new" =
          .ok (.file [Path.ofText "place", Path.ofText "new"], after) ∧
        ∀ other, other ≠ [Path.ofText "place", Path.ofText "new"] →
          after.get? other = files.get? other := by
  intro host files failure
  have refused : host.checkOutput files "taken" = .error failure := by decide +kernel
  have named : Designator.parse "place/new" = .ok (.file "place/new") := by decide +kernel
  have opened : host.openOutput files "place/new" =
      .ok (.file [Path.ofText "place", Path.ofText "new"],
        files.set [Path.ofText "place", Path.ofText "new"] (.file [])) := by decide +kernel
  obtain ⟨unopened, -⟩ := outputs_never_clobber host files "taken"
  obtain ⟨-, accepted, -, -, made⟩ := outputs_never_clobber host files "place/new"
  obtain ⟨-, location, -, -, same, -, elsewhere⟩ := made _ _ _ named opened
  cases same
  exact ⟨refused, unopened _ refused, named, accepted _ opened, _, opened, elsewhere⟩

end Cli
end StatelessPgp
