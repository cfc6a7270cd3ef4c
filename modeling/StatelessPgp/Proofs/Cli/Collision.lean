import StatelessPgp.Proofs.Cli.Delivery

/-!
# Outputs that collide

Each output is checked against the files as they are before the backend is run, and they
are opened one after the other.  So both may pass although writing the first puts a file
in the way of the second: two spellings of one path, or the name of a file and a
descriptor whose token is that name.
-/

namespace StatelessPgp

open FileTree

/-- Making a file for the first output puts it in the way of the second. -/
def Host.Collides (host : Host) (files : FileTree) (first second : String) : Prop :=
  ∃ path location, Designator.parse first = .ok (.file path) ∧
    host.LeadsTo files first location ∧ host.LeadsTo files second location

theorem Host.Collides.filled {host : Host} {before after : FileTree} {first second : String}
    (filled : Filled before after) :
    host.Collides after first second ↔ host.Collides before first second := by
  simp only [Collides, leadsTo_filled filled]

namespace Cli
namespace Console

variable {host : Host} {token other : String} {data : Bytes} {descriptor : Descriptor}
variable {files : FileTree} {before middle after : Console}

/-- After an output has been written, another one is shadowed by a file that was there, or
by the one that has been made. -/
theorem Takes.isShadowed_iff (takes : Takes host token data before descriptor after) :
    host.IsShadowed after.world.files other ↔
      host.IsShadowed before.world.files other ∨
        host.Collides before.world.files token other := by
  have stays : host.IsShadowed before.world.files other →
      host.IsShadowed after.world.files other :=
    Host.IsShadowed.filled takes.continues.filled
  cases takes with
  | @made path location later named leads vacant deposited =>
      constructor
      · rintro ⟨place, entry, leadsThere, found⟩
        have leadsBefore := (Host.leadsTo_filled deposited.filled).1 leadsThere
        by_cases same : place = location
        · rw [same] at leadsBefore
          exact .inr ⟨path, location, named, leads, leadsBefore⟩
        · refine .inl ⟨place, entry, leadsBefore, ?_⟩
          rw [← deposited.elsewhere place same]
          exact found
      · rintro (shadowed | ⟨_, place, -, leadsFirst, leadsSecond⟩)
        · exact stays shadowed
        · rw [leadsFirst.unique leads] at leadsSecond
          exact ⟨location, _, (Host.leadsTo_filled deposited.filled).2 leadsSecond,
            deposited.placed⟩
  | @overwritten number location old later named former deposited =>
      constructor
      · rintro ⟨place, entry, leadsThere, found⟩
        have leadsBefore := (Host.leadsTo_filled deposited.filled).1 leadsThere
        by_cases same : place = location
        · exact .inl ⟨location, _, same ▸ leadsBefore, former⟩
        · refine .inl ⟨place, entry, leadsBefore, ?_⟩
          rw [← deposited.elsewhere place same]
          exact found
      · rintro (shadowed | ⟨path, -, other, -⟩)
        · exact stays shadowed
        · cases named.symm.trans other
  | lost named | printed named | reported named =>
      constructor
      · exact .inl
      · rintro (shadowed | ⟨path, -, other, -⟩)
        · exact shadowed
        · cases named.symm.trans other

theorem Takes.get?_elsewhere (takes : Takes host token data before descriptor after)
    {location : Location} (differs : descriptor ≠ .file location) :
    after.world.files.get? location = before.world.files.get? location := by
  cases takes with
  | made _ _ _ deposited | overwritten _ _ deposited =>
      apply deposited.elsewhere
      rintro rfl
      exact differs rfl
  | _ => rfl

/-- Data has been written to what has been opened for an output.  What was longer than the
data in a file that was open stays behind it. -/
inductive Holds (host : Host) (files : FileTree) (token : String) (data : Bytes)
    (after : Console) : Descriptor → Prop where
  | made {path : String} {location : Location}
      (named : Designator.parse token = .ok (.file path))
      (leads : host.LeadsTo files token location) (vacant : files.get? location = none)
      (held : after.world.files.get? location = some (.file data)) :
      Holds host files token data after (.file location)
  | overwritten {number : Nat} {location : Location} {old : Bytes}
      (named : Designator.parse token = .ok (.descriptor number))
      (former : files.get? location = some (.file old))
      (held : after.world.files.get? location = some (.file (FileTree.overlay data old))) :
      Holds host files token data after (.file location)
  /-- What is open is no file. -/
  | lost {number : Nat} {location : Location}
      (named : Designator.parse token = .ok (.descriptor number))
      (missing : ∀ old, files.get? location ≠ some (.file old)) :
      Holds host files token data after (.file location)
  | printed (held : data <:+: after.output) : Holds host files token data after .output
  | reported (held : data <:+: after.report) : Holds host files token data after .report

theorem Takes.holds (takes : Takes host token data before descriptor after) :
    Holds host before.world.files token data after descriptor := by
  cases takes with
  | made named leads vacant deposited => exact .made named leads vacant deposited.placed
  | overwritten named former deposited => exact .overwritten named former deposited.placed
  | lost named missing => exact .lost named missing
  | printed => exact .printed (List.suffix_append _ _).isInfix
  | reported => exact .reported (List.suffix_append _ _).isInfix

/-- Other outputs do not take anything back. -/
theorem Holds.continues (holds : Holds host files token data middle descriptor)
    (continues : middle.Continues after)
    (kept : ∀ location, descriptor = .file location →
      after.world.files.get? location = middle.world.files.get? location) :
    Holds host files token data after descriptor := by
  cases holds with
  | made named leads vacant held =>
      exact .made named leads vacant ((kept _ rfl).trans held)
  | overwritten named former held => exact .overwritten named former ((kept _ rfl).trans held)
  | lost named missing => exact .lost named missing
  | printed held => exact .printed (held.trans continues.output.isInfix)
  | reported held => exact .reported (held.trans continues.report.isInfix)

theorem Holds.of_filled {later : FileTree} (holds : Holds host later token data after descriptor)
    (filled : Filled files later)
    (kept : ∀ location, descriptor = .file location →
      later.get? location = files.get? location) :
    Holds host files token data after descriptor := by
  cases holds with
  | made named leads vacant held =>
      exact .made named ((Host.leadsTo_filled filled).1 leads) ((kept _ rfl).symm.trans vacant)
        held
  | overwritten named former held =>
      exact .overwritten named ((kept _ rfl).symm.trans former) held
  | lost named missing => exact .lost named fun old => kept _ rfl ▸ missing old
  | printed held => exact .printed held
  | reported held => exact .reported held

/-- What is written twice to one open file is the later data over the earlier. -/
theorem Takes.overlay_twice {location : Location} {first second old : Bytes}
    (former : before.world.files.get? location = some (.file old))
    (left : Takes host token first before (.file location) middle)
    (right : Takes host other second middle (.file location) after) :
    after.world.files.get? location =
      some (.file (FileTree.overlay second (FileTree.overlay first old))) := by
  have placed : middle.world.files.get? location =
      some (.file (FileTree.overlay first old)) := by
    cases left with
    | made _ _ vacant => cases former.symm.trans vacant
    | overwritten _ same deposited =>
        cases former.symm.trans same
        exact deposited.placed
    | lost _ missing => exact absurd former (missing old)
  cases right with
  | made _ _ vacant => cases placed.symm.trans vacant
  | overwritten _ same deposited =>
      cases placed.symm.trans same
      exact deposited.placed
  | lost _ missing => exact absurd placed (missing _)

section

variable {first second : String} {firstData secondData : Bytes} {left right : Descriptor}
variable {firstOpened secondOpened : FileTree}

/-- Two outputs that do not collide are both delivered. -/
theorem deliverAll_of_apart
    (opensFirst : host.Grants before.world.files first left firstOpened)
    (opensSecond : host.Grants before.world.files second right secondOpened)
    (apart : ¬ host.Collides before.world.files first second) :
    ∃ middle after,
      before.deliverAll host [(first, firstData), (second, secondData)] = (.ok (), after) ∧
        Takes host first firstData before left middle ∧
        Takes host second secondData middle right after := by
  obtain ⟨middle, done, takesFirst⟩ := deliver_of_grants opensFirst firstData
  have free : ¬ host.IsShadowed middle.world.files second := by
    rw [takesFirst.isShadowed_iff]
    rintro (shadowed | collides)
    · cases opensSecond with
      | descriptor _ free => exact free shadowed
      | file _ _ leads vacant => exact leads.free vacant shadowed
    · exact apart collides
  obtain ⟨opened, opensSecond⟩ := opensSecond.filled takesFirst.continues.filled free
  obtain ⟨after, doneToo, takesSecond⟩ := deliver_of_grants opensSecond secondData
  refine ⟨middle, after, ?_, takesFirst, takesSecond⟩
  rw [deliverAll_cons_of_ok done, deliverAll_cons_of_ok doneToo]
  rfl

/-- Of two outputs that collide, the first is delivered and the second fails. -/
theorem deliverAll_of_collides
    (opensFirst : host.Grants before.world.files first left firstOpened)
    (opensSecond : host.Grants before.world.files second right secondOpened)
    (collides : host.Collides before.world.files first second) :
    ∃ middle failure,
      before.deliverAll host [(first, firstData), (second, secondData)] =
          (.error failure, middle) ∧
        Takes host first firstData before left middle ∧
        ((∃ path, Designator.parse second = .ok (.file path) ∧
            failure.kind = .outputExists) ∨
          ∃ number, Designator.parse second = .ok (.descriptor number) ∧
            failure.kind = .ambiguousInput) := by
  obtain ⟨middle, done, takesFirst⟩ := deliver_of_grants opensFirst firstData
  have shadowed := takesFirst.isShadowed_iff.2 (.inr collides)
  have stops {failure : Failure}
      (refused : host.openOutput middle.world.files second = .error failure) :
      before.deliverAll host [(first, firstData), (second, secondData)] =
        (.error failure, middle) := by
    rw [deliverAll_cons_of_ok done, deliverAll_cons_of_refused refused]
  cases opensSecond with
  | file named =>
      refine ⟨middle, _, stops (Host.openOutput_file_of_isShadowed named shadowed), takesFirst,
        .inl ⟨_, named, rfl⟩⟩
  | descriptor named =>
      obtain ⟨failure, kind, -, refused⟩ :=
        Host.openOutput_descriptor_of_isShadowed named shadowed
      exact ⟨middle, failure, stops refused, takesFirst, .inr ⟨_, named, kind⟩⟩

end

end Console

theorem Decrypting.outputs_of_deliver {request : Decrypting} {first second : String}
    {key : SessionKey} {records : List Verification} {delivery : Delivery}
    (wantsKey : request.sessionKeyOut = some first)
    (wantsRecords : request.verificationsOut = some second)
    (delivered : request.plan.deliver (⟨some key, records⟩ : Decryption) = .ok delivery) :
    delivery.outputs = [(first, Text.encode (key.render ++ "\n")),
      (second, Delivery.report records)] := by
  obtain ⟨keys, written, rfl⟩ := deliver_eq_ok delivered
  rw [wantsKey] at written
  cases written
  rw [wantsRecords]
  rfl

end Cli
end StatelessPgp
