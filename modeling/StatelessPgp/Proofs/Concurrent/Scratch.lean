import StatelessPgp.Concurrent.Progress
import StatelessPgp.Proofs.Channels.Release
import StatelessPgp.Proofs.Files.Siblings

/-!
# Names of scratch directories

A scratch directory gets a random name of a fixed form.  Whether it can be made depends
on the directory for all of them, which no such name can change, and on the name being
free.
-/

namespace StatelessPgp

open FileTree

section

variable {name : Name}

theorem length_of_isScratchName (scratch : isScratchName name = true) : name.length = 10 := by
  rw [isScratchName, Bool.and_eq_true, Bool.and_eq_true] at scratch
  exact beq_iff_eq.1 scratch.1.2

theorem not_mem_scratchName {byte : UInt8} (scratch : isScratchName name = true)
    (special : byte ∉ Path.ofText "sop-") (other : isAlphanumeric byte = false) :
    byte ∉ name := by
  rw [isScratchName, Bool.and_eq_true, Bool.and_eq_true] at scratch
  obtain ⟨⟨begins, -⟩, letters⟩ := scratch
  obtain ⟨rest, rfl⟩ := List.isPrefixOf_iff_prefix.1 begins
  have dropped : (Path.ofText "sop-" ++ rest).drop 4 = rest := rfl
  rw [dropped, List.all_eq_true] at letters
  intro member
  rcases List.mem_append.1 member with first | last
  · exact special first
  · exact absurd (letters byte last) (by simp [other])

theorem isProper_of_isScratchName (scratch : isScratchName name = true) :
    Path.IsProper name := by
  have length := length_of_isScratchName scratch
  refine ⟨?_, not_mem_scratchName scratch (by decide) (by decide), ?_, ?_⟩ <;>
    · rintro rfl
      cases length

theorem contains_zero_of_isScratchName (scratch : isScratchName name = true) :
    name.contains 0 = false := by
  have absent : 0 ∉ name := not_mem_scratchName scratch (by decide) (by decide)
  simpa using absent

theorem short_of_isScratchName (scratch : isScratchName name = true) :
    name.length ≤ maxNameLength := by
  rw [length_of_isScratchName scratch]
  decide

end

namespace Host

variable {host : Host} {config : Config} {files tree : FileTree} {name other : Name}

theorem isAbsolute_scratchParent (host : Host) (parent : ScratchParent) :
    (host.scratchParent parent).isAbsolute = true :=
  Path.isAbsolute_join (Path.isAbsolute_ofLocation host.directory) _

theorem createScratch_drawing (host : Host) (config : Config) (name : Name)
    (tree : FileTree) :
    (host.drawing name).createScratch config.scratchParent tree =
      match tree.createDirectory host.directory (host.scratch config name) with
      | .ok (_, made) => .ok (host.scratch config name, made)
      | .error error =>
          .error (error.createdAt (Text.quotedBytes (host.scratch config name))) :=
  rfl

theorem checkPath_scratch (host : Host) (config : Config)
    (left : isScratchName name = true) (right : isScratchName other = true) :
    checkPath (host.scratch config name) = checkPath (host.scratch config other) := by
  apply checkPath_join_congr _ (isProper_of_isScratchName left)
    (isProper_of_isScratchName right)
  · rw [length_of_isScratchName left, length_of_isScratchName right]
  · rw [contains_zero_of_isScratchName left, contains_zero_of_isScratchName right]

theorem checkPath_scratch_join (host : Host) (config : Config)
    (left : isScratchName name = true) (right : isScratchName other = true)
    (channel : Channel) :
    checkPath ((host.scratch config name).join (Path.ofText channel.fileName)) =
      checkPath ((host.scratch config other).join (Path.ofText channel.fileName)) := by
  apply checkPath_join_join_congr (host.isAbsolute_scratchParent _)
    (isProper_of_isScratchName left) (isProper_of_isScratchName right)
    channel.isProper_fileName
  · rw [length_of_isScratchName left, length_of_isScratchName right]
  · rw [contains_zero_of_isScratchName left, contains_zero_of_isScratchName right]

/-- The paths of all scratch directories lead into one directory, or all lead nowhere. -/
theorem resolveName_scratch (host : Host) (config : Config) (closed : files.Closed) :
    (∃ root, files.IsDirectory root ∧ ∀ name, isScratchName name = true →
        files.resolveName host.directory (host.scratch config name) = .ok (root ++ [name])) ∨
      ∃ error, ∀ name, isScratchName name = true →
        files.resolveName host.directory (host.scratch config name) = .error error := by
  have sample : isScratchName (Path.ofText "sop-abcdef") = true := by decide
  cases usable : checkPath (host.scratch config (Path.ofText "sop-abcdef")) with
  | error error =>
      refine .inr ⟨error, fun name scratch => ?_⟩
      rw [resolveName, host.checkPath_scratch config scratch sample, usable]
  | ok =>
      have allowed (name : Name) (scratch : isScratchName name = true) :
          checkPath (host.scratch config name) = .ok () :=
        (host.checkPath_scratch config scratch sample).trans usable
      rcases resolveName_join closed (host.isAbsolute_scratchParent config.scratchParent) with
        ⟨root, found, leads⟩ | ⟨error, fails⟩
      · exact .inl ⟨root, found, fun name scratch =>
          leads name (isProper_of_isScratchName scratch) (short_of_isScratchName scratch)
            (allowed name scratch)⟩
      · exact .inr ⟨error, fun name scratch =>
          fails name (isProper_of_isScratchName scratch) (allowed name scratch)⟩

/-- Scratch directories can be made in a directory. -/
structure Opens (host : Host) (config : Config) (files : FileTree) (root : Location) :
    Prop where
  made : files.get? root = some .directory
  leads : ∀ name, isScratchName name = true →
    files.resolveName host.directory (host.scratch config name) = .ok (root ++ [name])

theorem Opens.unique {root place : Location} (left : Opens host config files root)
    (right : Opens host config files place) : root = place := by
  have sample : isScratchName (Path.ofText "sop-abcdef") = true := by decide
  have same := (left.leads _ sample).symm.trans (right.leads _ sample)
  exact List.append_inj_left' (Except.ok.inj same) rfl

theorem isScratchName_of_offers (offered : host.offers config files name = true) :
    isScratchName name = true := by
  rw [offers, Bool.and_eq_true] at offered
  exact offered.1

theorem vacant_of_offers {place : Location} (offered : host.offers config files name = true)
    (leads : files.resolveName host.directory (host.scratch config name) = .ok place) :
    files.get? place = none := by
  rw [offers, leads, Bool.and_eq_true] at offered
  exact Option.isNone_iff_eq_none.1 offered.2

theorem offers_of_sameEntries (same : tree.SameEntries files) :
    host.offers config tree name = host.offers config files name := by
  rw [offers, offers, same.resolveName_eq]
  cases files.resolveName host.directory (host.scratch config name) with
  | error error => rfl
  | ok location =>
      dsimp only
      rw [same location]

/-- Where scratch directories can be made, one is made with any name that may be drawn,
also when there are more entries by then. -/
theorem Opens.createScratch {root : Location} (opens : Opens host config files root)
    (inside : files.IsPart tree) (offered : host.offers config tree name = true) :
    tree.get? (root ++ [name]) = none ∧
      (host.drawing name).createScratch config.scratchParent tree =
        .ok (host.scratch config name, tree.set (root ++ [name]) .directory) := by
  have leads := inside.resolveName_eq (opens.leads name (isScratchName_of_offers offered))
  have vacant := vacant_of_offers offered leads
  refine ⟨vacant, ?_⟩
  have made := inside _ _ opens.made
  have free : tree.checkVacant (root ++ [name]) = .ok () := by
    simp [checkVacant, vacant, made]
  rw [createScratch_drawing, createDirectory, leads]
  dsimp only
  rw [free]
  rfl

/-- Scratch directories can be made, or there is one reason for which none can. -/
theorem opens_or_refuses (host : Host) (config : Config) (closed : files.Closed) :
    (∃ root, Opens host config files root) ∨
      ∃ error, ∀ tree name, tree.SameEntries files → host.offers config tree name = true →
        (host.drawing name).createScratch config.scratchParent tree =
          .error (SystemError.createdAt (Text.quotedBytes (host.scratch config name))
            error) := by
  rcases host.resolveName_scratch config closed with
    ⟨root, found | found, leads⟩ | ⟨error, fails⟩
  · exact .inl ⟨root, found, leads⟩
  · refine .inr ⟨.noEntry, fun tree name same offered => ?_⟩
    have arrives := leads name (isScratchName_of_offers offered)
    rw [← same.resolveName_eq] at arrives
    have vacant := vacant_of_offers offered arrives
    have kept : tree.checkVacant (root ++ [name]) = .error .noEntry := by
      simp [checkVacant, vacant, same root, found]
    rw [createScratch_drawing, createDirectory, arrives]
    dsimp only
    rw [kept]
    rfl
  · refine .inr ⟨error, fun tree name same offered => ?_⟩
    have stops := fails name (isScratchName_of_offers offered)
    rw [← same.resolveName_eq] at stops
    rw [createScratch_drawing, createDirectory, stops]

end Host

/-- The place at which a scratch directory with a name is made. -/
structure Nest (host : Host) (config : Config) (files : FileTree) (name : Name)
    (place : Location) : Prop where
  scratch : isScratchName name = true
  inside : ∃ root, Host.Opens host config files root ∧ place = root ++ [name]
  vacant : files.get? place = none

namespace Nest

variable {host : Host} {config : Config} {files : FileTree} {name other : Name}
variable {place there : Location}

theorem leads (nest : Nest host config files name place) :
    files.resolveName host.directory (host.scratch config name) = .ok place := by
  obtain ⟨root, opens, rfl⟩ := nest.inside
  exact opens.leads name nest.scratch

theorem ne_nil (nest : Nest host config files name place) : place ≠ [] := by
  obtain ⟨root, -, rfl⟩ := nest.inside
  simp

theorem unique (left : Nest host config files name place)
    (right : Nest host config files name there) : place = there :=
  Except.ok.inj (left.leads.symm.trans right.leads)

/-- Nothing lies below two of the places. -/
theorem apart (left : Nest host config files name place)
    (right : Nest host config files other there) {location : Location}
    (first : place <+: location) (second : there <+: location) : name = other := by
  obtain ⟨root, opens, rfl⟩ := left.inside
  obtain ⟨_, same, rfl⟩ := right.inside
  obtain rfl := opens.unique same
  have within := List.prefix_of_prefix_length_le first second (by simp)
  have equal := within.eq_of_length (by simp)
  exact List.singleton_inj.1 (List.append_cancel_left equal)

end Nest

end StatelessPgp
