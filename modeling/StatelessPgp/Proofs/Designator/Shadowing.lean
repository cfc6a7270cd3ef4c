import StatelessPgp.Designator
import StatelessPgp.Proofs.Files.Standing

/-!
# Files in the place of a designator

A token of one of the special forms is never read as the name of a file, and an entry
that has the token for its name is in the way of it.  So files decide whether such a
token is refused, and never what is read.
-/

namespace StatelessPgp

open FileTree

namespace Designator

/-- A token of a special form, with what it names: `@ENV:` and a name, or `@FD:` and one
to three digits.  Blank characters around it do not count. -/
inductive IsSpecial (token : String) : Designator → Prop where
  | variable (name : String) (form : Text.strip token = "@ENV:" ++ name) :
      IsSpecial token (.variable name)
  | descriptor (digits : List Char)
      (form : Text.strip token = "@FD:" ++ String.ofList digits)
      (filled : digits ≠ []) (few : digits.length ≤ 3)
      (decimal : ∀ digit ∈ digits, '0' ≤ digit ∧ digit ≤ '9') :
      IsSpecial token (.descriptor (Text.numberOfDigits digits))

theorem parse_of_isSpecial {token : String} {designator : Designator}
    (special : IsSpecial token designator) : parse token = .ok designator := by
  have trimmed : Text.trim token.toList = (Text.strip token).toList := by
    simp [Text.strip]
  rw [parse, trimmed]
  cases special with
  | «variable» name form =>
      have text : (Text.strip token).toList = environmentMark.toList ++ name.toList := by
        rw [form, String.toList_append]
        rfl
      have named : (environmentMark.toList ++ name.toList).drop environmentMark.length =
          name.toList := List.drop_left
      have filled : (environmentMark.toList ++ name.toList).isEmpty = false := rfl
      have marked : environmentMark.toList.isPrefixOf
          (environmentMark.toList ++ name.toList) = true := by
        rw [List.isPrefixOf_iff_prefix]
        exact List.prefix_append _ _
      simp only [text, filled, marked, named, if_true, Bool.false_eq_true, if_false,
        String.ofList_toList]
  | descriptor digits form filled few decimal =>
      have text : (Text.strip token).toList = descriptorMark ++ digits := by
        rw [form, String.toList_append]
        simp [descriptorMark]
      have digital : digits.all Text.isDigit = true := by
        simpa [Text.isDigit] using decimal
      have numbered : descriptorNumber? (descriptorMark ++ digits) =
          some (Text.numberOfDigits digits) := by
        have marked : descriptorMark.isPrefixOf (descriptorMark ++ digits) = true := by simp
        simp [descriptorNumber?, marked, few, digital, filled]
      have apart : environmentMark.toList.isPrefixOf (descriptorMark ++ digits) = false := rfl
      have present : (descriptorMark ++ digits).isEmpty = false := rfl
      simp only [text, present, apart, numbered, Bool.false_eq_true, if_false]

end Designator

namespace Host

variable {host : Host} {files : FileTree} {token : String}

/-- There is an entry, be it a link that leads nowhere, under the token taken for the
name of a file. -/
def IsShadowed (host : Host) (files : FileTree) (token : String) : Prop :=
  ∃ location entry,
    files.resolve host.directory (host.pathOf (Text.strip token)) false = .ok location ∧
      files.get? location = some entry

theorem isShadowed_iff :
    host.IsShadowed files token ↔
      files.exists? host.directory (host.pathOf (Text.strip token)) = true := by
  rw [IsShadowed, exists?, find]
  cases files.resolve host.directory (host.pathOf (Text.strip token)) false with
  | error error => simp [Except.toOption]
  | ok location =>
      cases found : files.get? location <;> simp [found, Except.toOption]

/-- A token that could be a file name is shadowed just if the current directory has an
entry of that name. -/
theorem isShadowed_iff_get?_ne_none (standing : files.Standing host.directory)
    (proper : Path.IsProper (Path.ofText (Text.strip token)))
    (short : (Path.ofText (Text.strip token)).length ≤ maxNameLength)
    (usable : checkPath (host.pathOf (Text.strip token)) = .ok ()) :
    host.IsShadowed files token ↔
      files.get? (host.directory ++ [Path.ofText (Text.strip token)]) ≠ none := by
  have leads := standing.resolve_join proper short host.directory usable
  rw [IsShadowed, pathOf, workingPath, leads, Option.ne_none_iff_exists']
  simp

theorem rejectAmbiguous_of_isShadowed (shadowed : host.IsShadowed files token) :
    ∃ failure, failure.kind = .ambiguousInput ∧
      host.rejectAmbiguous files token = .error failure := by
  have found := isShadowed_iff.1 shadowed
  rw [rejectAmbiguous]
  simp only [found, if_true]
  exact ⟨_, rfl, rfl⟩

theorem rejectAmbiguous_of_not_isShadowed (free : ¬ host.IsShadowed files token) :
    host.rejectAmbiguous files token = .ok () := by
  have missing := mt isShadowed_iff.2 free
  rw [rejectAmbiguous]
  simp only [missing, Bool.false_eq_true, if_false]

/-- What reading a variable yields: its bytes, unless it is unset or holds nothing but
white space. -/
inductive Yields : Option Bytes → Except Failure Bytes → Prop where
  | unset {failure : Failure} (missing : failure.kind = .missingInput) :
      Yields none (.error failure)
  | blank {value : Bytes} {failure : Failure} (missing : failure.kind = .missingInput)
      (blank : ∀ byte ∈ value, byte = 32 ∨ byte = 9 ∨ byte = 10 ∨ byte = 12 ∨ byte = 13) :
      Yields (some value) (.error failure)
  | bytes {value : Bytes} {byte : UInt8} (member : byte ∈ value)
      (visible : ¬ (byte = 32 ∨ byte = 9 ∨ byte = 10 ∨ byte = 12 ∨ byte = 13)) :
      Yields (some value) (.ok value)

theorem isAsciiBlank_iff {byte : UInt8} :
    isAsciiBlank byte = true ↔
      byte = 32 ∨ byte = 9 ∨ byte = 10 ∨ byte = 12 ∨ byte = 13 := by
  simp [isAsciiBlank, or_assoc]

theorem yields_readVariable (host : Host) (name : String) :
    Yields (host.lookup name) (host.readVariable name) := by
  rw [readVariable]
  cases host.lookup name with
  | none => exact .unset rfl
  | some value =>
      by_cases blank : value.all isAsciiBlank = true
      · simp only [blank, if_true]
        refine .blank rfl fun byte member => ?_
        exact isAsciiBlank_iff.1 (List.all_eq_true.1 blank byte member)
      · simp only [blank, Bool.false_eq_true, if_false]
        obtain ⟨byte, member, visible⟩ : ∃ byte ∈ value, isAsciiBlank byte ≠ true := by
          simpa using blank
        exact .bytes member (mt isAsciiBlank_iff.2 visible)

/-- Where nothing is in the way, a variable is read whatever else the files hold. -/
theorem readInput_of_not_isShadowed {name : String}
    (form : Text.strip token = "@ENV:" ++ name) (free : ¬ host.IsShadowed files token) :
    host.readInput files token = host.readVariable name := by
  have parsed := Designator.parse_of_isSpecial (.variable name form)
  have passed := rejectAmbiguous_of_not_isShadowed free
  rw [readInput, parsed]
  simp only [bind, Except.bind, passed]

/-- Reading and, for descriptors, writing fail the same way where an entry is in the
way. -/
theorem ambiguous_of_isShadowed {designator : Designator}
    (special : Designator.IsSpecial token designator)
    (shadowed : host.IsShadowed files token) :
    ∃ failure, failure.kind = .ambiguousInput ∧
      host.readInput files token = .error failure ∧
      ∀ number, designator = .descriptor number →
        host.checkOutput files token = .error failure ∧
          host.openOutput files token = .error failure := by
  have parsed := Designator.parse_of_isSpecial special
  obtain ⟨failure, kind, rejected⟩ := rejectAmbiguous_of_isShadowed shadowed
  refine ⟨failure, kind, ?_, ?_⟩
  · rw [readInput, parsed]
    cases special with
    | «variable» name form => simp only [bind, Except.bind, rejected]
    | descriptor digits form filled few decimal => simp only [bind, Except.bind, rejected]
  · rintro number rfl
    constructor
    · rw [checkOutput, parsed]
      simp only [bind, Except.bind, rejected]
    · rw [openOutput, parsed]
      simp only [bind, Except.bind, rejected]

end Host

/-- No entry takes the place of what a token of a special form names.  An entry under the
token's own name makes reading it ambiguous, and for descriptors also writing; variables
cannot be written at all.  Without such an entry a variable is read as it is, so that two
trees of files give the same answer, or one of them refuses. -/
theorem special_designators_cannot_be_shadowed (host : Host) (token : String) :
    (∀ designator files, Designator.IsSpecial token designator →
      host.IsShadowed files token →
      ∃ failure, failure.kind = .ambiguousInput ∧
        host.readInput files token = .error failure ∧
        ∀ number, designator = .descriptor number →
          host.checkOutput files token = .error failure ∧
            host.openOutput files token = .error failure) ∧
    (∀ name, Text.strip token = "@ENV:" ++ name →
      (∀ files, ∃ failure, failure.kind = .unsupportedSpecialPrefix ∧
        host.checkOutput files token = .error failure ∧
        host.openOutput files token = .error failure) ∧
      (∀ files, ¬ host.IsShadowed files token →
        Host.Yields (host.lookup name) (host.readInput files token)) ∧
      (∀ first second, ¬ host.IsShadowed first token → ¬ host.IsShadowed second token →
        host.readInput first token = host.readInput second token) ∧
      ∀ first second data, host.readInput first token = .ok data →
        host.readInput second token = .ok data ∨
          host.IsShadowed second token ∧
            ∃ failure, failure.kind = .ambiguousInput ∧
              host.readInput second token = .error failure) ∧
    ∀ files : FileTree, files.Standing host.directory →
      Path.IsProper (Path.ofText (Text.strip token)) →
      (Path.ofText (Text.strip token)).length ≤ maxNameLength →
      checkPath (host.pathOf (Text.strip token)) = .ok () →
      (host.IsShadowed files token ↔
        files.get? (host.directory ++ [Path.ofText (Text.strip token)]) ≠ none) := by
  refine ⟨fun designator files => Host.ambiguous_of_isShadowed, ?_,
    fun files => Host.isShadowed_iff_get?_ne_none⟩
  intro name form
  have special : Designator.IsSpecial token (.variable name) := .variable name form
  have parsed := Designator.parse_of_isSpecial special
  have read (files : FileTree) (free : ¬ host.IsShadowed files token) :=
    Host.readInput_of_not_isShadowed form free
  refine ⟨fun files => ⟨Host.variableOutput, rfl, ?_, ?_⟩, ?_, ?_, ?_⟩
  · rw [Host.checkOutput, parsed]
    rfl
  · rw [Host.openOutput, parsed]
    rfl
  · intro files free
    rw [read files free]
    exact host.yields_readVariable name
  · intro first second firstFree secondFree
    rw [read first firstFree, read second secondFree]
  · intro first second data done
    have firstFree : ¬ host.IsShadowed first token := by
      intro shadowed
      obtain ⟨failure, -, refused, -⟩ := Host.ambiguous_of_isShadowed special shadowed
      rw [refused] at done
      cases done
    by_cases shadowed : host.IsShadowed second token
    · obtain ⟨failure, kind, refused, -⟩ := Host.ambiguous_of_isShadowed special shadowed
      exact .inr ⟨shadowed, failure, kind, refused⟩
    · rw [read second shadowed, ← read first firstFree]
      exact .inl done

/-- A link that leads nowhere is in the way of a variable and of a descriptor, and other
files are not. -/
theorem dangling_links_make_designators_ambiguous :
    let host := Host.bare (Environment.empty.set "key" [75]) []
    let link : Entry := .link (Path.ofText "missing")
    let files : FileTree :=
      ⟨[([Path.ofText "@ENV:key"], link), ([Path.ofText "@FD:7"], link)]⟩
    let others : FileTree := ⟨[([Path.ofText "@ENV:key2"], .directory)]⟩
    (∃ failure, failure.kind = .ambiguousInput ∧
      host.readInput files " @ENV:key\n" = .error failure) ∧
    (∃ failure, failure.kind = .ambiguousInput ∧
      host.readInput files "@FD:7" = .error failure ∧
      host.checkOutput files "@FD:7" = .error failure ∧
      host.openOutput files "@FD:7" = .error failure) ∧
    (∃ failure, failure.kind = .unsupportedSpecialPrefix ∧
      host.checkOutput files " @ENV:key\n" = .error failure) ∧
    Host.Yields (some [75]) (host.readInput others " @ENV:key\n") ∧
    host.readInput .empty " @ENV:key\n" = host.readInput others " @ENV:key\n" := by
  intro host link files others
  obtain ⟨ambiguous, ofVariable, named⟩ :=
    special_designators_cannot_be_shadowed host " @ENV:key\n"
  obtain ⟨outputs, read, same, -⟩ := ofVariable "key" rfl
  have standing (tree : FileTree) : tree.Standing host.directory :=
    ⟨nofun, nofun, fun part inside => by
      rw [List.prefix_nil.1 inside]
      exact tree.isDirectory_root⟩
  have proper : Path.IsProper (Path.ofText (Text.strip " @ENV:key\n")) :=
    ⟨by decide, by decide, by decide, by decide⟩
  have shadows (tree : FileTree) := named tree (standing tree) proper (by decide) rfl
  have free : ¬ host.IsShadowed others " @ENV:key\n" := mt (shadows others).1 (by decide)
  have freeAlone : ¬ host.IsShadowed .empty " @ENV:key\n" :=
    mt (shadows .empty).1 (by decide)
  obtain ⟨failure, kind, refused, -⟩ := ambiguous _ files (.variable "key" rfl)
    ((shadows files).2 (by decide))
  obtain ⟨unsupported, unsupportedKind, unchecked, -⟩ := outputs files
  have descriptor : Designator.IsSpecial "@FD:7" (.descriptor 7) :=
    .descriptor ['7'] rfl (by decide) (by decide) (List.forall_mem_singleton.2 (by decide))
  obtain ⟨other, otherKind, unread, unwritten⟩ :=
    (special_designators_cannot_be_shadowed host "@FD:7").1 _ files descriptor
      ⟨[Path.ofText "@FD:7"], link, rfl, rfl⟩
  exact ⟨⟨failure, kind, refused⟩, ⟨other, otherKind, unread, unwritten 7 rfl⟩,
    ⟨unsupported, unsupportedKind, unchecked⟩, read others free,
    same .empty others freeAlone free⟩

end StatelessPgp
