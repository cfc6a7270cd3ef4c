import StatelessPgp.Proofs.Json.Values
import StatelessPgp.Proofs.Verification.Built
import StatelessPgp.Proofs.Verification.Relay

/-!
# Extensions in the line of a record

An extension is written as an object in one line and read back from it.  The object begins and
ends with visible characters and does not look like a mode, so it stands as the free text of a
record.
-/

namespace StatelessPgp

open Text

namespace Extension

/-- An extension that is told apart when it is read: its value is not null, which would count as
absent, it holds no doubles, and no containers nest too deep. -/
structure IsPortable (extension : Extension) : Prop where
  present : extension.ext ≠ some .null
  exact : ∀ value, extension.ext = some value → value.IsExact
  shallow : extension.toJson.depth < 128

/-- The names of the certificates as they are written. -/
def signersJson (extension : Extension) : Json :=
  .array (extension.signers.map .string)

/-- The field of the comment, if there is one. -/
def commentFields (extension : Extension) : List (String × Json) :=
  match extension.comment with
  | some comment => [("comment", .string comment)]
  | none => []

/-- The field of the further value, if there is one. -/
def extFields (extension : Extension) : List (String × Json) :=
  match extension.ext with
  | some value => [("ext", value)]
  | none => []

/-- The fields in the order in which they are written. -/
def fields (extension : Extension) : List (String × Json) :=
  ("signers", extension.signersJson) :: (extension.commentFields ++ extension.extFields)

variable (extension : Extension)

theorem toJson_eq : extension.toJson = .object extension.fields :=
  rfl

theorem toList_render : extension.render.toList =
    '\x7b' :: Json.writtenFields extension.fields ++ ['\x7d'] := by
  rw [render, Json.render, String.toList_ofList, toJson_eq, Json.written]

theorem isTrimmed_render : IsTrimmed extension.render.toList := by
  rw [toList_render]
  refine ⟨nofun, ?_, ?_⟩
  · intro character first
    cases first
    decide
  · intro character last
    rw [List.getLast?_concat] at last
    cases last
    decide

theorem isExact_signersJson : extension.signersJson.IsExact :=
  .array (List.forall_mem_map.2 fun signer _ => .string signer)

theorem isExact_commentFields : ∀ field ∈ extension.commentFields, field.2.IsExact := by
  rw [commentFields]
  cases extension.comment with
  | none => exact nofun
  | some comment => exact List.forall_mem_singleton.2 (.string comment)

variable {extension}

namespace IsPortable

variable (portable : extension.IsPortable)
include portable

theorem isExact_extFields : ∀ field ∈ extension.extFields, field.2.IsExact := by
  rw [extFields]
  cases found : extension.ext with
  | none => exact nofun
  | some value => exact List.forall_mem_singleton.2 (portable.exact value found)

theorem isExact_fields : ∀ field ∈ extension.fields, field.2.IsExact := by
  rw [fields, List.forall_mem_cons, List.forall_mem_append]
  exact ⟨extension.isExact_signersJson, extension.isExact_commentFields,
    portable.isExact_extFields⟩

theorem isSpelled : extension.toJson.IsSpelled := by
  rw [toJson_eq]
  exact Json.isSpelled_object fun field member => (portable.isExact_fields field member).isSpelled

/-- The value of a field is read back from its tree. -/
theorem ofTree?_toTree {field : String × Json} (member : field ∈ extension.fields) :
    Json.ofTree? fieldDepth field.2.toTree = some field.2 := by
  have shallow := portable.shallow
  rw [toJson_eq, Json.depth] at shallow
  have inside := Json.depth_le_of_mem_fields member
  have depth : fieldDepth = 126 := rfl
  exact (portable.isExact_fields field member).ofTree?_toTree (by omega)

end IsPortable

theorem strings?_signersJson (extension : Extension) :
    strings? extension.signersJson = some extension.signers := by
  have each : extension.signers.mapM (string? ∘ Json.string) =
      some (extension.signers.map id) := List.mapM_pure
  rw [signersJson, strings?, List.mapM_map, each, List.map_id]

namespace Draft

theorem addAll?_cons (draft : Draft) (key : String) (tree : Json.Tree)
    (trees : List (List Json.Piece × Json.Tree)) :
    draft.addAll? ((Json.piecesOf key, tree) :: trees) =
      (draft.add? key tree).bind fun draft => draft.addAll? trees := by
  rw [addAll?, Json.stringOfPieces?_piecesOf]
  rfl

theorem addAll?_append (draft : Draft) (first second : List (List Json.Piece × Json.Tree)) :
    draft.addAll? (first ++ second) =
      (draft.addAll? first).bind fun draft => draft.addAll? second := by
  induction first generalizing draft with
  | nil => rfl
  | cons field first hypothesis =>
      obtain ⟨pieces, tree⟩ := field
      rw [List.cons_append, addAll?, addAll?]
      cases Json.stringOfPieces? pieces with
      | none => rfl
      | some key =>
          dsimp only [bind, Option.bind]
          cases draft.add? key tree with
          | none => rfl
          | some draft => exact hypothesis draft

section

variable {draft : Draft} {tree : Json.Tree}

theorem add?_signers {extension : Extension} (fresh : draft.signers = none)
    (read : Json.ofTree? fieldDepth tree = some extension.signersJson) :
    draft.add? "signers" tree = some { draft with signers := some extension.signers } := by
  rw [add?, if_pos rfl, if_neg (by simp [fresh]), read]
  dsimp only [bind, Option.bind]
  rw [strings?_signersJson]
  rfl

theorem add?_comment {comment : String} (fresh : draft.comment = none)
    (read : Json.ofTree? fieldDepth tree = some (.string comment)) :
    draft.add? "comment" tree = some { draft with comment := some (some comment) } := by
  rw [add?, if_neg (by decide), if_pos rfl, if_neg (by simp [fresh]), read]
  rfl

theorem add?_ext {value : Json} (fresh : draft.ext = none) (present : value ≠ .null)
    (read : Json.ofTree? fieldDepth tree = some value) :
    draft.add? "ext" tree = some { draft with ext := some (some value) } := by
  rw [add?, if_neg (by decide), if_neg (by decide), if_pos rfl, if_neg (by simp [fresh]), read]
  dsimp only [bind, Option.bind]
  rw [absentIfNull]
  · rfl
  · exact present

end

end Draft

namespace IsPortable

variable (portable : extension.IsPortable)
include portable

theorem addAll?_commentFields (signers : List String) :
    Draft.addAll? ⟨some signers, none, none⟩ (Json.fieldTreesOf extension.commentFields) =
      some ⟨some signers, extension.comment.map some, none⟩ := by
  cases found : extension.comment with
  | none =>
      rw [commentFields, found]
      rfl
  | some comment =>
      have only : extension.commentFields = [("comment", .string comment)] := by
        rw [commentFields, found]
      have member : ("comment", .string comment) ∈ extension.fields :=
        .tail _ (List.mem_append_left _ (only ▸ .head []))
      rw [only, Json.fieldTreesOf, Json.fieldTreesOf, Draft.addAll?_cons,
        Draft.add?_comment rfl (portable.ofTree?_toTree member)]
      rfl

theorem addAll?_extFields (signers : List String) (comment : Option (Option String)) :
    Draft.addAll? ⟨some signers, comment, none⟩ (Json.fieldTreesOf extension.extFields) =
      some ⟨some signers, comment, extension.ext.map some⟩ := by
  cases found : extension.ext with
  | none =>
      rw [extFields, found]
      rfl
  | some value =>
      have only : extension.extFields = [("ext", value)] := by rw [extFields, found]
      have member : ("ext", value) ∈ extension.fields :=
        .tail _ (List.mem_append_right _ (only ▸ .head []))
      have present : value ≠ .null := fun null => portable.present (null ▸ found)
      rw [only, Json.fieldTreesOf, Json.fieldTreesOf, Draft.addAll?_cons,
        Draft.add?_ext rfl present (portable.ofTree?_toTree member)]
      rfl

theorem addAll?_fields : Draft.addAll? {} (Json.fieldTreesOf extension.fields) =
    some ⟨some extension.signers, extension.comment.map some, extension.ext.map some⟩ := by
  have signers := portable.ofTree?_toTree (.head _)
  have others := Draft.addAll?_append ⟨some extension.signers, none, none⟩
    (Json.fieldTreesOf extension.commentFields) (Json.fieldTreesOf extension.extFields)
  rw [portable.addAll?_commentFields, Option.bind_some, portable.addAll?_extFields,
    ← Json.fieldTreesOf_append] at others
  rw [fields, Json.fieldTreesOf, Draft.addAll?_cons, Draft.add?_signers rfl signers,
    Option.bind_some]
  exact others

/-- An extension is read back from its text. -/
theorem ofText?_render : ofText? extension.render = some extension := by
  have tree : extension.toJson.toTree = .object (Json.fieldTreesOf extension.fields) := by
    rw [toJson_eq, Json.toTree]
  have same {α : Type} (value : Option α) : (value.map some).join = value := by
    cases value <;> rfl
  rw [ofText?, render, portable.isSpelled.treeOfText?_render, tree]
  dsimp only
  rw [portable.addAll?_fields]
  -- An absent field and one that is null are not told apart any more.
  dsimp only [bind, Option.bind]
  rw [same, same]
  rfl

theorem isFreeText_render : IsFreeText extension.render.toList := by
  obtain ⟨filled, begins, ends⟩ := extension.isTrimmed_render
  refine ⟨filled, begins, ends, ?_⟩
  rw [render, Json.render, String.toList_ofList]
  exact portable.isSpelled.lineFeed_not_mem_written

end IsPortable

end Extension

namespace Verification

variable {verification : Verification} {extension : Extension}

theorem description_withExtension (verification : Verification) (extension : Extension) :
    (verification.withExtension extension).description = some extension.render := by
  rw [withExtension, description_withDescription, extension.isTrimmed_render.stripped?_eq]

section

variable (carried : verification.description = some extension.render)
include carried

/-- The text of an extension is recognized by its braces. -/
theorem containsObject_of_description : verification.containsObject = true := by
  rw [containsObject, carried]
  dsimp only
  rw [extension.isTrimmed_render.trim_eq, extension.toList_render, List.getLast?_concat]
  rfl

theorem extension?_of_description (portable : extension.IsPortable) :
    verification.extension? = some extension := by
  rw [extension?, containsObject_of_description carried, if_pos rfl, carried, Option.bind_some,
    portable.ofText?_render]

/-- An extension does not look like a mode, and stands in one line. -/
theorem Built.relayable (built : verification.Built) (portable : extension.IsPortable) :
    verification.Relayable where
  key := built.wellSpaced.key
  cert := built.wellSpaced.cert
  description text found := by
    obtain rfl := Option.some.inj (carried.symm.trans found)
    exact portable.isFreeText_render
  unannounced _ text found := by
    obtain rfl := Option.some.inj (carried.symm.trans found)
    rw [announcedMode?_eq_none_iff, extension.toList_render]
    rintro ⟨rest, same⟩
    exact absurd (List.cons.inj same).1 (by decide)
  cert_ends := built.wellSpaced.cert_ends

end

end Verification

/-- An extension of any names and comment, and of any further value without doubles that is not
null, survives in the line of a record: the free text is recognized as an object and read as the
extension, the line has no line feed, and the record that is read from it carries the extension
as well. -/
theorem extensions_survive_lines {verification : Verification} {extension : Extension}
    (built : verification.Built) (portable : extension.IsPortable) :
    (verification.withExtension extension).containsObject = true ∧
      (verification.withExtension extension).extension? = some extension ∧
      '\n' ∉ (verification.withExtension extension).render.toList ∧
      ∃ read, Verification.parse (verification.withExtension extension).render = .ok read ∧
        read.extension? = some extension := by
  have carried := verification.description_withExtension extension
  have carriedBack := (Verification.description_shown _).trans carried
  have relayable := (built.withDescription extension.render).relayable carried portable
  refine ⟨Verification.containsObject_of_description carried,
    Verification.extension?_of_description carried portable, ?_, _, ?_,
    Verification.extension?_of_description carriedBack portable⟩
  · rw [Verification.render, String.toList_ofList]
    exact relayable.lineFeed_not_mem_written
  · rw [Verification.parse_render]
    exact relayable.ofLine_written

/-- Control characters, marks of the format and the ends of the range of integers survive. -/
theorem escaped_extension_survives :
    let value : Json := .object [("", .null), ("a\n\"", .array [.integer (-9223372036854775808),
      .integer 18446744073709551615, .boolean false, .object [], .string "mode:text \u2028"])]
    let extension : Extension := ⟨["\\ \x00\x1f😀", ""], some "\x7d\t\x08", some value⟩
    let record := (Verification.new ⟨1483228799, 1750000000, by decide, by decide,
      by decide⟩ "K" "C").withMode .text
    extension.IsPortable ∧ record.Built ∧
      (record.withExtension extension).render =
        "2016-12-31T23:59:60Z K C mode:text \x7b\"signers\":[\"\\\\ \\u0000\\u001f😀\",\"\"]," ++
          "\"comment\":\"\x7d\\t\\b\",\"ext\":\x7b\"\":null,\"a\\n\\\"\":" ++
          "[-9223372036854775808,18446744073709551615,false,\x7b\x7d," ++
          "\"mode:text \u2028\"]\x7d\x7d" ∧
      (record.withExtension extension).containsObject = true ∧
      (record.withExtension extension).extension? = some extension ∧
      '\n' ∉ (record.withExtension extension).render.toList ∧
      ∃ read, Verification.parse (record.withExtension extension).render = .ok read ∧
        read.extension? = some extension := by
  intro value extension record
  have isExact : value.IsExact := by
    refine .object (List.pairwise_pair.2 (by decide))
      (List.forall_mem_cons.2 ⟨.null, List.forall_mem_singleton.2 (.array ?_)⟩)
    simp only [List.forall_mem_cons]
    exact ⟨.integer (by decide) (by decide), .integer (by decide) (by decide), .boolean false,
      .object .nil nofun, .string _, nofun⟩
  have portable : extension.IsPortable := by
    refine ⟨by simp [extension, value], fun found same => ?_, by decide +kernel⟩
    obtain rfl := Option.some.inj same
    exact isExact
  have built : record.Built := .withMode _ (.new _ (by decide) (by decide))
  exact ⟨portable, built, by decide +kernel, extensions_survive_lines built portable⟩

end StatelessPgp
