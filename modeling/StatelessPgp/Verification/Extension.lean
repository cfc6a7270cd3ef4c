import StatelessPgp.Json.Value

/-!
# Extensions of a verification

The free text of a verification may be an object of three fields: the names of
the certificates that may have made the signature, a comment, and any further
value.  Other fields are passed over; a field that occurs twice makes the object
unreadable.
-/

namespace StatelessPgp

/-- The structured form of the free text of a verification. -/
structure Extension where
  signers : List String
  comment : Option String
  ext : Option Json
  deriving Repr

namespace Extension

/-- The fields of an extension in the order in which they are written. -/
def toJson (extension : Extension) : Json :=
  .object
    (("signers", .array (extension.signers.map .string)) ::
      (match extension.comment with
        | some comment => [("comment", .string comment)]
        | none => []) ++
      (match extension.ext with
        | some value => [("ext", value)]
        | none => []))

def render (extension : Extension) : String :=
  extension.toJson.render

/-- A value that counts as absent if it is null. -/
def absentIfNull : Json → Option Json
  | .null => none
  | value => some value

/-- The string that a value is. -/
def string? : Json → Option String
  | .string text => some text
  | _ => none

/-- The strings that a value lists. -/
def strings? : Json → Option (List String)
  | .array items => items.mapM string?
  | _ => none

/-- The comment that a value is, or none if it is null. -/
def comment? : Json → Option (Option String)
  | .null => some none
  | .string text => some (some text)
  | _ => none

/-- What has been read of an extension. -/
structure Draft where
  signers : Option (List String) := none
  comment : Option (Option String) := none
  ext : Option (Option Json) := none

/-- How deep the value of a field may nest. -/
def fieldDepth : Nat := Json.maxDepth - 1

/-- Read a field.  The value of a field of another name is not looked at. -/
def Draft.add? (draft : Draft) (key : String) (tree : Json.Tree) : Option Draft :=
  if key = "signers" then
    if draft.signers.isSome then none
    else do
      let value ← Json.ofTree? fieldDepth tree
      let signers ← strings? value
      return { draft with signers := some signers }
  else if key = "comment" then
    if draft.comment.isSome then none
    else do
      let value ← Json.ofTree? fieldDepth tree
      let comment ← comment? value
      return { draft with comment := some comment }
  else if key = "ext" then
    if draft.ext.isSome then none
    else do
      let value ← Json.ofTree? fieldDepth tree
      return { draft with ext := some (absentIfNull value) }
  else some draft

/-- Read fields one after the other. -/
def Draft.addAll? (draft : Draft) :
    List (List Json.Piece × Json.Tree) → Option Draft
  | [] => some draft
  | (key, tree) :: fields => do
      let key ← Json.stringOfPieces? key
      let draft ← draft.add? key tree
      draft.addAll? fields

/-- Read the text of an extension.  The signers must be there. -/
def ofText? (text : String) : Option Extension :=
  match Json.Tree.ofText? text with
  | some (.object fields) => do
      let draft ← Draft.addAll? {} fields
      let signers ← draft.signers
      return ⟨signers, draft.comment.join, draft.ext.join⟩
  | _ => none

end Extension
end StatelessPgp
