import ShapeCheck.Shape.Error

/-!
# One level of the document of a shape

A shape is written as an object with a `kind` or as a list that starts with the
kind.  Here one level of such a document is read; the documents of the parts are
left as they are.
-/

namespace ShapeCheck
namespace Shape

inductive Kind where
  | literal
  | primitive
  | any
  | union
  | intersection
  | tuple
  | array
  | object
deriving DecidableEq

namespace Kind

def name : Kind → String
  | .literal => "literal"
  | .primitive => "primitive"
  | .any => "any"
  | .union => "union"
  | .intersection => "intersection"
  | .tuple => "tuple"
  | .array => "array"
  | .object => "object"

def ofName? (name : String) : Option Kind :=
  if name = "literal" then some .literal
  else if name = "primitive" then some .primitive
  else if name = "any" then some .any
  else if name = "union" then some .union
  else if name = "intersection" then some .intersection
  else if name = "tuple" then some .tuple
  else if name = "array" then some .array
  else if name = "object" then some .object
  else none

theorem ofName?_name (k : Kind) : ofName? k.name = some k := by
  cases k <;> decide

theorem name_of_ofName? {name : String} {k : Kind} (h : ofName? name = some k) :
    k.name = name := by
  unfold ofName? at h
  repeat' split at h
  all_goals first
    | (cases h; subst name; rfl)
    | cases h

/-- The name of the member that the kind needs, and how messages title the list
form. -/
def content : Kind → String × String
  | .literal => ("value", "struct variant RawShape::Literal")
  | .primitive => ("type", "struct variant RawShape::Primitive")
  | .any => ("", "")
  | .union => ("members", "struct variant RawShape::Union")
  | .intersection => ("members", "struct variant RawShape::Intersection")
  | .tuple => ("elements", "struct variant RawShape::Tuple")
  | .array => ("element", "struct variant RawShape::Array")
  | .object => ("fields", "struct variant RawShape::Object")

end Kind

structure RawField where
  name : String
  shape : Json
  optional : Bool

/-- A shape whose parts are still documents. -/
inductive Node where
  | literal (value : Option Json)
  | primitive (type : String)
  | any
  | union (members : List Json)
  | intersection (members : List Json)
  | tuple (elements : List Json)
  | array (element : Json)
  | object (fields : List RawField)

/-! ## Fields -/

namespace RawField

def title : String := "struct RawField"

structure Draft where
  name : Option String := none
  shape : Option Json := none
  optional : Option Bool := none

def Draft.take (draft : Draft) : String × Json → Except Json.Mismatch Draft
  | (key, content) =>
      if key = "name" then
        match content with
        | .text name => .ok { draft with name := some name }
        | other => .error (.wrongType other.found .string)
      else if key = "shape" then .ok { draft with shape := some content }
      else if key = "optional" then
        match content with
        | .bool optional => .ok { draft with optional := some optional }
        | other => .error (.wrongType other.found .boolean)
      else .ok draft

def Draft.takeAll (draft : Draft) :
    List (String × Json) → Except Json.Mismatch Draft
  | [] => .ok draft
  | member :: rest =>
      match draft.take member with
      | .ok next => next.takeAll rest
      | .error e => .error e

/-- A field has a name and a shape; it is required unless it says otherwise. -/
def Draft.finish (draft : Draft) : Except Json.Mismatch RawField :=
  match draft.name, draft.shape with
  | none, _ => .error (.missingField "name")
  | some _, none => .error (.missingField "shape")
  | some name, some shape => .ok ⟨name, shape, draft.optional.getD false⟩

def ofItems : List Json → Except Json.Mismatch RawField
  | [] => .error (.tooShort 0 title 3)
  | .text name :: rest =>
      match rest with
      | [] => .error (.tooShort 1 title 3)
      | [shape] => .ok ⟨name, shape, false⟩
      | shape :: .bool optional :: [] => .ok ⟨name, shape, optional⟩
      | _ :: .bool _ :: more => .error (.tooLong (more.length + 3) 3)
      | _ :: other :: _ => .error (.wrongType other.found .boolean)
  | other :: _ => .error (.wrongType other.found .string)

def ofJson : Json → Except Json.Mismatch RawField
  | .object members =>
      match Draft.takeAll {} members with
      | .ok draft => draft.finish
      | .error e => .error e
  | .array items => ofItems items
  | other => .error (.wrongType other.found (.record title))

def ofList : List Json → Except Json.Mismatch (List RawField)
  | [] => .ok []
  | item :: rest =>
      match ofJson item with
      | .error e => .error e
      | .ok field =>
          match ofList rest with
          | .error e => .error e
          | .ok fields => .ok (field :: fields)

end RawField

/-! ## Nodes -/

namespace Node

def ofContent (kind : Kind) (content : Json) : Except Json.Mismatch Node :=
  match kind with
  | .literal => .ok (.literal (some content))
  | .any => .ok .any
  | .array => .ok (.array content)
  | .primitive =>
      match content with
      | .text type => .ok (.primitive type)
      | other => .error (.wrongType other.found .string)
  | .union =>
      match content with
      | .array items => .ok (.union items)
      | other => .error (.wrongType other.found .sequence)
  | .intersection =>
      match content with
      | .array items => .ok (.intersection items)
      | other => .error (.wrongType other.found .sequence)
  | .tuple =>
      match content with
      | .array items => .ok (.tuple items)
      | other => .error (.wrongType other.found .sequence)
  | .object =>
      match content with
      | .array items =>
          match RawField.ofList items with
          | .ok fields => .ok (.object fields)
          | .error e => .error e
      | other => .error (.wrongType other.found .sequence)

def ofMembers (kind : Kind) (members : List (String × Json)) :
    Except Json.Mismatch Node :=
  match kind with
  | .any => .ok .any
  | .literal => .ok (.literal (Entries.get? members "value"))
  | _ =>
      match Entries.get? members kind.content.1 with
      | some content => ofContent kind content
      | none => .error (.missingField kind.content.1)

def ofItems (kind : Kind) (items : List Json) : Except Json.Mismatch Node :=
  match kind, items with
  | .any, [] => .ok .any
  | .any, more => .error (.tooLong more.length 0)
  | .literal, [] => .ok (.literal none)
  | _, [] => .error (.tooShort 0 kind.content.2 1)
  | _, content :: more =>
      match ofContent kind content with
      | .error e => .error e
      | .ok node => if more.isEmpty then .ok node else .error (.tooLong (more.length + 1) 1)

def ofMismatch : Except Json.Mismatch Node → Except Cause Node
  | .ok node => .ok node
  | .error e => .error (.malformed e)

/-- Read one level of the document of a shape. -/
def ofJson : Json → Except Cause Node
  | .object members =>
      match Entries.get? members "kind" with
      | none => .error (.unsupported .noKind)
      | some (.text name) =>
          match Kind.ofName? name with
          | some kind => ofMismatch (ofMembers kind members)
          | none => .error (.unsupported (.kind name))
      | some other => .error (.kindNotString other)
  | .array [] => .error (.malformed (.missingField "kind"))
  | .array (.text name :: rest) =>
      match Kind.ofName? name with
      | some kind => ofMismatch (ofItems kind rest)
      | none =>
          if rest.isEmpty then .error (.unsupported (.kind ""))
          else .error (.malformed (.tooLong rest.length 0))
  | .array (other :: _) => .error (.malformed (.wrongType other.found .kindName))
  | other => .error (.malformed (.wrongType other.found .shape))

end Node

end Shape
end ShapeCheck
