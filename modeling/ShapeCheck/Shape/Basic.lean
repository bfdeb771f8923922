import ShapeCheck.Literal

/-!
# Shapes

A shape describes the form of a value.
-/

namespace ShapeCheck

inductive Primitive where
  | text
  | number
  | boolean
deriving DecidableEq

def Primitive.name : Primitive → String
  | .text => "string"
  | .number => "number"
  | .boolean => "boolean"

def Primitive.ofName? (name : String) : Option Primitive :=
  if name = "string" then some .text
  else if name = "number" then some .number
  else if name = "boolean" then some .boolean
  else none

def Primitive.accepts : Primitive → Value → Bool
  | .text, .text _ => true
  | .number, .number _ => true
  | .boolean, .bool _ => true
  | _, _ => false

mutual
inductive Shape where
  /-- exactly this scalar -/
  | literal (value : Literal)
  /-- any scalar of a type -/
  | primitive (type : Primitive)
  /-- anything -/
  | any
  /-- at least one member's form -/
  | union (members : List Shape)
  /-- every member's form -/
  | intersection (members : List Shape)
  /-- an array of exactly these forms, place by place -/
  | tuple (elements : List Shape)
  /-- an array whose items all have one form -/
  | array (element : Shape)
  /-- an object with these fields and no other -/
  | object (fields : List Field)

structure Field where
  name : String
  shape : Shape
  optional : Bool
end

instance : Inhabited Shape := ⟨.any⟩

namespace Shape

inductive Step where
  | member (i : Nat)
  | element (i : Nat)
  | item
  | field (i : Nat)
  /-- the content of a literal -/
  | content
deriving DecidableEq

/-- The way from a shape to one of its parts, outermost step first. -/
abbrev Path := List Step

/-- A step as a piece of a JSON pointer into the document of the shape. -/
def Step.text : Step → String
  | .member i => "/members/" ++ Double.digitText i
  | .element i => "/elements/" ++ Double.digitText i
  | .item => "/element"
  | .field i => "/fields/" ++ Double.digitText i ++ "/shape"
  | .content => "/value"

def Path.text (path : Path) : String := String.join (path.map Step.text)

def part? : Shape → Step → Option Shape
  | .union members, .member i => members[i]?
  | .intersection members, .member i => members[i]?
  | .tuple elements, .element i => elements[i]?
  | .array element, .item => some element
  | .object fields, .field i => fields[i]?.map Field.shape
  | _, _ => none

def at? (s : Shape) : Path → Option Shape
  | [] => some s
  | step :: rest => (s.part? step).bind (fun t => t.at? rest)

end Shape

end ShapeCheck
