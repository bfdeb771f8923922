import ShapeCheck.Value.Basic

/-!
# Cleaned values

What is left of a value when it passes through a document: members that are
undefined are dropped, and whatever else a document cannot hold becomes null.
-/

namespace ShapeCheck
namespace Value

mutual
/-- The value without what documents cannot hold. -/
def cleaned : Value → Value
  | .undefined => .null
  | .number x => if x.isFinite then .number x else .null
  | .array items => .array (cleanedItems items)
  | .object members => .object (cleanedMembers members)
  | v => v
termination_by structural v => v

def cleanedItems : List Value → List Value
  | [] => []
  | item :: rest => item.cleaned :: cleanedItems rest
termination_by structural items => items

def cleanedMembers : List (String × Value) → List (String × Value)
  | [] => []
  | (name, content) :: rest =>
      if content.isUndefined then cleanedMembers rest
      else (name, content.cleaned) :: cleanedMembers rest
termination_by structural members => members
end

end Value
end ShapeCheck
