import ShapeCheck.Double.Layout
import ShapeCheck.Json.Basic
import ShapeCheck.Text.Quoted

/-!
# JSON text

The compact form has no blanks.  The spread form puts every item and member on a
line of its own, two blanks deeper than what encloses it, and leaves empty
arrays and objects on one line.
-/

namespace ShapeCheck
namespace Json

def wholeText (n : Int) : String :=
  Double.withSign (decide (n < 0)) (Double.digitText n.natAbs)

def Number.toText : Number → String
  | .whole n => wholeText n
  | .decimal x => if x.isFinite then x.jsonText else "null"

def boolText (b : Bool) : String := if b then "true" else "false"

mutual
def compact : Json → String
  | .null => "null"
  | .bool b => boolText b
  | .number n => n.toText
  | .text s => quote s
  | .array items => "[" ++ ",".intercalate (compactItems items) ++ "]"
  | .object members => "\x7b" ++ ",".intercalate (compactMembers members) ++ "\x7d"
termination_by structural j => j

def compactItems : List Json → List String
  | [] => []
  | item :: rest => item.compact :: compactItems rest
termination_by structural items => items

def compactMembers : List (String × Json) → List String
  | [] => []
  | (name, content) :: rest =>
      (quote name ++ ":" ++ content.compact) :: compactMembers rest
termination_by structural members => members
end

theorem compactItems_eq_map (items : List Json) :
    compactItems items = items.map compact := by
  induction items with
  | nil => rfl
  | cons item rest ih => simp [compactItems, ih]

theorem compactMembers_eq_map (members : List (String × Json)) :
    compactMembers members =
      members.map (fun m => quote m.1 ++ ":" ++ m.2.compact) := by
  induction members with
  | nil => rfl
  | cons m rest ih => simp [compactMembers, ih]

def lineStart (depth : Nat) : String :=
  String.ofList ('\n' :: List.replicate (2 * depth) ' ')

/-- Lines between two brackets, one level deeper than `depth`. -/
def bracketed (depth : Nat) (opening closing : String) : List String → String
  | [] => opening ++ closing
  | lines =>
      let start := lineStart (depth + 1)
      opening ++ start ++ ("," ++ start).intercalate lines ++ lineStart depth ++ closing

mutual
def spreadAt (depth : Nat) : Json → String
  | .array items => bracketed depth "[" "]" (spreadItems (depth + 1) items)
  | .object members =>
      bracketed depth "\x7b" "\x7d" (spreadMembers (depth + 1) members)
  | .null => "null"
  | .bool b => boolText b
  | .number n => n.toText
  | .text s => quote s
termination_by structural j => j

def spreadItems (depth : Nat) : List Json → List String
  | [] => []
  | item :: rest => item.spreadAt depth :: spreadItems depth rest
termination_by structural items => items

def spreadMembers (depth : Nat) : List (String × Json) → List String
  | [] => []
  | (name, content) :: rest =>
      (quote name ++ ": " ++ content.spreadAt depth) :: spreadMembers depth rest
termination_by structural members => members
end

def spread (j : Json) : String := j.spreadAt 0

end Json
end ShapeCheck
