import ShapeCheck.Json.Basic
import ShapeCheck.Value.Basic

/-!
# Between JSON and runtime values

Every document is a runtime value.  The way back loses what JSON cannot say:
absence and numbers that are not finite become null, and absent members are
dropped.
-/

namespace ShapeCheck

mutual
def Value.ofJson : Json → Value
  | .null => .null
  | .bool b => .bool b
  | .number n => .number n.toDouble
  | .text s => .text s
  | .array items => .array (Value.ofItems items)
  | .object members => .object (Value.ofMembers members)
termination_by structural j => j

def Value.ofItems : List Json → List Value
  | [] => []
  | item :: rest => Value.ofJson item :: Value.ofItems rest
termination_by structural items => items

def Value.ofMembers : List (String × Json) → List (String × Value)
  | [] => []
  | (name, content) :: rest => (name, Value.ofJson content) :: Value.ofMembers rest
termination_by structural members => members
end

mutual
/-- The runtime value of a document that is used up: its parts are moved over one after the
other. -/
def Value.gather : Json → Value
  | .null => .null
  | .bool b => .bool b
  | .number n => .number n.toDouble
  | .text s => .text s
  | .array items => .array (Value.gatherItems [] items)
  | .object members => .object (Value.gatherMembers [] members)
termination_by structural j => j

/-- Move items over; those that are done stand in reverse. -/
def Value.gatherItems : List Value → List Json → List Value
  | done, [] => done.reverse
  | done, item :: rest => Value.gatherItems (Value.gather item :: done) rest
termination_by structural _ items => items

/-- Move members over, each to the place of its name. -/
def Value.gatherMembers : Entries Value → List (String × Json) → Entries Value
  | done, [] => done
  | done, (name, content) :: rest =>
      Value.gatherMembers (done.insert name (Value.gather content)) rest
termination_by structural _ members => members
end

def wholeMin : Int := -Int.pow 2 63
def wholeMax : Int := Int.pow 2 63 - 1

/-- A number in JSON: an integral double up to the 64-bit range is written as a
whole number, held down to the greatest of them; a double that is not finite has
no JSON form. -/
def Double.toJson (x : Double) : Json :=
  if !x.isFinite then .null
  else if x.isIntegral && decide (wholeMin ≤ x.truncate) &&
      decide (x.truncate ≤ wholeMax + 1) then
    .number (.whole (min x.truncate wholeMax))
  else .number (.decimal x)

mutual
/-- The document that says as much of a value as JSON can. -/
def Value.toJson : Value → Json
  | .undefined => .null
  | .null => .null
  | .bool b => .bool b
  | .number x => x.toJson
  | .text s => .text s
  | .array items => .array (Value.toItems items)
  | .object members => .object (Value.toMembers members)
termination_by structural v => v

def Value.toItems : List Value → List Json
  | [] => []
  | item :: rest => item.toJson :: Value.toItems rest
termination_by structural items => items

def Value.toMembers : List (String × Value) → List (String × Json)
  | [] => []
  | (_, .undefined) :: rest => Value.toMembers rest
  | (name, content) :: rest => (name, content.toJson) :: Value.toMembers rest
termination_by structural members => members
end

end ShapeCheck
