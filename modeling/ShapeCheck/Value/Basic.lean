import ShapeCheck.Double.Basic
import ShapeCheck.Entries

/-!
# Runtime values

The values that checks judge.  Besides what JSON has there is a mark of absence,
and numbers may be infinite or not a number.
-/

namespace ShapeCheck

inductive Value where
  | undefined
  | null
  | bool (b : Bool)
  | number (x : Double)
  | text (s : String)
  | array (items : List Value)
  | object (members : List (String × Value))

instance : Inhabited Value := ⟨.undefined⟩

namespace Value

/-- What a value is, without its content. -/
inductive Kind where
  | undefined
  | null
  | boolean
  | number
  | string
  | array
  | object
deriving DecidableEq

def Kind.label : Kind → String
  | .undefined => "undefined"
  | .null => "null"
  | .boolean => "boolean"
  | .number => "number"
  | .string => "string"
  | .array => "array"
  | .object => "object"

def kind : Value → Kind
  | .undefined => .undefined
  | .null => .null
  | .bool _ => .boolean
  | .number _ => .number
  | .text _ => .string
  | .array _ => .array
  | .object _ => .object

def isUndefined : Value → Bool
  | .undefined => true
  | _ => false

def memberOrUndefined (members : List (String × Value)) (name : String) : Value :=
  (Entries.get? members name).getD .undefined

mutual
/-- Equality of values: numbers compare as numbers, and the order of the members
of an object does not matter. -/
def same : Value → Value → Bool
  | .undefined, .undefined => true
  | .null, .null => true
  | .bool a, .bool b => a == b
  | .number x, .number y => x.same y
  | .text s, .text t => s == t
  | .array items, .array others => sameItems items others
  | .object members, .object others =>
      members.length == others.length && sameMembers members others
  | _, _ => false
termination_by structural v => v

def sameItems : List Value → List Value → Bool
  | [], [] => true
  | v :: rest, w :: others => v.same w && sameItems rest others
  | _, _ => false
termination_by structural items => items

/-- Every member has an equal one of the same name in `others`. -/
def sameMembers : List (String × Value) → List (String × Value) → Bool
  | [], _ => true
  | (name, v) :: rest, others =>
      (match Entries.get? others name with
        | some w => v.same w
        | none => false) && sameMembers rest others
termination_by structural members => members
end

end Value

end ShapeCheck
