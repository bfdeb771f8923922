import ShapeCheck.Json.Printer
import ShapeCheck.Text.Shown

/-!
# Documents of another form than asked for

The reasons why a document does not have the form that a reader wants, and how
they are worded.
-/

namespace ShapeCheck
namespace Json

inductive Found where
  | null
  | bool (b : Bool)
  | number (n : Number)
  | text (s : String)
  | sequence
  | map
deriving DecidableEq

def found : Json → Found
  | .null => .null
  | .bool b => .bool b
  | .number n => .number n
  | .text s => .text s
  | .array _ => .sequence
  | .object _ => .map

def Found.message : Found → String
  | .null => "null"
  | .bool b => "boolean `" ++ boolText b ++ "`"
  | .number (.whole n) => "integer `" ++ wholeText n ++ "`"
  | .number (.decimal x) => "floating point `" ++ x.jsonText ++ "`"
  | .text s => "string " ++ shown s
  | .sequence => "sequence"
  | .map => "map"

inductive Wanted where
  | string
  | boolean
  | sequence
  /-- the name of a kind of shape -/
  | kindName
  /-- a shape, as an object or as a list -/
  | shape
  /-- a record, as an object or as a list -/
  | record (title : String)
deriving DecidableEq

def Wanted.message : Wanted → String
  | .string => "a string"
  | .boolean => "a boolean"
  | .sequence => "a sequence"
  | .kindName => "variant identifier"
  | .shape => "internally tagged enum RawShape"
  | .record title => title

inductive Mismatch where
  | wrongType (found : Found) (wanted : Wanted)
  | missingField (name : String)
  | duplicateField (name : String)
  /-- a list that ends before the record `title` of `wanted` elements is full -/
  | tooShort (count : Nat) (title : String) (wanted : Nat)
  /-- a list that goes on after its `wanted` elements -/
  | tooLong (count wanted : Nat)
deriving DecidableEq

def elementCount (n : Nat) : String :=
  Double.digitText n ++ (if n = 1 then " element" else " elements")

def Mismatch.message : Mismatch → String
  | .wrongType found wanted =>
      "invalid type: " ++ found.message ++ ", expected " ++ wanted.message
  | .missingField name => "missing field `" ++ name ++ "`"
  | .duplicateField name => "duplicate field `" ++ name ++ "`"
  | .tooShort count title wanted =>
      "invalid length " ++ Double.digitText count ++ ", expected " ++ title ++
        " with " ++ elementCount wanted
  | .tooLong count wanted =>
      "invalid length " ++ Double.digitText count ++ ", expected " ++
        elementCount wanted ++ " in sequence"

end Json
end ShapeCheck
