import ShapeCheck.Entries
import ShapeCheck.Json.Printer
import ShapeCheck.Value.Projection

/-!
# What filters work on

A datum is a document whose numbers remember where they come from: whole numbers
of 64 bits, numerals kept as they were written, and results of calculations.
-/

namespace ShapeCheck

/-! ## Numerals -/

/-- The digits at the front of a list of characters, as a number that continues
`n`, with how many there are and what follows. -/
def takeDigits (n count : Nat) : List Char → Nat × Nat × List Char
  | c :: rest =>
      if c.isDigit then takeDigits (n * 10 + (c.toNat - '0'.toNat)) (count + 1) rest
      else (n, count, c :: rest)
  | [] => (n, count, [])

/-- The number after an exponent mark, zero without one. -/
def numeralExponent : List Char → Int
  | 'e' :: '-' :: rest => -((takeDigits 0 0 rest).1 : Int)
  | 'e' :: '+' :: rest => (takeDigits 0 0 rest).1
  | 'e' :: rest => (takeDigits 0 0 rest).1
  | 'E' :: '-' :: rest => -((takeDigits 0 0 rest).1 : Int)
  | 'E' :: '+' :: rest => (takeDigits 0 0 rest).1
  | 'E' :: rest => (takeDigits 0 0 rest).1
  | _ => 0

def Double.ofDigits (negative : Bool) (cs : List Char) : Double :=
  match takeDigits 0 0 cs with
  | (whole, _, '.' :: rest) =>
      let (digits, places, tail) := takeDigits whole 0 rest
      Double.ofDecimal negative digits (numeralExponent tail - places)
  | (whole, _, tail) => Double.ofDecimal negative whole (numeralExponent tail)

def Double.ofNumeral (text : String) : Double :=
  match text.toList with
  | '-' :: rest => Double.ofDigits true rest
  | cs => Double.ofDigits false cs

/-! ## Data -/

/-- Where in a run a container was made.  No two containers are made at one place;
those of the input have none. -/
abbrev Origin := Option (List Nat)

inductive Datum where
  | null
  | bool (b : Bool)
  /-- a whole number of 64 bits -/
  | whole (n : Int)
  /-- the result of a calculation -/
  | float (x : Double)
  /-- a number as it was written -/
  | numeral (written : String)
  | text (s : String)
  | array (made : Origin) (items : List Datum)
  | object (made : Origin) (members : List (String × Datum))

instance : Inhabited Datum := ⟨.null⟩

namespace Datum

/-- Whole numbers that calculations keep whole. -/
def isWord (n : Int) : Bool := decide (wholeMin ≤ n ∧ n ≤ wholeMax)

def ofNumber : Json.Number → Datum
  | .whole n => if isWord n then .whole n else .numeral (Json.wholeText n)
  | .decimal x => .numeral x.jsonText

mutual
def ofJson : Json → Datum
  | .null => .null
  | .bool b => .bool b
  | .number n => ofNumber n
  | .text s => .text s
  | .array items => .array none (ofItems items)
  | .object members => .object none (ofMembers members)
termination_by structural j => j

def ofItems : List Json → List Datum
  | [] => []
  | item :: rest => ofJson item :: ofItems rest
termination_by structural items => items

def ofMembers : List (String × Json) → List (String × Datum)
  | [] => []
  | (name, content) :: rest => (name, ofJson content) :: ofMembers rest
termination_by structural members => members
end

/-- How a character is written between quotes: the backspace and the form feed
have no short form. -/
def escape (c : Char) : List Char :=
  if c = '\x08' then "\\u0008".toList
  else if c = '\x0c' then "\\u000c".toList
  else Quoted.escape c

def textForm (s : String) : String :=
  String.ofList ('"' :: s.toList.flatMap escape ++ ['"'])

mutual
/-- The text of a datum.  Numbers that are not finite are written as null. -/
def print : Datum → String
  | .null => "null"
  | .bool b => Json.boolText b
  | .whole n => Json.wholeText n
  | .float x => if x.isFinite then x.briefText else "null"
  | .numeral written => written
  | .text s => textForm s
  | .array _ items => "[" ++ ",".intercalate (printItems items) ++ "]"
  | .object _ members => "\x7b" ++ ",".intercalate (printMembers members) ++ "\x7d"
termination_by structural d => d

def printItems : List Datum → List String
  | [] => []
  | item :: rest => item.print :: printItems rest
termination_by structural items => items

def printMembers : List (String × Datum) → List String
  | [] => []
  | (name, content) :: rest => (textForm name ++ ":" ++ content.print) :: printMembers rest
termination_by structural members => members
end

/-- All data but null and false count as true. -/
def isTrue : Datum → Bool
  | .null => false
  | .bool b => b
  | _ => true

def toDouble? : Datum → Option Double
  | .whole n => some (Double.ofInt n)
  | .float x => some x
  | .numeral written => some (Double.ofNumeral written)
  | _ => none

/-- Whether two origins are known to be one place. -/
def sameOrigin : Origin → Origin → Bool
  | some p, some q => p == q
  | _, _ => false

mutual
/-- Whether two data are equal.  Numbers are compared by value, members of
objects in any order.  A container is equal to itself, even if it holds a number
that is not. -/
def same : Datum → Datum → Bool
  | .null, .null => true
  | .bool a, .bool b => a == b
  | .whole m, .whole n => m == n
  | .text s, .text t => s == t
  | .array made items, .array made' others => sameOrigin made made' || sameItems items others
  | .object made members, .object made' others =>
      sameOrigin made made' ||
        (members.length == others.length && sameMembers members others)
  | d, e =>
      match d.toDouble?, e.toDouble? with
      | some x, some y => x.same y
      | _, _ => false
termination_by structural d => d

def sameItems : List Datum → List Datum → Bool
  | [], [] => true
  | d :: rest, e :: others => d.same e && sameItems rest others
  | _, _ => false
termination_by structural items => items

def sameMembers : List (String × Datum) → List (String × Datum) → Bool
  | [], _ => true
  | (name, d) :: rest, others =>
      (match Entries.get? others name with
        | some e => d.same e
        | none => false) && sameMembers rest others
termination_by structural members => members
end

mutual
/-- A datum and all that it contains, outer before inner. -/
def descendants : Datum → List Datum
  | .array made items => .array made items :: itemDescendants items
  | .object made members => .object made members :: memberDescendants members
  | d => [d]
termination_by structural d => d

def itemDescendants : List Datum → List Datum
  | [] => []
  | item :: rest => item.descendants ++ itemDescendants rest
termination_by structural items => items

def memberDescendants : List (String × Datum) → List Datum
  | [] => []
  | (_, content) :: rest => content.descendants ++ memberDescendants rest
termination_by structural members => members
end

end Datum
end ShapeCheck
