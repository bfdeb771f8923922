import ShapeCheck.Check.Basic
import ShapeCheck.Text.Identifier

/-!
# Printed checks

A check is printed as a call of its combinator.  Lists go in brackets, entries in
braces under a key that is quoted unless it is an identifier.
-/

namespace ShapeCheck

/-- How the key of an entry is printed.  One identifier has a meaning of its own
in generated code and is computed instead. -/
def printKey (key : String) : String :=
  if key = "__proto__" then "[" ++ quote key ++ "]"
  else if isIdentifier key then key
  else quote key

namespace Check

def call (k : Combinator) (argument : String) : String :=
  k.name ++ "(" ++ argument ++ ")"

def bracketList (parts : List String) : String :=
  "[" ++ ", ".intercalate parts ++ "]"

def braceList : List String → String
  | [] => "\x7b\x7d"
  | parts => "\x7b " ++ ", ".intercalate parts ++ " \x7d"

mutual
def print : Check → String
  | .const value => call .const value.print
  | .primitive type => (ofPrimitive type).name
  | .noop => Combinator.noop.name
  | .optional inner => call .optional inner.print
  | .union members => call .union (bracketList (printAll members))
  | .intersection members => call .intersection (bracketList (printAll members))
  | .tuple elements => call .tuple (bracketList (printAll elements))
  | .array element => call .array element.print
  | .object entries => call .object (braceList (printEntries entries))
termination_by structural c => c

def printAll : List Check → List String
  | [] => []
  | c :: rest => c.print :: printAll rest
termination_by structural cs => cs

def printEntries : List (String × Check) → List String
  | [] => []
  | (key, c) :: rest => (printKey key ++ ": " ++ c.print) :: printEntries rest
termination_by structural entries => entries
end

end Check

end ShapeCheck
