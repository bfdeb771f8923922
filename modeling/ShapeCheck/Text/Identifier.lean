/-!
# Identifiers

The names that generated code can use without quotes: letters, digits, the
underscore and the dollar sign, a digit not first.
-/

namespace ShapeCheck
namespace Identifier

def isStart (c : Char) : Bool :=
  ('a' ≤ c && c ≤ 'z') || ('A' ≤ c && c ≤ 'Z') || c = '_' || c = '$'

def isRest (c : Char) : Bool := isStart c || ('0' ≤ c && c ≤ '9')

def isIdentifierList : List Char → Bool
  | [] => false
  | first :: rest => isStart first && rest.all isRest

end Identifier

def isIdentifier (text : String) : Bool := Identifier.isIdentifierList text.toList

end ShapeCheck
