import ShapeCheck.Files.Path
import ShapeCheck.Json.Basic

/-!
# Pointers into documents

A pointer is empty or a list of tokens, each after a slash.  In a token `~1` is a
slash and `~0` a tilde.
-/

namespace ShapeCheck
namespace Pointer

/-- Put slashes for `~1`. -/
def withSlashes : List Char → List Char
  | '~' :: '1' :: rest => '/' :: withSlashes rest
  | c :: rest => c :: withSlashes rest
  | [] => []

/-- Put tildes for `~0`. -/
def withTildes : List Char → List Char
  | '~' :: '0' :: rest => '~' :: withTildes rest
  | c :: rest => c :: withTildes rest
  | [] => []

def unescape (token : List Char) : String :=
  String.ofList (withTildes (withSlashes token))

/-- The place that a name stands for in an array: digits without a leading zero. -/
def index? (name : String) : Option Nat :=
  let cs := name.toList
  if cs == ['0'] then some 0
  else if cs.isEmpty || cs.head? == some '0' || !cs.all Char.isDigit then none
  else some (cs.foldl (fun n c => n * 10 + (c.toNat - '0'.toNat)) 0)

def follow : List String → Json → Option Json
  | [], j => some j
  | name :: rest, .object members =>
      match Entries.get? members name with
      | some content => follow rest content
      | none => none
  | name :: rest, .array items =>
      match (index? name).bind (fun i => items[i]?) with
      | some item => follow rest item
      | none => none
  | _ :: _, _ => none

def select (pointer : String) (j : Json) : Option Json :=
  match pointer.toList with
  | [] => some j
  | '/' :: rest => follow ((Path.split rest).map unescape) j
  | _ => none

end Pointer
end ShapeCheck
