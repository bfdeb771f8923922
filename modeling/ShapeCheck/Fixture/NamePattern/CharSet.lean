import ShapeCheck.Text.Age
import ShapeCheck.Text.Category
import ShapeCheck.Text.Fold
import ShapeCheck.Text.Property
import ShapeCheck.Text.Script
import ShapeCheck.Text.Segment

/-!
# Sets of characters

A set is built from ranges of code points, and from the sets that properties,
categories and scripts name.
-/

namespace ShapeCheck
namespace Fixture

inductive CharSet where
  | ranges (rs : List (Nat × Nat))
  | union (s t : CharSet)
  | inter (s t : CharSet)
  | diff (s t : CharSet)
  | outside (s : CharSet)
  /-- with all letters that differ only in case -/
  | anyCase (s : CharSet)
  /-- the same, for the letters from a to z only -/
  | anyPlainCase (s : CharSet)

namespace CharSet

/-- The letter from a to z in the other case; every other code point stays. -/
def plainMate (n : Nat) : Nat :=
  if 0x41 ≤ n ∧ n ≤ 0x5A then n + 0x20
  else if 0x61 ≤ n ∧ n ≤ 0x7A then n - 0x20
  else n

def isIn (rs : List (Nat × Nat)) (n : Nat) : Bool :=
  rs.any (fun r => decide (r.1 ≤ n ∧ n ≤ r.2))

def contains (s : CharSet) (n : Nat) : Bool :=
  match s with
  | .ranges rs => isIn rs n
  | .union s t => s.contains n || t.contains n
  | .inter s t => s.contains n && t.contains n
  | .diff s t => s.contains n && !t.contains n
  | .outside s => !s.contains n
  | .anyCase s => (Fold.mates n).any s.contains
  | .anyPlainCase s => s.contains n || s.contains (plainMate n)

def empty : CharSet := .ranges []

def single (c : Char) : CharSet := .ranges [(c.toNat, c.toNat)]

def symmDiff (s t : CharSet) : CharSet := .union (.diff s t) (.diff t s)

def unionAll (sets : List CharSet) : CharSet := sets.foldl .union empty

/-! ## Ranges of a set -/

/-- Ranges after a first one, in ascending order, joined where they touch. -/
def joinTouching (r : Nat × Nat) : List (Nat × Nat) → List (Nat × Nat)
  | [] => [r]
  | t :: rest =>
      if t.1 ≤ r.2 + 1 then joinTouching (r.1, max r.2 t.2) rest else r :: joinTouching t rest

def tidy (rs : List (Nat × Nat)) : List (Nat × Nat) :=
  match rs.mergeSort (fun r t => decide (r.1 ≤ t.1)) with
  | [] => []
  | r :: rest => joinTouching r rest

def gaps (start : Nat) : List (Nat × Nat) → List (Nat × Nat)
  | [] => if start ≤ 0x10FFFF then [(start, 0x10FFFF)] else []
  | r :: rest =>
      if start < r.1 then (start, r.1 - 1) :: gaps (r.2 + 1) rest else gaps (r.2 + 1) rest

def toRanges : CharSet → List (Nat × Nat)
  | .ranges rs => tidy rs
  | .union s t => tidy (s.toRanges ++ t.toRanges)
  | .inter s t => gaps 0 (tidy (gaps 0 s.toRanges ++ gaps 0 t.toRanges))
  | .diff s t => gaps 0 (tidy (gaps 0 s.toRanges ++ t.toRanges))
  | .outside s => gaps 0 s.toRanges
  | .anyCase s =>
      let rs := s.toRanges
      tidy (rs ++ ((Fold.cased.filter (isIn rs)).flatMap Fold.mates).map (fun n => (n, n)))
  | .anyPlainCase s =>
      let rs := s.toRanges
      let letters := (List.range 26).flatMap (fun i => [0x41 + i, 0x61 + i])
      tidy (rs ++ (letters.filter (isIn rs)).map (fun n => (plainMate n, plainMate n)))

/-! ## The sets of letters after a backslash -/

def plainDigits : CharSet := .ranges [(0x30, 0x39)]

def plainBlanks : CharSet := .ranges [(9, 13), (0x20, 0x20)]

def plainWord : CharSet := .ranges [(0x30, 0x39), (0x41, 0x5A), (0x5F, 0x5F), (0x61, 0x7A)]

def digits : CharSet := .ranges (Category.ranges ["Nd"])

def blanks : CharSet := .ranges (Runs.alternating Property.whiteSpaceRuns)

/-- Letters, marks, digits, connectors and joiners. -/
def word : CharSet :=
  unionAll [plainWord, .ranges (Runs.alternating Property.alphabeticRuns),
    .ranges (Category.ranges ["Mc", "Me", "Mn", "Nd", "Pc"]),
    .ranges (Runs.alternating Property.joinControlRuns)]

def classic? : String → Option CharSet
  | "alnum" => some (.ranges [(0x30, 0x39), (0x41, 0x5A), (0x61, 0x7A)])
  | "alpha" => some (.ranges [(0x41, 0x5A), (0x61, 0x7A)])
  | "ascii" => some (.ranges [(0, 0x7F)])
  | "blank" => some (.ranges [(9, 9), (0x20, 0x20)])
  | "cntrl" => some (.ranges [(0, 0x1F), (0x7F, 0x7F)])
  | "digit" => some plainDigits
  | "graph" => some (.ranges [(0x21, 0x7E)])
  | "lower" => some (.ranges [(0x61, 0x7A)])
  | "print" => some (.ranges [(0x20, 0x7E)])
  | "punct" => some (.ranges [(0x21, 0x2F), (0x3A, 0x40), (0x5B, 0x60), (0x7B, 0x7E)])
  | "space" => some plainBlanks
  | "upper" => some (.ranges [(0x41, 0x5A)])
  | "word" => some plainWord
  | "xdigit" => some (.ranges [(0x30, 0x39), (0x41, 0x46), (0x61, 0x66)])
  | _ => none

/-! ## Named sets -/

def plainName (cs : List Char) : List Char :=
  (cs.filter (fun c => decide (c.toNat < 0x80) && c != ' ' && c != '_' && c != '-')).map
    Char.toLower

/-- A name as it is looked up: a leading "is" does not count. -/
def lookupName (name : List Char) : String :=
  match name with
  | i :: s :: rest =>
      if i.toLower == 'i' && s.toLower == 's' then
        if plainName rest == ['c'] then "isc" else String.ofList (plainName rest)
      else String.ofList (plainName name)
  | _ => String.ofList (plainName name)

def ofCategory? (name : String) : Option CharSet :=
  match name with
  | "any" => some (.ranges [(0, 0x10FFFF)])
  | "assigned" => some (.outside (.ranges (Category.ranges ["Cn"])))
  | "ascii" => some (.ranges [(0, 0x7F)])
  | _ => (Category.byName.lookup name).map (fun cs => .ranges (Category.ranges cs))

def ofScript? (name : String) : Option CharSet :=
  (Script.byName.lookup name).map (fun code => .ranges (Script.ranges code))

def ofScriptUse? (name : String) : Option CharSet :=
  (Script.byName.lookup name).map (fun code =>
    .union (.diff (.ranges (Script.ranges code)) (.ranges Script.sharedRanges))
      (.ranges (Script.usedRanges code)))

/-- Names of properties that are read as names of categories. -/
def categoryFirst : List String := ["cf", "sc", "lc"]

def named? (name : String) : Option CharSet :=
  let property : Option CharSet :=
    if categoryFirst.contains name then none else (Property.ranges? name).map .ranges
  (property.or (ofCategory? name)).or (ofScript? name)

def valued? (property value : String) : Option CharSet :=
  let segment (runs : String) (names : List (String × String)) : Option CharSet :=
    (Segment.ranges? runs names value).map .ranges
  match property with
  | "gc" | "generalcategory" => ofCategory? value
  | "sc" | "script" => ofScript? value
  | "scx" | "scriptextensions" => ofScriptUse? value
  | "age" => (Age.ranges? value).map .ranges
  | "gcb" | "graphemeclusterbreak" => segment Segment.clusterRuns Segment.clusterNames
  | "wb" | "wordbreak" => segment Segment.wordRuns Segment.wordNames
  | "sb" | "sentencebreak" => segment Segment.sentenceRuns Segment.sentenceNames
  | _ => none

end CharSet
end Fixture
end ShapeCheck
