import ShapeCheck.Double.Layout

/-!
# Patterns of names

A star stands for any characters, a question mark for one, brackets for one of a
class.  Two stars are a component of their own and stand for any folders.
-/

namespace ShapeCheck
namespace Glob

inductive Range where
  | single (c : Char)
  | span (first last : Char)
deriving DecidableEq

def Range.contains (c : Char) : Range → Bool
  | .single d => c == d
  | .span first last => decide (first ≤ c ∧ c ≤ last)

inductive Part where
  | char (c : Char)
  | any
  | many
  | folders
  | within (ranges : List Range)
  | except (ranges : List Range)
deriving DecidableEq

abbrev Pattern := List Part

inductive Flaw where
  | tooManyStars
  | notAComponent
  | badRange
deriving DecidableEq

def Flaw.message : Flaw → String
  | .tooManyStars => "wildcards are either regular `*` or recursive `**`"
  | .notAComponent => "recursive wildcards must form a single path component"
  | .badRange => "invalid range pattern"

structure Error where
  flaw : Flaw
  position : Nat
deriving DecidableEq

def Error.message (e : Error) : String :=
  "Pattern syntax error near position " ++ Double.digitText e.position ++ ": " ++
    e.flaw.message

def ranges : List Char → List Range
  | first :: '-' :: last :: rest => .span first last :: ranges rest
  | c :: rest => .single c :: ranges rest
  | [] => []

/-- The characters before a closing bracket, the first of them whatever it is, and
what follows the bracket. -/
def bracket? : List Char → Option (List Char × List Char)
  | [] => none
  | first :: rest =>
      match rest.dropWhile (· != ']') with
      | [] => none
      | _ :: after => some (first :: rest.takeWhile (· != ']'), after)

def class? : List Char → Option (Part × List Char)
  | '!' :: rest => (bracket? rest).map (fun p => (.except (ranges p.1), p.2))
  | rest => (bracket? rest).map (fun p => (.within (ranges p.1), p.2))

theorem length_bracket?_lt {s cs left : List Char} (h : bracket? s = some (cs, left)) :
    left.length < s.length := by
  unfold bracket? at h
  split at h
  · cases h
  · rename_i first rest
    split at h
    · cases h
    · rename_i c after hd
      cases h
      have hle := (List.dropWhile_sublist (l := rest) (· != ']')).length_le
      rw [hd] at hle
      simp only [List.length_cons] at hle ⊢
      omega

theorem length_class?_lt {s left : List Char} {p : Part} (h : class? s = some (p, left)) :
    left.length < s.length := by
  unfold class? at h
  split at h
  · obtain ⟨q, hq, he⟩ := Option.map_eq_some_iff.1 h
    cases he
    have := length_bracket?_lt hq
    simp only [List.length_cons]
    omega
  · obtain ⟨q, hq, he⟩ := Option.map_eq_some_iff.1 h
    cases he
    exact length_bracket?_lt hq

/-- The part that two stars make, where `before` is the character in front of
them, and what follows. -/
def folders? (position : Nat) (before : Option Char) (rest : List Char) :
    Except Error (List Char) :=
  if before == none || before == some '/' then
    match rest with
    | [] => .ok []
    | '/' :: after => .ok after
    | _ => .error ⟨.notAComponent, position + 2⟩
  else .error ⟨.notAComponent, position - 1⟩

theorem length_folders?_le {position : Nat} {before : Option Char} {rest left : List Char}
    (h : folders? position before rest = .ok left) : left.length ≤ rest.length := by
  unfold folders? at h
  split at h
  · split at h
    · cases h
      exact Nat.le_refl _
    · cases h
      simp
    · cases h
  · cases h

def parts (position : Nat) (before : Option Char) (s : List Char) :
    Except Error Pattern :=
  match s with
  | [] => .ok []
  | '?' :: rest => (parts (position + 1) (some '?') rest).map (Part.any :: ·)
  | '*' :: '*' :: '*' :: _ => .error ⟨.tooManyStars, position + 2⟩
  | '*' :: '*' :: rest =>
      match h : folders? position before rest with
      | .error e => .error e
      | .ok left =>
          have : left.length ≤ rest.length := length_folders?_le h
          let read := 2 + (rest.length - left.length)
          let last := if left.length < rest.length then '/' else '*'
          (parts (position + read) (some last) left).map (Part.folders :: ·)
  | '*' :: rest => (parts (position + 1) (some '*') rest).map (Part.many :: ·)
  | '[' :: rest =>
      match h : class? rest with
      | none => .error ⟨.badRange, position⟩
      | some (part, left) =>
          have : left.length < rest.length := length_class?_lt h
          (parts (position + 1 + (rest.length - left.length)) (some ']') left).map
            (part :: ·)
  | c :: rest => (parts (position + 1) (some c) rest).map (Part.char c :: ·)
termination_by s.length

def Pattern.ofText (text : String) : Except Error Pattern := parts 0 none text.toList

namespace Pattern

def isFolders (p : Pattern) : Bool := p.contains .folders

def literal? : Pattern → Option (List Char)
  | [] => some []
  | .char c :: rest => (literal? rest).map (c :: ·)
  | _ :: _ => none

def someEnd (test : List Char → Bool) : List Char → Bool
  | [] => test []
  | c :: rest => test (c :: rest) || someEnd test rest

def fits : Pattern → List Char → Bool
  | [], cs => cs.isEmpty
  | .many :: rest, cs => someEnd (fits rest) cs
  | .folders :: rest, cs => someEnd (fits rest) cs
  | .char c :: rest, d :: cs => c == d && fits rest cs
  | .any :: rest, _ :: cs => fits rest cs
  | .within ranges :: rest, d :: cs => ranges.any (Range.contains d) && fits rest cs
  | .except ranges :: rest, d :: cs => !ranges.any (Range.contains d) && fits rest cs
  | _ :: _, [] => false

end Pattern
end Glob
end ShapeCheck
