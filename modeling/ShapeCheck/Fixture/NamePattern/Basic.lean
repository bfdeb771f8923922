import ShapeCheck.Fixture.NamePattern.CharSet

/-!
# Patterns that select names

A pattern is found in a name if some part of the name fits it.  It is enough to know,
for each place, at which places a part can end that starts there: repetitions only
move forward, so that a repetition that goes on for longer than the name reaches
nothing new.
-/

namespace ShapeCheck
namespace Fixture

/-! ## Conditions on places -/

inductive WordTest where
  /-- a word starts or ends -/
  | edge
  /-- no word starts or ends -/
  | inside
  | start
  | finish
  /-- no word goes on from before -/
  | startHalf
  /-- no word goes on -/
  | endHalf
deriving DecidableEq

def WordTest.holds (before after : Bool) : WordTest → Bool
  | .edge => before != after
  | .inside => before == after
  | .start => !before && after
  | .finish => before && !after
  | .startHalf => !before
  | .endHalf => !after

inductive Look where
  | textStart
  | textEnd
  /-- a carriage return ends a line too if `returns` -/
  | lineStart (returns : Bool)
  | lineEnd (returns : Bool)
  /-- the characters of words are those of a set -/
  | word (test : WordTest) (letters : CharSet)

namespace Look

def isAt (cs : List Char) (i : Nat) (test : Char → Bool) : Bool :=
  match cs[i]? with
  | some c => test c
  | none => false

def isBefore (cs : List Char) (test : Char → Bool) : Nat → Bool
  | 0 => false
  | i + 1 => isAt cs i test

def holds (cs : List Char) (i : Nat) : Look → Bool
  | .textStart => i == 0
  | .textEnd => i == cs.length
  | .lineStart false => i == 0 || isBefore cs (· == '\n') i
  | .lineStart true =>
      i == 0 || isBefore cs (· == '\n') i ||
        (isBefore cs (· == '\r') i && !isAt cs i (· == '\n'))
  | .lineEnd false => i == cs.length || isAt cs i (· == '\n')
  | .lineEnd true =>
      i == cs.length || isAt cs i (· == '\r') ||
        (isAt cs i (· == '\n') && !isBefore cs (· == '\r') i)
  | .word test letters =>
      test.holds (isBefore cs (fun c => letters.contains c.toNat) i)
        (isAt cs i (fun c => letters.contains c.toNat))

end Look

/-! ## Patterns -/

inductive NamePattern where
  /-- fits between any two characters -/
  | empty
  | look (l : Look)
  /-- a character of a set, which is written with brackets inside each other -/
  | char (set : CharSet) (brackets : Nat)
  /-- `kept` tells whether the part that fits can be asked for -/
  | group (kept : Bool) (inner : NamePattern)
  /-- at least `least` times, and at most `most` times if that is given -/
  | times (inner : NamePattern) (least : Nat) (most : Option Nat)
  | sequence (parts : List NamePattern)
  | choice (parts : List NamePattern)

instance : Inhabited NamePattern := ⟨.empty⟩

def exactly (step : Nat → List Nat) : Nat → List Nat → List Nat
  | 0, places => places
  | n + 1, places => exactly step n (places.flatMap step).eraseDups

def upTo (step : Nat → List Nat) : Nat → List Nat → List Nat
  | 0, places => places
  | n + 1, places =>
      let next := (places ++ places.flatMap step).eraseDups
      if next.length = places.length then places else upTo step n next

/-- For each place of a name, the places where a fitting part that starts there can
end. -/
abbrev Ends := Array (List Nat)

namespace Ends

def ofPlaces (cs : List Char) (f : Nat → List Nat) : Ends := (Array.range (cs.length + 1)).map f

def after (e : Ends) (i : Nat) : List Nat := e[i]?.getD []

end Ends

namespace NamePattern

mutual
def ends (cs : List Char) : NamePattern → Ends
  | .empty => Ends.ofPlaces cs (fun i => [i])
  | .look l => Ends.ofPlaces cs (fun i => if l.holds cs i then [i] else [])
  | .char set _ =>
      Ends.ofPlaces cs (fun i =>
        if Look.isAt cs i (fun c => set.contains c.toNat) then [i + 1] else [])
  | .group _ inner => inner.ends cs
  | .times inner least most =>
      let once := inner.ends cs
      let bound := cs.length + 1
      let more :=
        match most with
        | some n => min (n - least) bound
        | none => bound
      Ends.ofPlaces cs (fun i =>
        upTo once.after more (exactly once.after (min least bound) [i]))
  | .sequence parts => endsOfAll cs parts
  | .choice parts => endsOfAny cs parts
termination_by structural p => p

def endsOfAll (cs : List Char) : List NamePattern → Ends
  | [] => Ends.ofPlaces cs (fun i => [i])
  | p :: rest =>
      let first := p.ends cs
      let others := endsOfAll cs rest
      Ends.ofPlaces cs (fun i => ((first.after i).flatMap others.after).eraseDups)
termination_by structural parts => parts

def endsOfAny (cs : List Char) : List NamePattern → Ends
  | [] => Ends.ofPlaces cs (fun _ => [])
  | p :: rest =>
      let first := p.ends cs
      let others := endsOfAny cs rest
      Ends.ofPlaces cs (fun i => (first.after i ++ others.after i).eraseDups)
termination_by structural parts => parts
end

def isFoundIn (p : NamePattern) (name : String) : Bool :=
  (p.ends name.toList).any (fun places => !places.isEmpty)

/-! ## Limits -/

mutual
def nesting : NamePattern → Nat
  | .empty => 0
  | .look _ => 0
  | .char _ brackets => brackets
  | .group _ inner => inner.nesting + 1
  | .times inner _ _ => inner.nesting + 1
  | .sequence parts => nestingOfAll parts + 1
  | .choice parts => nestingOfAll parts + 1
termination_by structural p => p

def nestingOfAll : List NamePattern → Nat
  | [] => 0
  | p :: rest => max p.nesting (nestingOfAll rest)
termination_by structural parts => parts
end

mutual
def isHollow : NamePattern → Bool
  | .empty => true
  | .look _ => true
  | .char _ _ => false
  | .group _ inner => inner.isHollow
  | .times inner _ most => inner.isHollow || most == some 0
  | .sequence parts => areHollow parts
  | .choice parts => areHollow parts
termination_by structural p => p

def areHollow : List NamePattern → Bool
  | [] => true
  | p :: rest => p.isHollow && areHollow rest
termination_by structural parts => parts
end

/-- The bytes that a code point range needs after some leading bits are settled: each
list gives a range for every one of `n + 1` digits to the base 64. -/
def digitRanges : (n first last : Nat) → List (List (Nat × Nat))
  | 0, first, last => [[(first, last)]]
  | n + 1, first, last =>
      let unit := Nat.pow 64 (n + 1)
      let (a, r) := (first / unit, first % unit)
      let (b, t) := (last / unit, last % unit)
      if a = b then (digitRanges n r t).map ((a, a) :: ·)
      else
        let low := if r = 0 then [] else (digitRanges n r (unit - 1)).map ((a, a) :: ·)
        let high := if t = unit - 1 then [] else (digitRanges n 0 t).map ((b, b) :: ·)
        let start := if r = 0 then a else a + 1
        let stop := if t = unit - 1 then b + 1 else b
        let middle :=
          if start < stop then [(start, stop - 1) :: List.replicate (n + 1) (0, 63)] else []
        low ++ middle ++ high

def commonLength {α : Type} [BEq α] : List α → List α → Nat
  | x :: xs, y :: ys => if x == y then commonLength xs ys + 1 else 0
  | _, _ => 0

/-- How many steps lists take if those with a common front share it. -/
def sharedSteps {α : Type} [BEq α] (before : List α) : List (List α) → Nat
  | [] => 0
  | xs :: rest => xs.length - commonLength before xs + sharedSteps xs rest

def within (first last : Nat) (rs : List (Nat × Nat)) : List (Nat × Nat) :=
  rs.filterMap (fun r =>
    if max first r.1 ≤ min last r.2 then some (max first r.1, min last r.2) else none)

/-- How many bytes a set takes, read `backward` or not. -/
def setWeight (backward : Bool) (set : CharSet) : Nat :=
  match set.toRanges with
  | [] => 32
  | [(first, last)] =>
      if first = last then 32 * (Char.ofNat first).utf8Size
      else rangesWeight [(first, last)]
  | rs => rangesWeight rs
where
  rangesWeight (rs : List (Nat × Nat)) : Nat :=
    if rs.all (fun r => decide (r.2 < 0x80)) then 64 + 8 * rs.length
    else
      let lists (n : Nat) (bounds : Nat × Nat) : List (List (Nat × Nat)) :=
        (within bounds.1 bounds.2 rs).flatMap (fun r => digitRanges n r.1 r.2)
      let all := [lists 0 (0, 0x7F), lists 1 (0x80, 0x7FF),
        lists 2 (0x800, 0xD7FF) ++ lists 2 (0xE000, 0xFFFF), lists 3 (0x10000, 0x10FFFF)]
      let bytes := (all.map (fun ls => 32 * sharedSteps [] ls + 4 * ls.length)).foldl Nat.add 64
      if backward then bytes else bytes * 2 / 5

mutual
/-- How many bytes a pattern takes when its repetitions are written out.  Only a
pattern that is not read backward keeps the parts of groups. -/
def weight (backward : Bool) : NamePattern → Nat
  | .empty => 32
  | .look _ => 32
  | .char set _ => setWeight backward set
  | .group kept inner => inner.weight backward + (if kept && !backward then 64 else 0)
  | .times inner least most =>
      let w := inner.weight backward
      if most == some 0 then 32
      else if inner.isHollow then w + 72
      else
        match most with
        | none => (max least 1) * w + 40
        | some n => least * w + (n - least) * (w + 40) + 32
  | .sequence parts => weightOfAll backward parts
  | .choice parts => weightOfAll backward parts + 4 * parts.length + 64
termination_by structural p => p

def weightOfAll (backward : Bool) : List NamePattern → Nat
  | [] => 0
  | p :: rest => p.weight backward + weightOfAll backward rest
termination_by structural parts => parts
end

def maxNesting : Nat := 250

def maxWeight : Nat := 10485760

end NamePattern
end Fixture
end ShapeCheck
