import ShapeCheck.Double.Layout
import ShapeCheck.Fixture.NamePattern.Basic
import ShapeCheck.Text.Blank
import ShapeCheck.Text.Hex

/-!
# Reading name patterns

A pattern is spelled by characters, sets in brackets, escapes, groups, alternatives
and repetitions.  Flags change how it is read: they hold up to the end of the group
in which they are set.
-/

namespace ShapeCheck
namespace Fixture

structure Flags where
  ignoreCase : Bool
  multiLine : Bool
  dotAll : Bool
  /-- whether characters beyond ASCII belong to the sets of digits, blanks and words -/
  wide : Bool
  /-- whether a carriage return ends a line -/
  returns : Bool
  /-- whether blanks and comments are skipped -/
  verbose : Bool

namespace Flags

def plain : Flags := ⟨false, false, false, true, false, false⟩

def set? (f : Flags) (on : Bool) : Char → Option Flags
  | 'i' => some { f with ignoreCase := on }
  | 'm' => some { f with multiLine := on }
  | 's' => some { f with dotAll := on }
  | 'u' => some { f with wide := on }
  | 'R' => some { f with returns := on }
  | 'x' => some { f with verbose := on }
  | 'U' => some f
  | _ => none

/-- A set as it is meant: letters in any case if case is ignored. -/
def fold (f : Flags) (s : CharSet) : CharSet :=
  if f.ignoreCase then if f.wide then .anyCase s else .anyPlainCase s else s

/-- The characters outside a set, if there may be any beyond ASCII. -/
def outside? (f : Flags) (negated : Bool) (s : CharSet) : Option CharSet :=
  if negated then if f.wide then some (.outside s) else none else some s

def letters (f : Flags) : CharSet := if f.wide then .word else .plainWord

end Flags

/-! ## Blanks -/

/-- Drop blanks and comments; `comment` tells whether a comment is being read. -/
def dropSpace (comment : Bool) : List Char → List Char
  | [] => []
  | c :: rest =>
      if comment then dropSpace (c != '\n') rest
      else if isBlank c then dropSpace false rest
      else if c == '#' then dropSpace true rest
      else c :: rest

def Flags.skip (f : Flags) (s : List Char) : List Char :=
  if f.verbose then dropSpace false s else s

def braced (f : Flags) : (fuel : Nat) → List Char → Option (List Char × List Char)
  | 0, _ => none
  | fuel + 1, s =>
      match f.skip s with
      | [] => none
      | '\x7d' :: rest => some ([], rest)
      | c :: rest => (braced f fuel rest).map (fun p => (c :: p.1, p.2))

def spell (f : Flags) (kind : Char → Bool) : (fuel : Nat) → List Char → List Char × List Char
  | 0, s => ([], s)
  | fuel + 1, s =>
      match s with
      | [] => ([], [])
      | c :: rest =>
          if kind c then
            let p := spell f kind fuel (f.skip rest)
            (c :: p.1, p.2)
          else ([], s)

/-! ## Escapes -/

/-- A part that is no group, no repetition and no set in brackets. -/
inductive Item where
  /-- `byte` tells whether the character is given by two hexadecimal digits -/
  | char (c : Char) (byte : Bool)
  | set (s : CharSet)
  | look (l : Look)

def hexNumber? (n : Nat) : List Char → Option Nat
  | [] => some n
  | c :: rest =>
      match hexValue? c with
      | some v => hexNumber? (n * 16 + v) rest
      | none => none

def hexDigits (f : Flags) : (count : Nat) → List Char → Option (List Char × List Char)
  | 0, s => some ([], s)
  | _ + 1, [] => none
  | count + 1, c :: rest => (hexDigits f count (f.skip rest)).map (fun p => (c :: p.1, p.2))

/-- The character of a code, given by digits in braces or by as many digits as the
letter before asks for. -/
def code (f : Flags) (count : Nat) (s : List Char) : Option (Item × List Char) :=
  let character (byte : Bool) (digits rest : List Char) : Option (Item × List Char) :=
    if digits.isEmpty then none
    else
      match hexNumber? 0 digits with
      | some n => if n.isValidChar then some (.char (Char.ofNat n) byte, rest) else none
      | none => none
  match f.skip s with
  | '\x7b' :: rest => (braced f (rest.length + 1) rest).bind (fun p => character false p.1 p.2)
  | s => (hexDigits f count s).bind (fun p => character (count == 2) p.1 p.2)

def cutAt? (mark : List Char) : List Char → Option (List Char × List Char)
  | [] => none
  | c :: rest =>
      if mark.isPrefixOf (c :: rest) then some ([], (c :: rest).drop mark.length)
      else (cutAt? mark rest).map (fun p => (c :: p.1, p.2))

/-- The set of a name in braces.  Each of the signs between a property and its value
means the same. -/
def bracedSet? (name : List Char) : Option CharSet :=
  let valued (p : List Char × List Char) : Option CharSet :=
    CharSet.valued? (CharSet.lookupName p.1) (CharSet.lookupName p.2)
  match cutAt? ['!', '='] name with
  | some p => valued p
  | none =>
      match cutAt? [':'] name with
      | some p => valued p
      | none =>
          match cutAt? ['='] name with
          | some p => valued p
          | none => CharSet.named? (CharSet.lookupName name)

def propertySet (f : Flags) (negated : Bool) (s : List Char) : Option (Item × List Char) :=
  let finish (set : Option CharSet) (rest : List Char) : Option (Item × List Char) :=
    match set with
    | some set =>
        if f.wide then (f.outside? negated (f.fold set)).map (fun t => (.set t, rest)) else none
    | none => none
  match f.skip s with
  | [] => none
  | '\x7b' :: rest =>
      (braced f (rest.length + 1) rest).bind (fun p => finish (bracedSet? p.1) p.2)
  | '\\' :: _ => none
  | c :: rest => finish (CharSet.named? (CharSet.lookupName [c])) rest

def letterSet? (f : Flags) (letter : Char) : Option CharSet :=
  match letter with
  | 'd' => some (if f.wide then .digits else .plainDigits)
  | 's' => some (if f.wide then .blanks else .plainBlanks)
  | 'w' => some f.letters
  | _ => none

def wordTest? : String → Option WordTest
  | "start" => some .start
  | "end" => some .finish
  | "start-half" => some .startHalf
  | "end-half" => some .endHalf
  | _ => none

/-- The test of words after its letter.  Braces that hold no name belong to a
repetition. -/
def edge (f : Flags) (s : List Char) : Option (Item × List Char) :=
  let isNamed (c : Char) : Bool := c.isAlpha || c == '-'
  match s with
  | '\x7b' :: rest =>
      match f.skip rest with
      | [] => none
      | c :: more =>
          if isNamed c then
            match spell f isNamed (more.length + 2) (c :: more) with
            | (name, '\x7d' :: left) =>
                (wordTest? (String.ofList name)).map (fun t => (.look (.word t f.letters), left))
            | _ => none
          else some (.look (.word .edge f.letters), s)
  | _ => some (.look (.word .edge f.letters), s)

/-- Characters that stand for themselves after a backslash. -/
def isEscapable (c : Char) : Bool :=
  decide (c.toNat < 0x80) && !c.isAlphanum && c != '<' && c != '>'

def escape (f : Flags) : List Char → Option (Item × List Char)
  | [] => none
  | c :: rest =>
      match c with
      | 'x' => code f 2 rest
      | 'u' => code f 4 rest
      | 'U' => code f 8 rest
      | 'p' => propertySet f false rest
      | 'P' => propertySet f true rest
      | 'a' => some (.char '\x07' false, rest)
      | 'f' => some (.char '\x0c' false, rest)
      | 't' => some (.char '\t' false, rest)
      | 'n' => some (.char '\n' false, rest)
      | 'r' => some (.char '\r' false, rest)
      | 'v' => some (.char '\x0b' false, rest)
      | 'A' => some (.look .textStart, rest)
      | 'z' => some (.look .textEnd, rest)
      | 'b' => edge f rest
      | 'B' => some (.look (.word .inside f.letters), rest)
      | '<' => some (.look (.word .start f.letters), rest)
      | '>' => some (.look (.word .finish f.letters), rest)
      | _ =>
          if isEscapable c then some (.char c false, rest)
          else
            match letterSet? f c, letterSet? f c.toLower with
            | some set, _ => some (.set set, rest)
            | none, some set => (f.outside? true set).map (fun t => (.set t, rest))
            | none, none => none

/-! ## Sets in brackets -/

structure Nested where
  set : CharSet
  depth : Nat

/-- The union of sets; one set alone is not nested deeper. -/
def Nested.union : List Nested → Nested
  | [] => ⟨.empty, 0⟩
  | [n] => n
  | ns => ⟨.unionAll (ns.map Nested.set), (ns.map Nested.depth).foldl max 0 + 1⟩

inductive SetSign where
  | both
  | without
  | eitherNotBoth

def SetSign.apply : SetSign → CharSet → CharSet → CharSet
  | .both => .inter
  | .without => .diff
  | .eitherNotBoth => .symmDiff

def combine (f : Flags) (left : Option (SetSign × Nested)) (right : Nested) : Nested :=
  match left with
  | none => right
  | some (sign, n) =>
      ⟨sign.apply (f.fold n.set) (f.fold right.set), max n.depth right.depth + 1⟩

/-- A set between colons, after an opening bracket. -/
def classic? (f : Flags) (s : List Char) : Option (CharSet × List Char) :=
  match s with
  | ':' :: rest =>
      let negated := rest.head? == some '^'
      let named := if negated then rest.drop 1 else rest
      match named.dropWhile (· != ':') with
      | ':' :: ']' :: left =>
          (CharSet.classic? (String.ofList (named.takeWhile (· != ':')))).map (fun set =>
            (if negated then .outside (f.fold set) else f.fold set, left))
      | _ => none
  | _ => none

def isBadClassic (f : Flags) (s : List Char) : Bool :=
  !f.wide && s.take 2 == [':', '^'] && (classic? f s).isSome

def setItem (f : Flags) : List Char → Option (Item × List Char)
  | [] => none
  | '\\' :: rest => escape f rest
  | c :: rest => some (.char c false, rest)

def mayContain (f : Flags) (c : Char) : Bool := f.wide || decide (c.toNat < 0x80)

def itemSet? (f : Flags) : Item → Option CharSet
  | .char c _ => if mayContain f c then some (.single c) else none
  | .set s => some s
  | .look _ => none

def rangeSet? (f : Flags) : Item → Item → Option CharSet
  | .char c _, .char d _ =>
      if mayContain f c && mayContain f d && decide (c ≤ d) then
        some (.ranges [(c.toNat, d.toNat)])
      else none
  | _, _ => none

/-- The character that decides what a hyphen before it means.  Where blanks are
skipped, the mark of a comment is skipped too, but not the comment. -/
def Flags.afterHyphen? (f : Flags) (s : List Char) : Option Char :=
  if f.verbose then
    match s.dropWhile isBlank with
    | '#' :: rest => (rest.dropWhile isBlank).head?
    | rest => rest.head?
  else s.head?

def itemOrRange (f : Flags) (s : List Char) : Option (CharSet × List Char) :=
  match setItem f s with
  | none => none
  | some (first, left) =>
      match f.skip left with
      | [] => none
      | '-' :: rest =>
          if f.afterHyphen? rest == some ']' || f.afterHyphen? rest == some '-' then
            (itemSet? f first).map (·, '-' :: rest)
          else
            match setItem f (f.skip rest) with
            | none => none
            | some (last, final) => (rangeSet? f first last).map (·, final)
      | left => (itemSet? f first).map (·, left)

def hyphens (f : Flags) : (fuel : Nat) → List Char → List Nested × List Char
  | 0, s => ([], s)
  | fuel + 1, '-' :: rest =>
      let p := hyphens f fuel (f.skip rest)
      (⟨.single '-', 0⟩ :: p.1, p.2)
  | _ + 1, s => ([], s)

mutual
def readSet : (fuel : Nat) → Flags → List Char → Option (Nested × List Char)
  | 0, _, _ => none
  | fuel + 1, f, s =>
      let start := f.skip s
      let negated := start.head? == some '^'
      let (dashes, rest) :=
        hyphens f start.length (if negated then f.skip (start.drop 1) else start)
      let (items, rest) : List Nested × List Char :=
        match dashes, rest with
        | [], ']' :: more => ([⟨.single ']', 0⟩], more)
        | _, _ => (dashes, rest)
      match readItems fuel f none items rest with
      | none => none
      | some (n, left) =>
          (f.outside? negated (f.fold n.set)).map (fun set => (⟨set, n.depth + 1⟩, left))

/-- The items of a set up to its closing bracket, after those on the left of a sign
and those that are read. -/
def readItems : (fuel : Nat) → Flags → Option (SetSign × Nested) → List Nested →
    List Char → Option (Nested × List Char)
  | 0, _, _, _, _ => none
  | fuel + 1, f, left, items, s =>
      match f.skip s with
      | [] => none
      | ']' :: rest => some (combine f left (Nested.union items), rest)
      | '&' :: '&' :: rest =>
          readItems fuel f (some (.both, combine f left (Nested.union items))) [] rest
      | '-' :: '-' :: rest =>
          readItems fuel f (some (.without, combine f left (Nested.union items))) [] rest
      | '~' :: '~' :: rest =>
          readItems fuel f (some (.eitherNotBoth, combine f left (Nested.union items))) [] rest
      | '[' :: rest =>
          if isBadClassic f rest then none
          else
            match classic? f rest with
            | some (set, more) => readItems fuel f left (items ++ [⟨set, 0⟩]) more
            | none =>
                match readSet fuel f rest with
                | some (n, more) => readItems fuel f left (items ++ [n]) more
                | none => none
      | s =>
          match itemOrRange f s with
          | some (set, more) => readItems fuel f left (items ++ [⟨set, 0⟩]) more
          | none => none
end

/-! ## Repetitions -/

def countBound : Nat := 4294967296

def count? (f : Flags) (s : List Char) : Option (Nat × List Char) :=
  match spell f Char.isDigit (s.length + 1) (s.dropWhile isBlank) with
  | ([], _) => none
  | (digits, rest) =>
      let n := digits.foldl (fun n c => n * 10 + (c.toNat - '0'.toNat)) 0
      if n < countBound then some (n, f.skip (rest.dropWhile isBlank)) else none

def bounds? (f : Flags) (s : List Char) : Option (Nat × Option Nat × List Char) :=
  match count? f (f.skip s) with
  | some (least, '\x7d' :: rest) => some (least, some least, rest)
  | some (least, ',' :: rest) =>
      match f.skip rest with
      | '\x7d' :: left => some (least, none, left)
      | more =>
          match count? f more with
          | some (most, '\x7d' :: left) =>
              if least ≤ most then some (least, some most, left) else none
          | _ => none
  | _ => none

/-- A question mark after a repetition changes nothing that is found. -/
def dropLazy : List Char → List Char
  | '?' :: rest => rest
  | s => s

/-- Repeat the last of the parts that are read, the last one first. -/
def repeatLast (least : Nat) (most : Option Nat) : List NamePattern → Option (List NamePattern)
  | [] => none
  | .empty :: _ => none
  | p :: rest => some (.times p least most :: rest)

/-! ## Groups -/

def isGroupNameChar (first : Bool) (c : Char) : Bool :=
  let alphabetic := (CharSet.ranges (Runs.alternating Property.alphabeticRuns)).contains c.toNat
  let numeric := (CharSet.ranges (Category.ranges ["Nd", "Nl", "No"])).contains c.toNat
  if first then c == '_' || alphabetic
  else c == '_' || c == '.' || c == '[' || c == ']' || alphabetic || numeric

def isGroupName : List Char → Bool
  | [] => false
  | c :: rest => isGroupNameChar true c && rest.all (isGroupNameChar false)

/-- The letters that switch flags, up to a colon or a closing bracket.  No letter
comes twice, and a hyphen is followed by one. -/
def flagLetters (f : Flags) (on : Bool) (seen : List Char) :
    List Char → Option (Flags × List Char)
  | [] => none
  | ')' :: rest => if seen.head? == some '-' then none else some (f, ')' :: rest)
  | ':' :: rest => if seen.head? == some '-' then none else some (f, ':' :: rest)
  | '-' :: rest => if on then flagLetters f false ('-' :: seen) rest else none
  | c :: rest =>
      if seen.contains c then none
      else
        match f.set? on c with
        | some next => flagLetters next on (c :: seen) rest
        | none => none

inductive Opening where
  /-- a group, read with flags of its own, and its name if it has one; `kept` tells
  whether the part that fits can be asked for -/
  | group (f : Flags) (kept : Bool) (name : Option String) (rest : List Char)
  /-- flags for what follows -/
  | switch (f : Flags) (rest : List Char)

def namedGroup (f : Flags) (s : List Char) : Option Opening :=
  match s.dropWhile (· != '>') with
  | [] => none
  | _ :: left =>
      let name := s.takeWhile (· != '>')
      if isGroupName name then some (.group f true (some (String.ofList name)) left) else none

def opening? (f : Flags) (s : List Char) : Option Opening :=
  match f.skip s with
  | '?' :: '=' :: _ => none
  | '?' :: '!' :: _ => none
  | '?' :: '<' :: '=' :: _ => none
  | '?' :: '<' :: '!' :: _ => none
  | '?' :: 'P' :: '<' :: rest => namedGroup f rest
  | '?' :: '<' :: rest => namedGroup f rest
  | '?' :: ')' :: _ => none
  | '?' :: rest =>
      match flagLetters f true [] rest with
      | some (g, ':' :: left) => some (.group g false none left)
      | some (g, ')' :: left) => some (.switch g left)
      | _ => none
  | rest => some (.group f true none rest)

/-! ## Patterns -/

/-- Parts one after the other; the last one is given first. -/
def sequenceOf (parts : List NamePattern) : NamePattern :=
  match parts with
  | [] => .empty
  | [p] => p
  | ps => .sequence ps.reverse

def choiceOf (parts : List NamePattern) : NamePattern :=
  match parts with
  | [] => .empty
  | [p] => p
  | ps => .choice ps.reverse

def itemPattern? (f : Flags) : Item → Option NamePattern
  | .char c byte =>
      if !f.wide && byte && decide (0x80 ≤ c.toNat) then none
      else some (.char (f.fold (.single c)) 0)
  | .set s => some (.char s 0)
  | .look l => some (.look l)

/-- Any character but the end of a line. -/
def anyChar? (f : Flags) : Option NamePattern :=
  if !f.wide then none
  else if f.dotAll then some (.char (.outside .empty) 0)
  else if f.returns then some (.char (.outside (.ranges [(10, 10), (13, 13)])) 0)
  else some (.char (.outside (.ranges [(10, 10)])) 0)

/-- The flags and the names of groups that hold after a part, with what is left to
read. -/
structure Ahead where
  flags : Flags
  names : List String
  rest : List Char

mutual
/-- Alternatives up to a closing bracket or the end, after those that are read. -/
def readChoice : (fuel : Nat) → Flags → List String → List NamePattern → List Char →
    Option (NamePattern × Ahead)
  | 0, _, _, _, _ => none
  | fuel + 1, f, names, done, s =>
      match readSequence fuel f names [] s with
      | none => none
      | some (p, ahead) =>
          match ahead.rest with
          | '|' :: rest => readChoice fuel ahead.flags ahead.names (p :: done) rest
          | _ => some (choiceOf (p :: done), ahead)

def readSequence : (fuel : Nat) → Flags → List String → List NamePattern → List Char →
    Option (NamePattern × Ahead)
  | 0, _, _, _, _ => none
  | fuel + 1, f, names, parts, s =>
      let continueWith (p : Option NamePattern) (rest : List Char) :=
        match p with
        | some p => readSequence fuel f names (p :: parts) rest
        | none => none
      let repeatAs (least : Nat) (most : Option Nat) (rest : List Char) :=
        match repeatLast least most parts with
        | some parts => readSequence fuel f names parts (dropLazy rest)
        | none => none
      match f.skip s with
      | [] => some (sequenceOf parts, ⟨f, names, []⟩)
      | '|' :: rest => some (sequenceOf parts, ⟨f, names, '|' :: rest⟩)
      | ')' :: rest => some (sequenceOf parts, ⟨f, names, ')' :: rest⟩)
      | '*' :: rest => repeatAs 0 none rest
      | '+' :: rest => repeatAs 1 none rest
      | '?' :: rest => repeatAs 0 (some 1) rest
      | '\x7b' :: rest =>
          match bounds? f rest with
          | some (least, most, left) => repeatAs least most (f.skip left)
          | none => none
      | '(' :: rest =>
          match opening? f rest with
          | none => none
          | some (.switch g left) => readSequence fuel g names (.empty :: parts) left
          | some (.group g kept name left) =>
              match name with
              | some n =>
                  if names.contains n then none
                  else readGroup fuel f g kept (n :: names) parts left
              | none => readGroup fuel f g kept names parts left
      | '[' :: rest =>
          match readSet (2 * rest.length + 2) f rest with
          | some (n, left) => continueWith (some (.char n.set n.depth)) left
          | none => none
      | '\\' :: rest =>
          match escape f rest with
          | some (item, left) => continueWith (itemPattern? f item) left
          | none => none
      | '.' :: rest => continueWith (anyChar? f) rest
      | '^' :: rest =>
          continueWith (some (.look (if f.multiLine then .lineStart f.returns else .textStart)))
            rest
      | '$' :: rest =>
          continueWith (some (.look (if f.multiLine then .lineEnd f.returns else .textEnd))) rest
      | c :: rest => continueWith (itemPattern? f (.char c false)) rest

/-- A group after its opening, then the parts after it, read with the flags from
before. -/
def readGroup : (fuel : Nat) → Flags → Flags → (kept : Bool) → List String →
    List NamePattern → List Char → Option (NamePattern × Ahead)
  | 0, _, _, _, _, _, _ => none
  | fuel + 1, f, g, kept, names, parts, s =>
      match readChoice fuel g names [] s with
      | some (p, ahead) =>
          match ahead.rest with
          | ')' :: rest => readSequence fuel f ahead.names (.group kept p :: parts) rest
          | _ => none
      | none => none
end

inductive PatternError where
  | malformed
  | tooLarge
deriving DecidableEq

def PatternError.message : PatternError → String
  | .malformed => "regex parse error:"
  | .tooLarge =>
      "Compiled regex exceeds size limit of " ++ Double.digitText NamePattern.maxWeight ++ " bytes."

def NamePattern.ofText (text : String) : Except PatternError NamePattern :=
  let cs := text.toList
  match readChoice (4 * (cs.length + 1)) Flags.plain [] [] cs with
  | none => .error .malformed
  | some (p, ahead) =>
      if !ahead.rest.isEmpty || decide (maxNesting < p.nesting) then .error .malformed
      else if maxWeight < max (p.weight false) (p.weight true) then .error .tooLarge
      else .ok p

end Fixture
end ShapeCheck
