import ShapeCheck.Filter.Basic
import ShapeCheck.Filter.Token

/-!
# Reading filters

Operators bind in this order, the loosest first: the pipe and the binding of a
name, the comma, the alternative, equality, addition, division.  The first two
group to the right, all others to the left.
-/

namespace ShapeCheck
namespace Filter

inductive Connective where
  | pipe
  | bind (name : String)
  | comma
  | orElse
  | operator (op : Operator)
deriving DecidableEq

namespace Connective

def strength : Connective → Nat
  | .pipe => 0
  | .bind _ => 0
  | .comma => 1
  | .orElse => 2
  | .operator .equal => 3
  | .operator .add => 4
  | .operator .divide => 5

/-- How tightly the operators of the right side have to bind. -/
def strengthAfter : Connective → Nat
  | .pipe => 0
  | .bind _ => 0
  | op => op.strength + 1

def apply : Connective → Filter → Filter → Filter
  | .pipe, f, g => .pipe f g
  | .bind name, f, g => .bind f name g
  | .comma, f, g => .both f g
  | .orElse, f, g => .orElse f g
  | .operator op, f, g => .operate op f g

/-- The operator at the front, and what follows.  Where commas separate, a comma
is no operator. -/
def read? (commas : Bool) : List Token → Option (Connective × List Token)
  | .mark "|" :: rest => some (.pipe, rest)
  | .word "as" :: .variable name :: .mark "|" :: rest => some (.bind name, rest)
  | .mark "," :: rest => if commas then some (.comma, rest) else none
  | .mark "//" :: rest => some (.orElse, rest)
  | .mark "==" :: rest => some (.operator .equal, rest)
  | .mark "+" :: rest => some (.operator .add, rest)
  | .mark "/" :: rest => some (.operator .divide, rest)
  | _ => none

end Connective

def reserved : List String :=
  ["def", "if", "reduce", "foreach", "try", "label", "break"]

/-- Words that start a declaration at the front of a text. -/
def declaring : List String := ["module", "import", "include"]

/-- A number as it is kept: whole if it is so written and fits. -/
def numberDatum (written : String) : Datum :=
  if written.toList.all Char.isDigit then
    let n : Nat := (takeDigits 0 0 written.toList).1
    if Datum.isWord n then .whole n else .numeral written
  else .numeral written

def member (name : Filter) : Filter := .path .identity [.index name false]

/-- Drop the question marks at the front; whether there were any. -/
def guards : List Token → Bool × List Token
  | .mark "?" :: rest => (true, (guards rest).2)
  | rest => (false, rest)

abbrev Parsed (α : Type) := Option (α × List Token)

mutual
/-- A filter whose operators bind at least as tightly as `least`. -/
def readFilter : (fuel : Nat) → (commas : Bool) → (least : Nat) → List Token →
    Parsed Filter
  | 0, _, _, _ => none
  | fuel + 1, commas, least, s =>
      match readOperand fuel s with
      | none => none
      | some (f, rest) => readConnectives fuel commas least f rest

def readConnectives : (fuel : Nat) → (commas : Bool) → (least : Nat) → Filter → List Token →
    Parsed Filter
  | 0, _, _, _, _ => none
  | fuel + 1, commas, least, left, s =>
      match Connective.read? commas s with
      | none => some (left, s)
      | some (op, rest) =>
          if op.strength < least then some (left, s)
          else
            match readFilter fuel commas op.strengthAfter rest with
            | none => none
            | some (right, more) => readConnectives fuel commas least (op.apply left right) more

/-- A filter without operators: a term and the steps after it. -/
def readOperand : (fuel : Nat) → List Token → Parsed Filter
  | 0, _ => none
  | fuel + 1, s =>
      match s with
      | .mark "-" :: rest => (readOperand fuel rest).map (fun p => (.negate p.1, p.2))
      | _ =>
          match readTerm fuel s with
          | none => none
          | some (f, rest) =>
              let (guarded, rest) := guards rest
              let f := if guarded then .attempt f else f
              match readSteps fuel rest with
              | none => none
              | some ([], more) => some (f, more)
              | some (steps, more) => some (.path f steps, more)

/-- A term.  A key is left for the steps after it. -/
def readTerm : (fuel : Nat) → List Token → Parsed Filter
  | 0, _ => none
  | fuel + 1, s =>
      match s with
      | .key _ :: _ => some (.identity, s)
      | .mark "." :: .text _ :: _ => some (.identity, s)
      | .mark "." :: rest => some (.identity, rest)
      | .mark ".." :: rest => some (.descend, rest)
      | .number written :: rest => some (.constant (numberDatum written), rest)
      | .text t :: rest => some (.constant (.text t), rest)
      | .variable name :: rest => some (.variable name, rest)
      | .mark "(" :: rest =>
          match readFilter fuel true 0 rest with
          | some (f, .mark ")" :: more) => some (f, more)
          | _ => none
      | .mark "[" :: .mark "]" :: rest => some (.constant (.array none []), rest)
      | .mark "[" :: rest =>
          match readFilter fuel true 0 rest with
          | some (f, .mark "]" :: more) => some (.collect f, more)
          | _ => none
      | .mark "\x7b" :: .mark "\x7d" :: rest => some (.constant (.object none []), rest)
      | .mark "\x7b" :: rest =>
          match readEntries fuel rest with
          | some (entries, more) => some (.record entries, more)
          | none => none
      | .word "if" :: rest => readChoice fuel rest
      | .word name :: rest =>
          if name ∈ reserved then none
          else
            match rest with
            | .mark "(" :: inner =>
                match readArguments fuel inner with
                | some (arguments, more) => some (call name arguments, more)
                | none => none
            | _ => some (call name [], rest)
      | _ => none

def readArguments : (fuel : Nat) → List Token → Parsed (List Filter)
  | 0, _ => none
  | fuel + 1, s =>
      match readFilter fuel true 0 s with
      | some (f, .mark ")" :: more) => some ([f], more)
      | some (f, .mark ";" :: more) =>
          (readArguments fuel more).map (fun p => (f :: p.1, p.2))
      | _ => none

def readChoice : (fuel : Nat) → List Token → Parsed Filter
  | 0, _ => none
  | fuel + 1, s =>
      match readFilter fuel true 0 s with
      | some (condition, .word "then" :: rest) =>
          match readFilter fuel true 0 rest with
          | some (yes, .word "end" :: more) => some (.choose condition yes .identity, more)
          | some (yes, .word "elif" :: more) =>
              (readChoice fuel more).map (fun p => (.choose condition yes p.1, p.2))
          | some (yes, .word "else" :: more) =>
              match readFilter fuel true 0 more with
              | some (no, .word "end" :: left) => some (.choose condition yes no, left)
              | _ => none
          | _ => none
      | _ => none

/-- The entries of a record, up to the closing bracket, which may follow a comma. -/
def readEntries : (fuel : Nat) → List Token → Parsed (List (Filter × Filter))
  | 0, _ => none
  | fuel + 1, s =>
      match readEntry fuel s with
      | some (entry, .mark "\x7d" :: more) => some ([entry], more)
      | some (entry, .mark "," :: .mark "\x7d" :: more) => some ([entry], more)
      | some (entry, .mark "," :: more) =>
          (readEntries fuel more).map (fun p => (entry :: p.1, p.2))
      | _ => none

/-- One entry of a record.  A key without content takes it from the input or from
the variable of that name. -/
def readEntry : (fuel : Nat) → List Token → Parsed (Filter × Filter)
  | 0, _ => none
  | fuel + 1, s =>
      match s with
      | .mark "(" :: rest =>
          match readFilter fuel true 0 rest with
          | some (key, .mark ")" :: .mark ":" :: more) => readContent fuel key more
          | _ => none
      | .variable name :: .mark ":" :: rest => readContent fuel (.variable name) rest
      | .variable name :: rest =>
          some ((.constant (.text name), .variable name), rest)
      | .word name :: rest => readContentOf fuel (.constant (.text name)) rest
      | .text t :: rest => readContentOf fuel (.constant (.text t)) rest
      | _ => none

def readContentOf : (fuel : Nat) → Filter → List Token → Parsed (Filter × Filter)
  | 0, _, _ => none
  | fuel + 1, key, s =>
      match s with
      | .mark ":" :: rest => readContent fuel key rest
      | _ => some ((key, member key), s)

def readContent : (fuel : Nat) → Filter → List Token → Parsed (Filter × Filter)
  | 0, _, _ => none
  | fuel + 1, key, s =>
      (readFilter fuel false 0 s).map (fun p => ((key, p.1), p.2))

def readSteps : (fuel : Nat) → List Token → Parsed (List Access)
  | 0, _ => none
  | fuel + 1, s =>
      match readStep fuel s with
      | none => none
      | some (none, rest) => some ([], rest)
      | some (some step, rest) =>
          let (guarded, rest) := guards rest
          (readSteps fuel rest).map (fun p => (step guarded :: p.1, p.2))

def readStep : (fuel : Nat) → List Token → Parsed (Option (Bool → Access))
  | 0, _ => none
  | fuel + 1, s =>
      match s with
      | .key name :: rest => some (some (.index (.constant (.text name))), rest)
      | .mark "." :: .text t :: rest => some (some (.index (.constant (.text t))), rest)
      | .mark "[" :: rest => (readBracket fuel rest).map (fun p => (some p.1, p.2))
      | _ => some (none, s)

def readBracket : (fuel : Nat) → List Token → Parsed (Bool → Access)
  | 0, _ => none
  | fuel + 1, s =>
      match s with
      | .mark "]" :: rest => some (.every, rest)
      | .mark ":" :: rest =>
          match readFilter fuel true 0 rest with
          | some (stop, .mark "]" :: more) => some (.sliceTo stop, more)
          | _ => none
      | _ =>
          match readFilter fuel true 0 s with
          | some (place, .mark "]" :: more) => some (.index place, more)
          | some (start, .mark ":" :: .mark "]" :: more) => some (.sliceFrom start, more)
          | some (start, .mark ":" :: rest) =>
              match readFilter fuel true 0 rest with
              | some (stop, .mark "]" :: more) => some (.slice start stop, more)
              | _ => none
          | _ => none
end

/-- How many calls the reading of one token can need. -/
def callsPerToken : Nat := 8

def declares : List Token → Bool
  | .word name :: _ => declaring.contains name
  | _ => false

def ofText? (source : String) : Option Filter :=
  match Token.scan source.toList with
  | none => none
  | some tokens =>
      if declares tokens then none
      else
        match readFilter (callsPerToken * (tokens.length + 1)) true 0 tokens with
        | some (f, []) => some f
        | _ => none

end Filter
end ShapeCheck
