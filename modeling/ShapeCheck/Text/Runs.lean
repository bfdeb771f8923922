/-!
# Tables of runs

A table gives the lengths of runs of code points one after the other, separated by
blanks and ends of lines.  The lengths may carry labels.
-/

namespace ShapeCheck
namespace Runs

structure Run where
  length : Nat
  label : List Char

/-- The run of a word: its digits give the length. -/
def Run.ofWord (word : List Char) : Run :=
  ⟨(word.takeWhile Char.isDigit).foldl (fun n c => n * 10 + (c.toNat - '0'.toNat)) 0,
    word.dropWhile Char.isDigit⟩

/-- The words that blanks and ends of lines separate, where the characters of `word`,
reversed, are read. -/
def words (word : List Char) : List Char → List (List Char)
  | [] => if word.isEmpty then [] else [word.reverse]
  | c :: rest =>
      if c == ' ' || c == '\n' then
        if word.isEmpty then words [] rest else word.reverse :: words [] rest
      else words (c :: word) rest

def place (start : Nat) : List Run → List (Nat × Nat × String)
  | [] => []
  | run :: rest =>
      (start, start + run.length - 1, String.ofList run.label) :: place (start + run.length) rest

def labelled (table : String) : List (Nat × Nat × String) :=
  place 0 ((words [] table.toList).map Run.ofWord)

def seconds {α : Type} : List α → List α
  | _ :: x :: rest => x :: seconds rest
  | _ => []

/-- The runs that have a property, where those that lack it and those that have it
alternate. -/
def alternating (table : String) : List (Nat × Nat) :=
  (seconds (labelled table)).map (fun r => (r.1, r.2.1))

end Runs
end ShapeCheck
