/-!
# Lines

A line ends at a line feed, which may follow a carriage return.  What follows the
last line feed is a line too, unless it is empty.
-/

namespace ShapeCheck

def dropReturn (line : List Char) : List Char :=
  if line.getLast? == some '\r' then line.dropLast else line

/-- The lines of a text; `read` is the part of the first that is read, reversed. -/
def linesFrom (read : List Char) : List Char → List (List Char)
  | [] => if read.isEmpty then [] else [read.reverse]
  | c :: rest =>
      if c = '\n' then dropReturn read.reverse :: linesFrom [] rest
      else linesFrom (c :: read) rest

def lines (text : List Char) : List (List Char) := linesFrom [] text

theorem linesFrom_append {line : List Char} (h : '\n' ∉ line) (read rest : List Char) :
    linesFrom read (line ++ '\n' :: rest) =
      dropReturn (read.reverse ++ line) :: linesFrom [] rest := by
  induction line generalizing read with
  | nil => simp [linesFrom]
  | cons c cs ih =>
    have hc : c ≠ '\n' := fun hc => h (by simp [hc])
    have hcs : '\n' ∉ cs := fun hm => h (List.mem_cons_of_mem c hm)
    rw [List.cons_append, linesFrom, if_neg hc, ih hcs]
    simp

theorem lines_append {line : List Char} (h : '\n' ∉ line) (rest : List Char) :
    lines (line ++ '\n' :: rest) = dropReturn line :: lines rest := by
  rw [lines, linesFrom_append h]
  rfl

end ShapeCheck
