import ShapeCheck.Text.Blank
import ShapeCheck.Text.Hex

/-!
# The tokens of filters

A filter is spelled by words, variables, keys, numbers, quoted texts and marks.
Blanks and comments only separate them.
-/

namespace ShapeCheck
namespace Filter

inductive Token where
  | word (name : String)
  /-- a name after a dollar sign -/
  | variable (name : String)
  /-- a name right after a point -/
  | key (name : String)
  | number (written : String)
  | text (s : String)
  /-- an operator, a bracket or another sign -/
  | mark (sign : String)
deriving DecidableEq

namespace Token

def startsName (c : Char) : Bool := c.isAlpha || c == '_'

def inName (c : Char) : Bool := c.isAlphanum || c == '_'

def inOperator (c : Char) : Bool := "|=!<>+*/%".toList.contains c

def isMark (c : Char) : Bool := "()[]\x7b\x7d:;,?-".toList.contains c

/-- What follows a comment, which ends with its line; `escaped` tells whether an odd
number of backslashes was just read.  A backslash at the end of a line, also before
a carriage return, continues the comment. -/
def afterComment (escaped : Bool) : List Char → List Char
  | [] => []
  | '\\' :: rest => afterComment (!escaped) rest
  | '\r' :: '\n' :: rest => if escaped then afterComment false rest else rest
  | '\n' :: rest => if escaped then afterComment false rest else rest
  | _ :: rest => afterComment false rest

theorem length_afterComment_le (escaped : Bool) (s : List Char) :
    (afterComment escaped s).length ≤ s.length := by
  fun_induction afterComment escaped s with
  | case1 => simp
  | case2 escaped rest ih => exact Nat.le_succ_of_le ih
  | case3 rest ih =>
    simp only [List.length_cons]
    omega
  | case4 => simp only [List.length_cons]; omega
  | case5 rest ih => exact Nat.le_succ_of_le ih
  | case6 => simp
  | case7 escaped c rest _ _ _ ih => exact Nat.le_succ_of_le ih

def hexChar? (a b c d : Char) : Option Char :=
  match hexValue? a, hexValue? b, hexValue? c, hexValue? d with
  | some w, some x, some y, some z =>
      let n := ((w * 16 + x) * 16 + y) * 16 + z
      if n.isValidChar then some (Char.ofNat n) else none
  | _, _, _, _ => none

def escaped? : Char → Option Char
  | '"' => some '"'
  | '\\' => some '\\'
  | '/' => some '/'
  | 'b' => some '\x08'
  | 'f' => some '\x0c'
  | 'n' => some '\n'
  | 'r' => some '\r'
  | 't' => some '\t'
  | _ => none

def quoted? : List Char → Option (List Char × List Char)
  | [] => none
  | '"' :: rest => some ([], rest)
  | '\\' :: 'u' :: a :: b :: c :: d :: rest =>
      match hexChar? a b c d, quoted? rest with
      | some x, some (cs, left) => some (x :: cs, left)
      | _, _ => none
  | '\\' :: e :: rest =>
      match escaped? e, quoted? rest with
      | some x, some (cs, left) => some (x :: cs, left)
      | _, _ => none
  | '\\' :: [] => none
  | c :: rest => (quoted? rest).map (fun p => (c :: p.1, p.2))

theorem length_quoted?_le {s cs left : List Char} (h : quoted? s = some (cs, left)) :
    left.length ≤ s.length := by
  fun_induction quoted? s generalizing cs left with
  | case1 => cases h
  | case2 rest =>
    cases h
    simp
  | case3 a b c d rest x ds more hq hx ih =>
    cases h
    have := ih hq
    simp only [List.length_cons]
    omega
  | case4 => cases h
  | case5 e rest _ x ds more hq hx ih =>
    cases h
    have := ih hq
    simp only [List.length_cons]
    omega
  | case6 => cases h
  | case7 => cases h
  | case8 c rest _ _ _ _ ih =>
    obtain ⟨⟨ds, more⟩, hq, he⟩ := Option.map_eq_some_iff.1 h
    cases he
    have := ih hq
    simp only [List.length_cons]
    omega

/-- The exponent at the front of a list of characters, if there is an exponent
mark, and what follows; a mark needs a digit. -/
def exponent? (s : List Char) : Option (List Char × List Char) :=
  match s with
  | m :: rest =>
      if m == 'e' || m == 'E' then
        let (sign, digits) : List Char × List Char :=
          match rest with
          | '+' :: more => (['+'], more)
          | '-' :: more => (['-'], more)
          | _ => ([], rest)
        match digits.takeWhile Char.isDigit with
        | [] => none
        | ds => some (m :: sign ++ ds, digits.dropWhile Char.isDigit)
      else some ([], s)
  | [] => some ([], [])

theorem length_dropWhile_le (f : Char → Bool) (s : List Char) :
    (s.dropWhile f).length ≤ s.length :=
  (List.dropWhile_sublist f).length_le

theorem length_exponent?_le {s cs left : List Char} (h : exponent? s = some (cs, left)) :
    left.length ≤ s.length := by
  unfold exponent? at h
  split at h
  · rename_i m rest
    split at h
    · split at h
      · rename_i sign digits hd
        have hle : digits.length ≤ rest.length := by
          split at hd <;> cases hd <;> simp
        split at h
        · cases h
        · cases h
          have := length_dropWhile_le Char.isDigit digits
          simp only [List.length_cons]
          omega
    · cases h
      exact Nat.le_refl _
  · cases h
    exact Nat.le_refl _

def fraction : List Char → List Char × List Char
  | '.' :: rest => ('.' :: rest.takeWhile Char.isDigit, rest.dropWhile Char.isDigit)
  | s => ([], s)

theorem length_fraction_le (s : List Char) : (fraction s).2.length ≤ s.length := by
  unfold fraction
  split
  · rename_i rest
    have := length_dropWhile_le Char.isDigit rest
    simp only [List.length_cons]
    omega
  · exact Nat.le_refl _

def number? (s : List Char) : Option (List Char × List Char) :=
  let f := fraction (s.dropWhile Char.isDigit)
  match exponent? f.2 with
  | none => none
  | some (e, left) => some (s.takeWhile Char.isDigit ++ f.1 ++ e, left)

theorem length_number?_lt {c : Char} {s cs left : List Char} (hc : c.isDigit = true)
    (h : number? (c :: s) = some (cs, left)) : left.length < (c :: s).length := by
  unfold number? at h
  simp only at h
  split at h
  · cases h
  · rename_i e more he
    cases h
    have h1 := length_exponent?_le he
    have h2 := length_fraction_le ((c :: s).dropWhile Char.isDigit)
    have h3 := length_dropWhile_le Char.isDigit s
    rw [List.dropWhile_cons_of_pos hc] at h1 h2
    simp only [List.length_cons]
    omega

def before (t : Token) (rest : Option (List Token)) : Option (List Token) :=
  rest.map (t :: ·)

/-- The tokens of a text; none if some of it is not a token. -/
def scan (s : List Char) : Option (List Token) :=
  match s with
  | [] => some []
  | c :: rest =>
      if isBlank c then scan rest
      else if c == '#' then scan (afterComment false rest)
      else if startsName c then
        before (.word (String.ofList (c :: rest.takeWhile inName)))
          (scan (rest.dropWhile inName))
      else if hc : c.isDigit then
        match hn : number? (c :: rest) with
        | none => none
        | some (cs, left) =>
            have : left.length < rest.length + 1 := length_number?_lt hc hn
            before (.number (String.ofList cs)) (scan left)
      else if isMark c then before (.mark (String.ofList [c])) (scan rest)
      else if inOperator c then
        before (.mark (String.ofList (c :: rest.takeWhile inOperator)))
          (scan (rest.dropWhile inOperator))
      else if c == '"' then
        match hq : quoted? rest with
        | none => none
        | some (cs, left) =>
            have : left.length ≤ rest.length := length_quoted?_le hq
            before (.text (String.ofList cs)) (scan left)
      else if c == '$' then
        match rest with
        | d :: more =>
            if startsName d then
              before (.variable (String.ofList (d :: more.takeWhile inName)))
                (scan (more.dropWhile inName))
            else none
        | [] => none
      else if c == '.' then
        match rest with
        | d :: more =>
            if d == '.' then before (.mark "..") (scan more)
            else if startsName d then
              before (.key (String.ofList (d :: more.takeWhile inName)))
                (scan (more.dropWhile inName))
            else before (.mark ".") (scan (d :: more))
        | [] => some [.mark "."]
      else none
termination_by s.length
decreasing_by
  all_goals simp only [List.length_cons]
  all_goals first
    | omega
    | (refine Nat.lt_of_le_of_lt (length_dropWhile_le _ _) ?_; omega)
    | (refine Nat.lt_of_le_of_lt (length_afterComment_le _ _) ?_; omega)

end Token
end Filter
end ShapeCheck
