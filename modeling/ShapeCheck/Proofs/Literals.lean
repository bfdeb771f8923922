import ShapeCheck.Proofs.Printing
import ShapeCheck.Proofs.QuotedReading
import ShapeCheck.Text.Hex

/-!
# String literals in generated code

Quoted text is one string literal, and a reader of code that knows no more of it than
where string literals start and end finds in a printed check exactly the literals of
the texts and keys that the check quotes.  What stands outside them are letters, digits
and a few marks.
-/

namespace ShapeCheck

/-!
## Literals
-/

namespace Quoted

/-- What may stand between the quotes of a string literal: characters that need no
escape, and escapes. -/
inductive Inner : List Char → Prop
  | nil : Inner []
  | plain {c : Char} {cs : List Char} (hquote : c ≠ '"') (hbackslash : c ≠ '\\')
      (hle : 32 ≤ c.toNat) (h : Inner cs) : Inner (c :: cs)
  | short {letter : Char} {cs : List Char}
      (hletter : letter ∈ ['"', '\\', '/', 'b', 'f', 'n', 'r', 't']) (h : Inner cs) :
      Inner ('\\' :: letter :: cs)
  | hex {digits cs : List Char} (hlength : digits.length = 4)
      (hdigits : digits.all (fun d => (hexValue? d).isSome) = true) (h : Inner cs) :
      Inner ('\\' :: 'u' :: (digits ++ cs))

def inner (text : String) : List Char := body text.toList

theorem inner_escape_append (c : Char) {cs : List Char} (h : Inner cs) :
    Inner (escape c ++ cs) := by
  rcases escape_cases c with ⟨letter, hc, hce⟩ | ⟨_, hlt, hce⟩ | ⟨hc, hce⟩
  · rw [hce]
    apply Inner.short _ h
    have hall : ∀ p ∈ shortForms, p.2 ∈ ['"', '\\', '/', 'b', 'f', 'n', 'r', 't'] := by decide
    exact hall (c, letter) (mem_shortForms hc)
  · rw [hce]
    have hdigit : ∀ n < 16, (hexValue? (hexDigit n)).isSome = true := by decide
    have hzero : (hexValue? '0').isSome = true := by decide
    have hdigits : ['0', '0', hexDigit (c.toNat / 16), hexDigit (c.toNat % 16)].all
        (fun d => (hexValue? d).isSome) = true := by
      simp [hzero, hdigit (c.toNat / 16) (by omega), hdigit (c.toNat % 16) (by omega)]
    exact Inner.hex rfl hdigits h
  · rw [hce]
    apply Inner.plain _ _ (le_of_escape_eq_self hce) h
    · rintro rfl
      cases hc
    · rintro rfl
      cases hc

theorem inner_body (cs : List Char) : Inner (body cs) := by
  induction cs with
  | nil => exact .nil
  | cons c cs ih => exact inner_escape_append c ih

end Quoted

/-- A text written as one string literal: quotes around characters from the blank on,
no quote or backslash among them but in escapes, read back as that text. -/
structure IsLiteral (written : String) (text : String) : Prop where
  between : ∃ cs, written.toList = '"' :: (cs ++ ['"']) ∧ Quoted.Inner cs ∧
    ∀ c ∈ cs, 32 ≤ c.toNat
  read_back : Json.ofText written = .ok (.text text)

theorem isLiteral_quote (text : String) : IsLiteral (quote text) text where
  between := ⟨_, toList_quote text, Quoted.inner_body _, fun _ => Quoted.le_of_mem_body⟩
  read_back := ofText_quote text

/-!
## A reader of code
-/

inductive Place where
  | code
  | literal
  /-- behind a backslash in a literal -/
  | escape

/-- What a reader has seen of code: the characters outside literals, the literal that it
is in, and the literals before. -/
structure Scan where
  place : Place
  code : List Char
  current : List Char
  literals : List (List Char)

namespace Scan

def start : Scan := ⟨.code, [], [], []⟩

def step (s : Scan) (c : Char) : Scan :=
  match s.place with
  | .code =>
      if c = '"' then { s with place := .literal } else { s with code := s.code ++ [c] }
  | .literal =>
      if c = '"' then ⟨.code, s.code, [], s.literals ++ [s.current]⟩
      else if c = '\\' then { s with place := .escape, current := s.current ++ [c] }
      else { s with current := s.current ++ [c] }
  | .escape => { s with place := .literal, current := s.current ++ [c] }

def run (s : Scan) (text : List Char) : Scan := text.foldl step s

theorem run_append (s : Scan) (t u : List Char) : s.run (t ++ u) = (s.run t).run u :=
  List.foldl_append

def Keeps (s : Scan) (c : Char) : Prop :=
  c ∈ s.code ∨ c ∈ s.current ∨ ∃ l ∈ s.literals, c ∈ l

theorem keeps_step {s : Scan} {c d : Char} (h : s.Keeps c ∨ c = d ∧ c ≠ '"') :
    (s.step d).Keeps c := by
  unfold step
  split
  · split
    · rcases h with h | ⟨rfl, h⟩
      · exact h
      · contradiction
    · rcases h with (h | h) | ⟨rfl, _⟩
      · exact Or.inl (List.mem_append_left _ h)
      · exact Or.inr h
      · exact Or.inl (List.mem_append_right _ List.mem_cons_self)
  · split
    · rcases h with (h | h | ⟨l, hl, h⟩) | ⟨rfl, h⟩
      · exact Or.inl h
      · exact Or.inr (Or.inr ⟨s.current, List.mem_append_right _ List.mem_cons_self, h⟩)
      · exact Or.inr (Or.inr ⟨l, List.mem_append_left _ hl, h⟩)
      · contradiction
    · split <;> rcases h with (h | h | h) | ⟨rfl, _⟩
      · exact Or.inl h
      · exact Or.inr (Or.inl (List.mem_append_left _ h))
      · exact Or.inr (Or.inr h)
      · exact Or.inr (Or.inl (List.mem_append_right _ List.mem_cons_self))
      · exact Or.inl h
      · exact Or.inr (Or.inl (List.mem_append_left _ h))
      · exact Or.inr (Or.inr h)
      · exact Or.inr (Or.inl (List.mem_append_right _ List.mem_cons_self))
  · rcases h with (h | h | h) | ⟨rfl, _⟩
    · exact Or.inl h
    · exact Or.inr (Or.inl (List.mem_append_left _ h))
    · exact Or.inr (Or.inr h)
    · exact Or.inr (Or.inl (List.mem_append_right _ List.mem_cons_self))

theorem keeps_run {s : Scan} {text : List Char} {c : Char}
    (h : s.Keeps c ∨ c ∈ text ∧ c ≠ '"') : (s.run text).Keeps c := by
  induction text generalizing s with
  | nil => simpa [run] using h
  | cons d text ih =>
      apply ih
      rcases h with h | ⟨hmem, hc⟩
      · exact Or.inl (keeps_step (Or.inl h))
      · rcases List.mem_cons.mp hmem with hd | hmem
        · exact Or.inl (keeps_step (Or.inr ⟨hd, hc⟩))
        · exact Or.inr ⟨hmem, hc⟩

section Literal

variable (code current : List Char) (literals : List (List Char))

theorem run_escape (c : Char) :
    run ⟨.literal, code, current, literals⟩ (Quoted.escape c) =
      ⟨.literal, code, current ++ Quoted.escape c, literals⟩ := by
  have hplain : ∀ (d : Char) (cs : List Char), d ≠ '"' → d ≠ '\\' →
      run ⟨.literal, code, cs, literals⟩ [d] = ⟨.literal, code, cs ++ [d], literals⟩ := by
    intro d cs hquote hbackslash
    simp [run, step, hquote, hbackslash]
  have hescaped : ∀ (d : Char) (cs : List Char),
      run ⟨.literal, code, cs, literals⟩ ['\\', d] =
        ⟨.literal, code, cs ++ ['\\', d], literals⟩ := by
    intro d cs
    simp [run, step]
  rcases Quoted.escape_cases c with ⟨letter, _, hce⟩ | ⟨_, hlt, hce⟩ | ⟨hc, hce⟩
  · rw [hce]
    exact hescaped letter current
  · rw [hce]
    have hdigit : ∀ n < 16, Quoted.hexDigit n ≠ '"' ∧ Quoted.hexDigit n ≠ '\\' := by decide
    have hhigh := hdigit (c.toNat / 16) (by omega)
    have hlow := hdigit (c.toNat % 16) (by omega)
    simp [run, step, hhigh, hlow]
  · rw [hce]
    apply hplain
    · rintro rfl
      cases hc
    · rintro rfl
      cases hc

theorem run_body (cs : List Char) :
    run ⟨.literal, code, current, literals⟩ (Quoted.body cs) =
      ⟨.literal, code, current ++ Quoted.body cs, literals⟩ := by
  induction cs generalizing current with
  | nil => simp [run]
  | cons c cs ih => rw [Quoted.body_cons, run_append, run_escape, ih, List.append_assoc]

theorem run_quote (text : String) :
    run ⟨.code, code, [], literals⟩ (quote text).toList =
      ⟨.code, code, [], literals ++ [Quoted.inner text]⟩ := by
  have hopen : run ⟨.code, code, [], literals⟩ ['"'] = ⟨.literal, code, [], literals⟩ := by
    simp [run, step]
  have hclose : ∀ cs, run ⟨.literal, code, cs, literals⟩ ['"'] =
      ⟨.code, code, [], literals ++ [cs]⟩ := by
    intro cs
    simp [run, step]
  rw [toList_quote, ← List.singleton_append, run_append, run_append, hopen, run_body, hclose]
  rfl

end Literal

end Scan

/-!
## Literals of a text
-/

def isCodeChar (c : Char) : Bool :=
  Identifier.isRest c ||
    ['(', ')', '[', ']', '\x7b', '\x7d', ',', ':', ' ', '.', '-'].contains c

theorem le_of_isCodeChar {c : Char} (h : isCodeChar c = true) : 32 ≤ c.toNat := by
  rw [isCodeChar, Bool.or_eq_true] at h
  rcases h with h | h
  · exact Identifier.le_of_isRest h
  · rw [List.contains_iff_mem] at h
    have hall : ['(', ')', '[', ']', '\x7b', '\x7d', ',', ':', ' ', '.', '-'].all
        (fun c => decide (32 ≤ c.toNat)) = true := by decide
    exact of_decide_eq_true (List.all_eq_true.mp hall c h)

/-- A text, started outside of literals, ends outside of literals and has those of the
given texts, in order. -/
def HasLiterals (written : List Char) (texts : List String) : Prop :=
  ∃ code, (∀ c ∈ code, isCodeChar c = true) ∧ ∀ before literals,
    Scan.run ⟨.code, before, [], literals⟩ written =
      ⟨.code, before ++ code, [], literals ++ texts.map Quoted.inner⟩

namespace HasLiterals

theorem quoted (text : String) : HasLiterals (quote text).toList [text] := by
  refine ⟨[], by simp, ?_⟩
  intro before literals
  rw [Scan.run_quote, List.append_nil]
  rfl

theorem append {t u : List Char} {ts us : List String} (ht : HasLiterals t ts)
    (hu : HasLiterals u us) : HasLiterals (t ++ u) (ts ++ us) := by
  rcases ht with ⟨code, hcode, ht⟩
  rcases hu with ⟨more, hmore, hu⟩
  refine ⟨code ++ more, ?_, ?_⟩
  · intro c hc
    rcases List.mem_append.mp hc with hc | hc
    · exact hcode c hc
    · exact hmore c hc
  · intro before literals
    rw [Scan.run_append, ht, hu, List.append_assoc, List.append_assoc, List.map_append]

theorem of_code {t : List Char} (h : ∀ c ∈ t, isCodeChar c = true) : HasLiterals t [] := by
  refine ⟨t, h, ?_⟩
  intro before literals
  -- Only a quote leads out of code, and no code character is one.
  induction t generalizing before with
  | nil => simp [Scan.run]
  | cons c t ih =>
      rcases List.forall_mem_cons.mp h with ⟨hc, ht⟩
      have hquote : c ≠ '"' := by
        rintro rfl
        cases hc
      have hstep : Scan.step ⟨.code, before, [], literals⟩ c =
          ⟨.code, before ++ [c], [], literals⟩ := by
        simp [Scan.step, hquote]
      show Scan.run (Scan.step _ c) t = _
      rw [hstep, ih ht, List.append_assoc]
      rfl

theorem of_all {t : List Char} (h : t.all isCodeChar = true) : HasLiterals t [] :=
  of_code (List.all_eq_true.mp h)

theorem code_append {t u : List Char} {us : List String} (ht : t.all isCodeChar = true)
    (hu : HasLiterals u us) : HasLiterals (t ++ u) us :=
  (of_all ht).append hu

theorem append_code {t u : List Char} {ts : List String} (ht : HasLiterals t ts)
    (hu : u.all isCodeChar = true) : HasLiterals (t ++ u) ts := by
  have happend := ht.append (of_all hu)
  rwa [List.append_nil] at happend

theorem cons {c : Char} {u : List Char} {us : List String} (hc : isCodeChar c = true)
    (hu : HasLiterals u us) : HasLiterals (c :: u) us :=
  code_append (t := [c]) (by simp [hc]) hu

/-- What is no code character is a quote or part of a literal. -/
theorem le_of_mem {t : List Char} {ts : List String} (h : HasLiterals t ts) {c : Char}
    (hc : c ∈ t) : 32 ≤ c.toNat := by
  rcases h with ⟨code, hcode, hrun⟩
  by_cases hquote : c = '"'
  · rw [hquote]
    decide
  · have hkeeps := Scan.keeps_run (s := Scan.start) (Or.inr ⟨hc, hquote⟩)
    rw [Scan.start, hrun] at hkeeps
    rcases hkeeps with h | h | ⟨l, hl, h⟩
    · exact le_of_isCodeChar (hcode c h)
    · cases h
    · rcases List.mem_map.mp hl with ⟨text, _, rfl⟩
      exact Quoted.le_of_mem_body h

theorem intercalate {α : Type} {as : List α} {print : α → String} {texts : α → List String}
    (h : ∀ a ∈ as, HasLiterals (print a).toList (texts a)) :
    HasLiterals (", ".intercalate (as.map print)).toList (as.flatMap texts) := by
  have hfollowing : ∀ as : List α, (∀ a ∈ as, HasLiterals (print a).toList (texts a)) →
      HasLiterals (following (as.map print)) (as.flatMap texts) := by
    intro as h
    induction as with
    | nil => exact of_all rfl
    | cons a as ih =>
        rcases List.forall_mem_cons.mp h with ⟨ha, has⟩
        rw [List.map_cons, following_cons, List.flatMap_cons]
        exact (ha.append (ih has)).cons (by decide) |>.cons (by decide)
  cases as with
  | nil => exact of_all (by simp)
  | cons a as =>
      rcases List.forall_mem_cons.mp h with ⟨ha, has⟩
      rw [List.map_cons, toList_intercalate_cons, List.flatMap_cons]
      exact ha.append (hfollowing as has)

end HasLiterals

/-!
## Printed checks
-/

def isBareKey (key : String) : Bool := key != "__proto__" && isIdentifier key

def keyTexts (key : String) : List String := if isBareKey key then [] else [key]

namespace Check

mutual
/-- The texts and keys that a check is printed with in quotes, in order. -/
def quotedTexts : Check → List String
  | .const (.text s) => [s]
  | .const _ => []
  | .primitive _ => []
  | .noop => []
  | .optional inner => inner.quotedTexts
  | .union members => quotedTextsAll members
  | .intersection members => quotedTextsAll members
  | .tuple elements => quotedTextsAll elements
  | .array element => element.quotedTexts
  | .object entries => quotedTextsOfEntries entries
termination_by structural c => c

def quotedTextsAll : List Check → List String
  | [] => []
  | c :: rest => c.quotedTexts ++ quotedTextsAll rest
termination_by structural cs => cs

def quotedTextsOfEntries : List (String × Check) → List String
  | [] => []
  | (key, c) :: rest => keyTexts key ++ c.quotedTexts ++ quotedTextsOfEntries rest
termination_by structural entries => entries
end

theorem quotedTextsAll_eq_flatMap (cs : List Check) :
    quotedTextsAll cs = cs.flatMap quotedTexts := by
  induction cs with
  | nil => rfl
  | cons c cs ih => rw [quotedTextsAll, List.flatMap_cons, ih]

theorem quotedTextsOfEntries_eq_flatMap (entries : List (String × Check)) :
    quotedTextsOfEntries entries = entries.flatMap (fun e => keyTexts e.1 ++ e.2.quotedTexts) := by
  induction entries with
  | nil => rfl
  | cons e entries ih => rw [quotedTextsOfEntries, List.flatMap_cons, ih]

end Check

theorem isCodeChar_of_isRest {c : Char} (h : Identifier.isRest c = true) :
    isCodeChar c = true := by
  rw [isCodeChar, h, Bool.true_or]

theorem hasLiterals_printKey (key : String) :
    HasLiterals (printKey key).toList (keyTexts key) := by
  by_cases hproto : key = "__proto__"
  · subst hproto
    have hbare : ¬ isBareKey "__proto__" = true := by simp [isBareKey]
    rw [printKey, if_pos rfl, keyTexts, if_neg hbare, String.toList_append,
      String.toList_append]
    exact ((HasLiterals.quoted _).code_append (by decide)).append_code (by decide)
  · cases hident : isIdentifier key with
    | true =>
        have hbare : isBareKey key = true := by simp [isBareKey, hproto, hident]
        rw [printKey, if_neg hproto, if_pos hident, keyTexts, if_pos hbare]
        exact .of_code (fun c hc => isCodeChar_of_isRest (isRest_of_mem_identifier hident hc))
    | false =>
        have hbare : ¬ isBareKey key = true := by simp [isBareKey, hident]
        rw [printKey, if_neg hproto, hident, if_neg Bool.false_ne_true, keyTexts, if_neg hbare]
        exact .quoted key

theorem Double.isCodeChar_of_isNumberChar {c : Char} (h : isNumberChar c = true) :
    isCodeChar c = true := by
  rw [isNumberChar, Bool.or_eq_true] at h
  rcases h with h | h
  · apply isCodeChar_of_isRest
    rw [Identifier.isRest, Bool.or_eq_true]
    simp only [Char.isDigit, Bool.and_eq_true, decide_eq_true_eq] at h
    right
    simp only [Bool.and_eq_true, decide_eq_true_eq]
    exact h
  · rw [List.contains_iff_mem] at h
    have hall : ('.' :: '-' :: wordLetters).all isCodeChar = true := by decide
    exact List.all_eq_true.mp hall c h

theorem Literal.hasLiterals_print (value : Literal) :
    HasLiterals value.print.toList (Check.const value).quotedTexts := by
  cases value with
  | text s => exact .quoted s
  | number x =>
      exact .of_code (fun c hc =>
        Double.isCodeChar_of_isNumberChar (Double.isNumberChar_of_mem_plainText hc))
  | undefined => exact .of_all (by decide)
  | null => exact .of_all (by decide)
  | bool b =>
      cases b with
      | true => exact .of_all (by decide)
      | false => exact .of_all (by decide)

namespace Check

theorem all_isCodeChar_name (k : Combinator) : k.name.toList.all isCodeChar = true := by
  cases k <;> decide

theorem hasLiterals_call {k : Combinator} {argument : String} {texts : List String}
    (h : HasLiterals argument.toList texts) : HasLiterals (call k argument).toList texts := by
  rw [toList_call]
  exact ((h.append_code (by decide)).cons (by decide)).code_append (all_isCodeChar_name k)

theorem hasLiterals_bracketList {cs : List Check}
    (h : ∀ c ∈ cs, HasLiterals c.print.toList c.quotedTexts) :
    HasLiterals (bracketList (printAll cs)).toList (quotedTextsAll cs) := by
  rw [toList_bracketList, printAll_eq_map, quotedTextsAll_eq_flatMap]
  exact ((HasLiterals.intercalate h).append_code (by decide)).cons (by decide)

theorem hasLiterals_braceList {entries : List (String × Check)}
    (h : ∀ e ∈ entries, HasLiterals e.2.print.toList e.2.quotedTexts) :
    HasLiterals (braceList (printEntries entries)).toList (quotedTextsOfEntries entries) := by
  have hentry : ∀ e ∈ entries,
      HasLiterals (printEntry e).toList (keyTexts e.1 ++ e.2.quotedTexts) := by
    intro e he
    rw [printEntry, String.toList_append, String.toList_append]
    exact ((hasLiterals_printKey e.1).append_code (by decide)).append (h e he)
  rw [printEntries_eq_map, quotedTextsOfEntries_eq_flatMap]
  cases entries with
  | nil => exact .of_all (by decide)
  | cons e entries =>
      have hlist := HasLiterals.intercalate hentry
      rw [List.map_cons] at hlist ⊢
      rw [toList_braceList_cons]
      exact ((hlist.append_code (by decide)).cons (by decide)).cons (by decide)

theorem hasLiterals_print (c : Check) : HasLiterals c.print.toList c.quotedTexts := by
  induction c with
  | const value => exact hasLiterals_call value.hasLiterals_print
  | primitive type => exact .of_all (all_isCodeChar_name _)
  | noop => exact .of_all (all_isCodeChar_name _)
  | optional inner ih => exact hasLiterals_call ih
  | union members ih => exact hasLiterals_call (hasLiterals_bracketList ih)
  | intersection members ih => exact hasLiterals_call (hasLiterals_bracketList ih)
  | tuple elements ih => exact hasLiterals_call (hasLiterals_bracketList ih)
  | array element ih => exact hasLiterals_call ih
  | object entries ih => exact hasLiterals_call (hasLiterals_braceList ih)

end Check

end ShapeCheck
