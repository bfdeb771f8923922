import Mathlib.Data.List.Basic
import ShapeCheck.Pointer
import ShapeCheck.Proofs.Double.PlainText
import ShapeCheck.Shape.Basic

/-!
# Pointers made of paths

A path through a shape is written as a pointer into its document.  The tokens of such a
pointer are names without slashes and tildes, or places in decimal digits, so nothing in
them is escaped and following the pointer is following the tokens.
-/

namespace ShapeCheck

namespace Path

theorem split_of_not_mem {cs : List Char} (h : '/' ∉ cs) : split cs = [cs] := by
  induction cs with
  | nil => rfl
  | cons c rest ih =>
      rw [List.mem_cons, not_or] at h
      rw [split, ih h.2]
      exact Ne.symm h.1

theorem split_append_slash {cs : List Char} (h : '/' ∉ cs) (rest : List Char) :
    split (cs ++ '/' :: rest) = cs :: split rest := by
  induction cs with
  | nil => rfl
  | cons c more ih =>
      rw [List.mem_cons, not_or] at h
      rw [List.cons_append, split, ih h.2]
      exact Ne.symm h.1

end Path

namespace Pointer

/-!
## Tokens
-/

theorem withSlashes_of_not_mem {cs : List Char} (h : '~' ∉ cs) : withSlashes cs = cs := by
  fun_induction withSlashes cs with
  | case1 rest ih => simp at h
  | case2 c rest _ ih =>
      rw [List.mem_cons, not_or] at h
      rw [ih h.2]
  | case3 => rfl

theorem withTildes_of_not_mem {cs : List Char} (h : '~' ∉ cs) : withTildes cs = cs := by
  fun_induction withTildes cs with
  | case1 rest ih => simp at h
  | case2 c rest _ ih =>
      rw [List.mem_cons, not_or] at h
      rw [ih h.2]
  | case3 => rfl

theorem unescape_of_not_mem {token : String} (h : '~' ∉ token.toList) :
    unescape token.toList = token := by
  rw [unescape, withSlashes_of_not_mem h, withTildes_of_not_mem h, String.ofList_toList]

def IsPlain (token : String) : Prop := '/' ∉ token.toList ∧ '~' ∉ token.toList

instance (token : String) : Decidable (IsPlain token) :=
  inferInstanceAs (Decidable (_ ∧ _))

def chars (tokens : List String) : List Char := tokens.flatMap (fun token => '/' :: token.toList)

theorem split_chars {token : String} {tokens : List String}
    (h : ∀ t ∈ token :: tokens, IsPlain t) :
    Path.split (token.toList ++ chars tokens) = (token :: tokens).map String.toList := by
  induction tokens generalizing token with
  | nil =>
      rw [chars, List.flatMap_nil, List.append_nil]
      exact Path.split_of_not_mem (h token List.mem_cons_self).1
  | cons next rest ih =>
      rcases List.forall_mem_cons.mp h with ⟨htoken, hrest⟩
      show Path.split (token.toList ++ '/' :: (next.toList ++ chars rest)) = _
      rw [Path.split_append_slash htoken.1, ih hrest]
      rfl

theorem select_of_plain {text : String} {tokens : List String} (htext : text.toList = chars tokens)
    (h : ∀ token ∈ tokens, IsPlain token) (j : Json) : select text j = follow tokens j := by
  rw [select, htext]
  cases tokens with
  | nil => rfl
  | cons token rest =>
      have hsplit := split_chars h
      have hunescape : ((token :: rest).map String.toList).map unescape = token :: rest := by
        rw [List.map_map]
        refine (List.map_congr_left ?_).trans (List.map_id _)
        intro t ht
        exact unescape_of_not_mem (h t ht).2
      show follow ((Path.split (token.toList ++ chars rest)).map unescape) j = _
      rw [hsplit, hunescape]

/-!
## Places
-/

theorem head?_toDigits_ne_zero {n : Nat} (h : 0 < n) : (Nat.toDigits 10 n).head? ≠ some '0' := by
  induction n using Nat.strongRecOn with
  | ind n ih =>
      by_cases hlt : n < 10
      · have hdigit : ∀ m < 10, 0 < m → [Nat.digitChar m].head? ≠ some '0' := by decide
        rw [Nat.toDigits_of_lt_base hlt]
        exact hdigit n hlt h
      · have hle : 10 ≤ n := Nat.le_of_not_lt hlt
        rw [Nat.toDigits_of_base_le (by decide) hle,
          List.head?_append_of_ne_nil _ Nat.toDigits_ne_nil]
        exact ih (n / 10) (by omega) (by omega)

theorem index?_digitText (n : Nat) : index? (Double.digitText n) = some n := by
  cases n with
  | zero => decide
  | succ n =>
      have hhead := head?_toDigits_ne_zero (Nat.succ_pos n)
      have hdigits : (Nat.toDigits 10 (n + 1)).all Char.isDigit = true := by
        rw [List.all_eq_true]
        intro c hc
        exact Nat.isDigit_of_mem_toDigits (by decide) (by decide) hc
      have hvalue : (Nat.toDigits 10 (n + 1)).foldl
          (fun m c => m * 10 + (c.toNat - '0'.toNat)) 0 = n + 1 := by
        have hread : Nat.ofDigitChars 10 (Nat.toDigits 10 (n + 1)) 0 = n + 1 :=
          Nat.ofDigitChars_ten_toDigits
        rw [Nat.ofDigitChars_eq_foldl] at hread
        simpa only [Nat.mul_comm] using hread
      simp only [index?, Double.digitText, String.toList_ofList]
      rw [if_neg, if_neg, hvalue]
      · simp [hdigits, hhead, Nat.toDigits_ne_nil]
      · intro hzero
        rw [beq_iff_eq] at hzero
        rw [hzero] at hhead
        exact hhead rfl

end Pointer

namespace Shape

/-!
## Paths
-/

def Step.tokens : Step → List String
  | .member i => ["members", Double.digitText i]
  | .element i => ["elements", Double.digitText i]
  | .item => ["element"]
  | .field i => ["fields", Double.digitText i, "shape"]
  | .content => ["value"]

def Path.tokens (path : Path) : List String := path.flatMap Step.tokens

theorem Path.text_append (path other : Path) :
    Path.text (path ++ other) = path.text ++ other.text := by
  rw [Path.text, List.map_append, String.join_append]
  rfl

theorem Path.tokens_append (path other : Path) :
    Path.tokens (path ++ other) = path.tokens ++ other.tokens :=
  List.flatMap_append

theorem isPlain_digitText (n : Nat) : Pointer.IsPlain (Double.digitText n) := by
  constructor
  · intro h
    exact absurd (Double.isDigit_of_mem_digitText h) (by decide)
  · intro h
    exact absurd (Double.isDigit_of_mem_digitText h) (by decide)

theorem Step.isPlain_of_mem_tokens (step : Step) :
    ∀ token ∈ step.tokens, Pointer.IsPlain token := by
  cases step <;> simp [tokens, isPlain_digitText] <;> decide

theorem Step.toList_text (step : Step) : step.text.toList = Pointer.chars step.tokens := by
  cases step <;> simp [text, tokens, Pointer.chars]

theorem select_text (path : Path) (j : Json) :
    Pointer.select path.text j = Pointer.follow path.tokens j := by
  apply Pointer.select_of_plain
  · rw [Path.text, String.toList_join, Path.tokens, Pointer.chars, List.flatMap_assoc,
      List.flatMap_map]
    exact congrArg path.flatMap (funext Step.toList_text)
  · intro token htoken
    rcases List.mem_flatMap.mp htoken with ⟨step, _, hstep⟩
    exact step.isPlain_of_mem_tokens token hstep

end Shape
end ShapeCheck
