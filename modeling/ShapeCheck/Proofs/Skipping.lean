import Mathlib.Tactic.SplitIfs
import ShapeCheck.Proofs.LongerText.Document

/-!
# What is read can be skipped

Skipping keeps the open brackets on a stack and looks at less than reading does.  A
document that is read is skipped up to the same place, inside whatever brackets.
-/

namespace ShapeCheck

theorem Utf8.exists_of_decode? {b : UInt8} {tail left : Bytes} {c : Char}
    (h : decode? (b :: tail) = some (c, left)) :
    ∃ more, tail = more ++ left ∧ ∀ x ∈ more, 0x80 ≤ x.toNat := by
  have hcontinuation : ∀ {x : UInt8} {n : Nat}, continuation? x = some n → 0x80 ≤ x.toNat := by
    intro x n hx
    unfold continuation? at hx
    split at hx
    · rename_i hrange
      exact hrange.1
    · cases hx
  unfold decode? at h
  dsimp only at h
  split_ifs at h
  · cases h
    exact ⟨[], rfl, List.forall_mem_nil _⟩
  · rcases tail with _ | ⟨b1, rest⟩
    · cases h
    · dsimp only at h
      split at h
      · rename_i h1
        refine ⟨[b1], ?_, ?_⟩
        · rw [rest_of_character? h]
          rfl
        · simp [hcontinuation h1]
      · cases h
  · rcases tail with _ | ⟨b1, _ | ⟨b2, rest⟩⟩
    · cases h
    · cases h
    · dsimp only at h
      split at h
      · rename_i h1 h2
        refine ⟨[b1, b2], ?_, ?_⟩
        · rw [rest_of_character? h]
          rfl
        · simp [hcontinuation h1, hcontinuation h2]
      · cases h
  · rcases tail with _ | ⟨b1, _ | ⟨b2, _ | ⟨b3, rest⟩⟩⟩
    · cases h
    · cases h
    · cases h
    · dsimp only at h
      split at h
      · rename_i h1 h2 h3
        refine ⟨[b1, b2, b3], ?_, ?_⟩
        · rw [rest_of_character? h]
          rfl
        · simp [hcontinuation h1, hcontinuation h2, hcontinuation h3]
      · cases h

namespace Reading

/-!
## Strings
-/

theorem skipChars_plain {bs rest : Bytes} (h : ∀ b ∈ bs, 0x80 ≤ b.toNat) :
    skipChars (bs ++ rest) = skipChars rest := by
  induction bs with
  | nil => rfl
  | cons b bs ih =>
      rcases List.forall_mem_cons.mp h with ⟨hb, hbs⟩
      have hne : ∀ d : UInt8, d.toNat < 0x80 → b ≠ d := by
        rintro d hd rfl
        omega
      have hcontrol : ¬ b < 0x20 := by
        intro hlt
        have hlt' : b.toNat < 32 := hlt
        omega
      rw [List.cons_append, skipChars, if_neg (hne _ (by decide)), if_neg (hne _ (by decide)),
        if_neg hcontrol, ih hbs]

theorem skipChars_escape {rest left : Bytes} (h : skipEscape rest = .ok left) :
    skipChars (0x5C :: rest) = skipChars left := by
  rw [skipChars]
  grind

theorem skipChars_hexQuad {rest left : Bytes} {n : Nat} (h : hexQuad rest = .ok (n, left)) :
    skipChars (0x5C :: 0x75 :: rest) = skipChars left := by
  apply skipChars_escape
  have hletter : shortEscape? 0x75 = none := by decide
  simp only [skipEscape, hletter, if_pos, h]
  rfl

theorem skipChars_of_lowSurrogate {high : Nat} {s left : Bytes} {c : Char}
    (h : lowSurrogate high s = .ok (c, left)) : skipChars s = skipChars left := by
  unfold lowSurrogate at h
  repeat' split at h
  all_goals simp only [reduceCtorEq, Except.ok.injEq, Prod.mk.injEq] at h
  rename_i hbackslash _ _ _ hletter _ _ _ hquad _
  rcases h with ⟨-, rfl⟩
  rw [hbackslash, hletter, skipChars_hexQuad hquad]

/-- A character that is spelled by two escapes is skipped in two steps. -/
theorem skipChars_of_escaped {rest left : Bytes} {c : Char} (h : escaped rest = .ok (c, left)) :
    skipChars (0x5C :: rest) = skipChars left := by
  cases rest with
  | nil => cases h
  | cons letter tail =>
      rw [escaped] at h
      split at h
      · rename_i hletter
        cases h
        apply skipChars_escape
        simp only [skipEscape, hletter]
      · split at h
        · rename_i hletter
          subst hletter
          unfold hexEscape at h
          split at h
          · cases h
          · rename_i n after hquad
            rw [skipChars_hexQuad hquad]
            split_ifs at h
            · exact skipChars_of_lowSurrogate h
            · cases h
              rfl
        · cases h

theorem skipChars_of_chars {s rest : Bytes} {cs : List Char} (h : chars s = .ok (cs, rest)) :
    skipChars s = .ok rest := by
  fun_induction chars s generalizing cs with
  | case1 => cases h
  | case2 tail =>
      cases h
      rw [skipChars, if_pos rfl]
  | case3 => cases h
  | case4 => cases h
  | case5 tail c left he hlt ds final hrec hne ih =>
      cases h
      rw [skipChars_of_escaped he]
      exact ih hrec
  | case6 => cases h
  | case7 => cases h
  | case8 b tail hquote hbackslash hcontrol c left he hlt ds final hrec ih =>
      cases h
      rcases Utf8.exists_of_decode? he with ⟨more, rfl, hmore⟩
      rw [skipChars, if_neg hquote, if_neg hbackslash, if_neg hcontrol, skipChars_plain hmore]
      exact ih hrec
  | case9 => cases h
  | case10 => cases h

theorem skipChars_of_text {s rest : Bytes} {t : String} (h : text s = .ok (t, rest)) :
    skipChars s = .ok rest := by
  unfold text at h
  split at h
  · cases h
  · rename_i hchars
    cases h
    exact skipChars_of_chars hchars

/-!
## Numbers
-/

theorem exponentDigits_skipped {fatal : Bool} {n m k : Nat} {s rest : Bytes}
    (h : exponentDigits fatal n s = .ok (m, rest)) :
    ∃ m', exponentDigits false k s = .ok (m', rest) := by
  induction s generalizing n k with
  | nil =>
      cases h
      exact ⟨k, rfl⟩
  | cons b tail ih =>
      rw [exponentDigits] at h ⊢
      cases hdigit : digit? b with
      | none =>
          rw [hdigit] at h
          cases h
          exact ⟨k, rfl⟩
      | some d =>
          rw [hdigit] at h
          dsimp only at h ⊢
          have hrest : ∃ n', exponentDigits fatal n' tail = .ok (m, rest) := by
            split_ifs at h
            · exact ⟨_, h⟩
            · exact ⟨_, h⟩
          rcases hrest with ⟨n', hrest⟩
          split_ifs with _ hfatal
          · exact ih hrest
          · cases hfatal
          · exact ih hrest

theorem exponentPart_skipped {zero : Bool} {s rest : Bytes} {exponent : Option Int}
    (h : exponentPart zero s = .ok (exponent, rest)) :
    ∃ exponent', exponentPart true s = .ok (exponent', rest) := by
  cases s with
  | nil =>
      cases h
      exact ⟨none, rfl⟩
  | cons b tail =>
      rw [exponentPart] at h ⊢
      split_ifs at h ⊢ with hmark
      · split at h
        · cases h
        · split at h
          · cases h
          · split at h
            · cases h
            · rename_i d _ _ n left hdigits
              cases h
              rcases exponentDigits_skipped (k := d) hdigits with ⟨m, hm⟩
              simp only [Bool.not_true, Bool.false_and, hm]
              exact ⟨_, rfl⟩
      · cases h
        exact ⟨none, rfl⟩

theorem skipNumber_of_number {negative : Bool} {s rest : Bytes} {n : Json.Number}
    (h : number negative s = .ok (n, rest)) : skipNumber s = .ok rest := by
  unfold number at h
  split at h
  · cases h
  · rename_i hwhole
    split at h
    · cases h
    · rename_i hfraction
      dsimp only at h
      split at h
      · cases h
      · rename_i exponent left hexponent
        have hleft : left = rest := by
          unfold checkRange at h
          repeat' split at h
          all_goals cases h
          all_goals rfl
        subst hleft
        rcases exponentPart_skipped hexponent with ⟨exponent', hskipped⟩
        simp only [skipNumber, hwhole, hfraction, hskipped]

/-!
## Documents
-/

/-- What a reader reads is skipped inside any brackets. -/
def Reader.Skips {α : Type} (r : Reader α) : Prop :=
  ∀ {s rest : Bytes} {a : α}, r.run s = .ok (a, rest) →
    ∀ stack, skipInside stack s = skipAfter stack rest

theorem skipBlank_skipBlank (s : Bytes) : skipBlank (skipBlank s) = skipBlank s := by
  induction s with
  | nil => rfl
  | cons b tail ih =>
      rw [skipBlank]
      split_ifs with hblank
      · exact ih
      · rw [skipBlank, if_neg hblank]

theorem skipInside_skipBlank (stack : List Bracket) (s : Bytes) :
    skipInside stack (skipBlank s) = skipInside stack s := by
  rw [skipInside, skipInside]
  grind [skipBlank_skipBlank]

theorem skippedScalar_of_wordScalar {letters : List UInt8} {j : Json} {s rest : Bytes}
    {a : Start} (h : wordScalar letters j s = .ok (a, rest)) :
    a = .scalar j ∧ skippedScalar (word letters s) = .ok (.scalar, rest) := by
  unfold wordScalar at h
  split at h
  · cases h
  · rename_i hletters
    cases h
    rw [hletters]
    exact ⟨rfl, rfl⟩

theorem skippedScalar_of_numberScalar {negative : Bool} {s rest : Bytes} {a : Start}
    (h : numberScalar negative s = .ok (a, rest)) :
    ∃ j, a = .scalar j ∧ skippedScalar (skipNumber s) = .ok (.scalar, rest) := by
  unfold numberScalar at h
  split at h
  · cases h
  · rename_i hread
    cases h
    rw [skipNumber_of_number hread]
    exact ⟨_, rfl, rfl⟩

theorem skippedScalar_of_textScalar {s rest : Bytes} {a : Start}
    (h : textScalar s = .ok (a, rest)) :
    ∃ j, a = .scalar j ∧ skippedScalar (skipChars s) = .ok (.scalar, rest) := by
  unfold textScalar at h
  split at h
  · cases h
  · rename_i hread
    cases h
    rw [skipChars_of_text hread]
    exact ⟨_, rfl, rfl⟩

theorem skipStartWith_of_startWith {b : UInt8} {s rest : Bytes} {a : Start}
    (h : startWith b s = .ok (a, rest)) :
    (∃ j, a = .scalar j ∧ skipStartWith b s = .ok (.scalar, rest)) ∨
      (a = .list ∧ skipStartWith b s = .ok (.opened .list, rest)) ∨
      (a = .object ∧ skipStartWith b s = .ok (.opened .object, rest)) := by
  cases opening b with
  | word letters j hread hskip =>
      rw [hread] at h
      rw [hskip]
      exact Or.inl ⟨j, skippedScalar_of_wordScalar h⟩
  | minus hread hskip =>
      rw [hread] at h
      rw [hskip]
      exact Or.inl (skippedScalar_of_numberScalar h)
  | digit hread hskip =>
      rw [hread] at h
      rw [hskip]
      exact Or.inl (skippedScalar_of_numberScalar h)
  | quote hread hskip =>
      rw [hread] at h
      rw [hskip]
      exact Or.inl (skippedScalar_of_textScalar h)
  | list hread hskip =>
      rw [hread] at h
      cases h
      exact Or.inr (Or.inl ⟨rfl, hskip _⟩)
  | object hread hskip =>
      rw [hread] at h
      cases h
      exact Or.inr (Or.inr ⟨rfl, hskip _⟩)
  | other hread _ =>
      rw [hread] at h
      cases h

def skipOn (first : Bool) (bracket : Bracket) (stack : List Bracket) (s : Bytes) :
    Except Failure Bytes :=
  if first then skipOpened bracket stack s else skipAfter (bracket :: stack) s

theorem skipOn_closing {first : Bool} {bracket : Bracket} {stack : List Bracket}
    {s rest : Bytes} (h : skipBlank s = bracket.closing :: rest) :
    skipOn first bracket stack s = skipAfter stack rest := by
  cases first with
  | true => exact skipOpened_closing h
  | false => exact skipAfter_closing h

theorem skipOn_item {first : Bool} {stack : List Bracket} {s rest : Bytes}
    (h : nextItem first s = .ok (.more rest)) :
    skipOn first .list stack s = skipInside (.list :: stack) rest := by
  unfold nextItem at h
  split at h
  · cases h
  · rename_i b tail hs
    split_ifs at h with hclosing hfirst hcomma
    · cases h
    · cases h
      subst hfirst
      exact skipOpened_content hs hclosing rfl
    · split at h
      · cases h
      · rename_i hnext
        split_ifs at h
        cases h
        subst hcomma
        rw [← hnext, skipInside_skipBlank]
        simp only [skipOn, hfirst]
        exact skipAfter_comma hs rfl

theorem skipToContent_of_text {s rest next value : Bytes} {name : String}
    (hs : skipBlank s = 0x22 :: rest) (hname : text rest = .ok (name, next))
    (hcolon : colon next = .ok value) : skipToContent .object s = .ok value := by
  simp only [skipToContent, skipKey, hs, if_pos, skipChars_of_text hname, hcolon]

theorem skipOn_member {first : Bool} {stack : List Bracket} {s next value : Bytes}
    {name : String} (h : memberKey first s = .ok (.key name next))
    (hcolon : colon next = .ok value) :
    skipOn first .object stack s = skipInside (.object :: stack) value := by
  unfold memberKey at h
  split at h
  · cases h
  · cases h
  · rename_i hkey
    split at h
    · cases h
    · rename_i hname
      cases h
      unfold nextKey at hkey
      split at hkey
      · cases hkey
      · rename_i b tail hs
        split_ifs at hkey with hclosing hfirst hquote hcomma
        · cases hkey
        · cases hkey
          subst hfirst hquote
          exact skipOpened_content hs hclosing
            (skipToContent_of_text (by rw [← hs, skipBlank_skipBlank, hs]) hname hcolon)
        · split at hkey
          · cases hkey
          · rename_i hnext
            split_ifs at hkey with hquote
            cases hkey
            subst hcomma hquote
            simp only [skipOn, hfirst]
            exact skipAfter_comma hs (skipToContent_of_text hnext hname hcolon)

theorem skipBlank_of_nextItem_done {first : Bool} {s rest : Bytes}
    (h : nextItem first s = .ok (.done rest)) : skipBlank s = 0x5D :: rest.tail := by
  unfold nextItem at h
  split at h
  · cases h
  · rename_i hs
    repeat' split at h
    all_goals cases h
    rename_i hclosing
    rw [hs, hclosing]
    rfl

theorem skipBlank_of_memberKey_done {first : Bool} {s rest : Bytes}
    (h : memberKey first s = .ok (.done rest)) : skipBlank s = 0x7D :: rest.tail := by
  unfold memberKey at h
  split at h
  · cases h
  · rename_i hkey
    cases h
    unfold nextKey at hkey
    split at hkey
    · cases hkey
    · rename_i hs
      repeat' split at hkey
      all_goals cases hkey
      rename_i hclosing
      rw [hs, hclosing]
      rfl
  · split at h <;> cases h

theorem skipOn_of_items {α : Type} {item : Reader α} (hitem : item.Skips) {first : Bool}
    {i : Nat} {s rest : Bytes} {as : List α} (h : items item first i s = .ok (as, rest))
    (stack : List Bracket) : skipOn first .list stack s = skipAfter stack rest.tail := by
  -- Along the loop of the reader; after the first item the skipping goes on after an item.
  fun_induction items item first i s generalizing as with
  | case1 => cases h
  | case2 first i s left hnext =>
      cases h
      exact skipOn_closing (skipBlank_of_nextItem_done hnext)
  | case3 => cases h
  | case4 => cases h
  | case5 first i s next hnext a left hread _ _ others final hothers ih =>
      cases h
      rw [skipOn_item hnext, hitem hread]
      exact ih hothers

theorem skipOn_of_members {α : Type} {item : Reader α} (hitem : item.Skips) {first : Bool}
    {s rest : Bytes} {as : List (String × α)} (h : members item first s = .ok (as, rest))
    (stack : List Bracket) : skipOn first .object stack s = skipAfter stack rest.tail := by
  fun_induction members item first s generalizing as with
  | case1 => cases h
  | case2 first s left hkey =>
      cases h
      exact skipOn_closing (skipBlank_of_memberKey_done hkey)
  | case3 => cases h
  | case4 => cases h
  | case5 => cases h
  | case6 first s name next hkey value hcolon a left hread _ _ _ others final hothers ih =>
      cases h
      rw [skipOn_member hkey hcolon, hitem hread]
      exact ih hothers

theorem skipInside_of_start {s rest : Bytes} {a : Start} (h : start s = .ok (a, rest))
    (stack : List Bracket) :
    (∃ j, a = .scalar j ∧ skipInside stack s = skipAfter stack rest) ∨
      (a = .list ∧ skipInside stack s = skipOn true .list stack rest) ∨
      (a = .object ∧ skipInside stack s = skipOn true .object stack rest) := by
  unfold start at h
  split at h
  · cases h
  · rename_i hs
    rcases skipStartWith_of_startWith h with ⟨j, ha, hstart⟩ | ⟨ha, hstart⟩ | ⟨ha, hstart⟩
    · exact Or.inl ⟨j, ha, skipInside_scalar hs hstart⟩
    · exact Or.inr (Or.inl ⟨ha, skipInside_opened hs hstart⟩)
    · exact Or.inr (Or.inr ⟨ha, skipInside_opened hs hstart⟩)

theorem skipInside_of_document {inner : Option (Reader Json)}
    (hinner : ∀ item, inner = some item → item.Skips) {s rest : Bytes} {j : Json}
    (h : document inner s = .ok (j, rest)) (stack : List Bracket) :
    skipInside stack s = skipAfter stack rest := by
  unfold document at h
  split at h
  · cases h
  · rename_i hstart
    cases h
    rcases skipInside_of_start hstart stack with ⟨_, _, hskip⟩ | ⟨⟨⟩, _⟩ | ⟨⟨⟩, _⟩
    exact hskip
  · rename_i hstart
    split at h
    · cases h
    · rename_i item
      split at h
      · cases h
      · rename_i hitems
        cases h
        rcases skipInside_of_start hstart stack with ⟨_, ⟨⟩, _⟩ | ⟨_, hskip⟩ | ⟨⟨⟩, _⟩
        rw [hskip, skipOn_of_items (hinner item rfl) hitems]
  · rename_i hstart
    split at h
    · cases h
    · rename_i item
      split at h
      · cases h
      · rename_i hmembers
        cases h
        rcases skipInside_of_start hstart stack with ⟨_, ⟨⟩, _⟩ | ⟨⟨⟩, _⟩ | ⟨_, hskip⟩
        rw [hskip, skipOn_of_members (hinner item rfl) hmembers]

theorem value_skips (depth : Nat) : (value depth).Skips := by
  induction depth with
  | zero =>
      intro s rest j h stack
      have hdocument : document none s = .ok (j, rest) := h
      exact skipInside_of_document (by simp) hdocument stack
  | succ depth ih =>
      intro s rest j h stack
      have hdocument : document (some (value depth)) s = .ok (j, rest) := h
      refine skipInside_of_document ?_ hdocument stack
      rintro item ⟨⟩
      exact ih

theorem skip_of_value {depth : Nat} {s rest : Bytes} {j : Json}
    (h : (value depth).run s = .ok (j, rest)) : skip s = .ok rest := by
  rw [skip, value_skips depth h, skipAfter_nil]

end Reading
end ShapeCheck
