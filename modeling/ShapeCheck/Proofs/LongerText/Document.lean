import ShapeCheck.Proofs.LongerText.Token
import ShapeCheck.Proofs.Reading
import ShapeCheck.Proofs.ReadingSteps

/-!
# Documents of a longer text

A list or an object is read up to its closing bracket, so text may be added behind it.
What stands inside is followed by a mark or a bracket, so the loops never depend on text
that is not there yet.
-/

namespace ShapeCheck
namespace Reading

variable {α : Type}

/-!
## Lists and objects
-/

theorem closing_of_nextItem {first : Bool} {s rest : Bytes}
    (h : nextItem first s = .ok (.done rest)) : ∃ after, rest = 0x5D :: after := by
  unfold nextItem at h
  split at h
  · cases h
  · repeat' split at h
    all_goals cases h
    subst_vars
    exact ⟨_, rfl⟩

theorem closing_of_nextKey {first : Bool} {s rest : Bytes}
    (h : nextKey first s = .ok (.done rest)) : ∃ after, rest = 0x7D :: after := by
  unfold nextKey at h
  split at h
  · cases h
  · repeat' split at h
    all_goals cases h
    subst_vars
    exact ⟨_, rfl⟩

theorem closing_of_memberKey {first : Bool} {s rest : Bytes}
    (h : memberKey first s = .ok (.done rest)) : ∃ after, rest = 0x7D :: after := by
  unfold memberKey at h
  split at h
  · cases h
  · rename_i left hnext
    cases h
    exact closing_of_nextKey hnext
  · split at h <;> cases h

theorem closing_of_items {item : Reader α} {first : Bool} {i : Nat} {s rest : Bytes}
    {as : List α} (h : items item first i s = .ok (as, rest)) : ∃ after, rest = 0x5D :: after := by
  fun_induction items item first i s generalizing as with
  | case1 => cases h
  | case2 first i s left hnext =>
      cases h
      exact closing_of_nextItem hnext
  | case3 => cases h
  | case4 => cases h
  | case5 first i s next hnext a left hread _ _ others final hothers ih =>
      cases h
      exact ih hothers

theorem closing_of_members {item : Reader α} {first : Bool} {s rest : Bytes}
    {as : List (String × α)} (h : members item first s = .ok (as, rest)) :
    ∃ after, rest = 0x7D :: after := by
  fun_induction members item first s generalizing as with
  | case1 => cases h
  | case2 first s left hkey =>
      cases h
      exact closing_of_memberKey hkey
  | case3 => cases h
  | case4 => cases h
  | case5 => cases h
  | case6 first s name next hkey value hcolon a left hread _ _ _ others final hothers ih =>
      cases h
      exact ih hothers

theorem ne_nil_of_items {item : Reader α} {first : Bool} {i : Nat} {s rest : Bytes} {as : List α}
    (h : items item first i s = .ok (as, rest)) : s ≠ [] := by
  rcases closing_of_items h with ⟨after, rfl⟩
  exact ne_nil_of_length_le (length_items_le h) (by simp)

theorem ne_nil_of_members {item : Reader α} {first : Bool} {s rest : Bytes}
    {as : List (String × α)} (h : members item first s = .ok (as, rest)) : s ≠ [] := by
  rcases closing_of_members h with ⟨after, rfl⟩
  exact ne_nil_of_length_le (length_members_le h) (by simp)

theorem items_closed {item : Reader α} (hitem : Steady item.run) (first : Bool) (i : Nat) :
    Closed (items item first i) := by
  intro s rest as h more
  fun_induction items item first i s generalizing as with
  | case1 => cases h
  | case2 first i s left hnext =>
      cases h
      exact items_done (nextItem_append hnext more)
  | case3 => cases h
  | case4 => cases h
  | case5 first i s next hnext a left hread hlt hle others final hothers ih =>
      cases h
      have hlong := hitem hread (ne_nil_of_items hothers) more
      rw [items_more (nextItem_append hnext more) hlong, ih hothers]
      rfl

theorem members_closed {item : Reader α} (hitem : Steady item.run) (first : Bool) :
    Closed (members item first) := by
  intro s rest as h more
  fun_induction members item first s generalizing as with
  | case1 => cases h
  | case2 first s left hkey =>
      cases h
      exact members_done (memberKey_append hkey more)
  | case3 => cases h
  | case4 => cases h
  | case5 => cases h
  | case6 first s name next hkey value hcolon a left hread _ _ _ others final hothers ih =>
      cases h
      have hlong := hitem hread (ne_nil_of_members hothers) more
      rw [members_more (memberKey_append hkey more) (colon_append hcolon more) hlong, ih hothers]
      rfl

theorem document_append {inner : Option (Reader Json)} {s rest : Bytes} {j : Json}
    (hinner : ∀ item, inner = some item → Steady item.run) (h : document inner s = .ok (j, rest))
    (hrest : rest ≠ [] ∨ j.depth ≠ 0) (more : Bytes) :
    document inner (s ++ more) = .ok (j, rest ++ more) := by
  unfold document at h ⊢
  split at h
  · cases h
  · rename_i hstart
    cases h
    -- A scalar is not nested, so something follows it.
    have hunread : rest ≠ [] := by
      cases hrest with
      | inl hunread => exact hunread
      | inr hdepth => exact absurd (scalar_of_start hstart).1 hdepth
    rw [start_append hstart (Or.inl hunread) more]
  · rename_i left hstart
    rw [start_append hstart (Or.inr (by simp)) more]
    dsimp only
    split at h
    · cases h
    · rename_i item
      split at h
      · cases h
      · rename_i as final hitems
        cases h
        rcases closing_of_items hitems with ⟨after, rfl⟩
        rw [items_closed (hinner item rfl) true 0 hitems more]
        rfl
  · rename_i left hstart
    rw [start_append hstart (Or.inr (by simp)) more]
    dsimp only
    split at h
    · cases h
    · rename_i item
      split at h
      · cases h
      · rename_i as final hmembers
        cases h
        rcases closing_of_members hmembers with ⟨after, rfl⟩
        rw [members_closed (hinner item rfl) true hmembers more]
        rfl

/-- Text may be added behind a document if something follows it, and behind a list or an
object in any case. -/
theorem value_append {depth : Nat} {s rest : Bytes} {j : Json}
    (h : (value depth).run s = .ok (j, rest)) (hrest : rest ≠ [] ∨ j.depth ≠ 0) (more : Bytes) :
    (value depth).run (s ++ more) = .ok (j, rest ++ more) := by
  induction depth generalizing s rest j more with
  | zero =>
      have hdocument : document none s = .ok (j, rest) := h
      exact document_append (by simp) hdocument hrest more
  | succ depth ih =>
      have hdocument : document (some (value depth)) s = .ok (j, rest) := h
      refine document_append ?_ hdocument hrest more
      rintro item ⟨⟩ s' rest' j' h' hrest' more'
      exact ih h' (Or.inl hrest') more'

/-!
## Skipped documents
-/

theorem skipNumber_append {s rest : Bytes} (h : skipNumber s = .ok rest) (hrest : rest ≠ [])
    (more : Bytes) : skipNumber (s ++ more) = .ok (rest ++ more) := by
  unfold skipNumber at h ⊢
  split at h
  · cases h
  · rename_i whole s1 hwhole
    split at h
    · cases h
    · rename_i fraction s2 hfraction
      split at h
      · cases h
      · rename_i exponent s3 hexponent
        cases h
        have h2 : s2 ≠ [] := ne_nil_of_length_le (length_exponentPart_le hexponent) hrest
        have h1 : s1 ≠ [] := ne_nil_of_length_le (length_fractionPart_le hfraction) h2
        rw [wholePart_steady hwhole h1 more]
        dsimp only
        rw [fractionPart_steady hfraction h2 more]
        dsimp only
        rw [exponentPart_steady _ hexponent hrest more]

theorem skipStartWith_append {b : UInt8} {s rest : Bytes} {a : SkipStart}
    (h : skipStartWith b s = .ok (a, rest)) (hrest : rest ≠ []) (more : Bytes) :
    skipStartWith b (s ++ more) = .ok (a, rest ++ more) := by
  have hscalar : ∀ {r long : Except Failure Bytes}, skippedScalar r = .ok (a, rest) →
      (r = .ok rest → long = .ok (rest ++ more)) → skippedScalar long = .ok (a, rest ++ more) := by
    intro r long hskip hlong
    rw [hlong (length_skippedScalar hskip)]
    rw [length_skippedScalar hskip] at hskip
    cases hskip
    rfl
  cases opening b with
  | word letters j _ hskip =>
      rw [hskip] at h ⊢
      exact hscalar h (fun hword => word_append hword more)
  | minus _ hskip =>
      rw [hskip] at h ⊢
      exact hscalar h (fun hnumber => skipNumber_append hnumber hrest more)
  | digit _ hskip =>
      rw [hskip] at h ⊢
      exact hscalar h (fun hnumber => skipNumber_append hnumber hrest more)
  | quote _ hskip =>
      rw [hskip] at h ⊢
      exact hscalar h (fun hchars => skipChars_append hchars more)
  | list _ hskip =>
      rw [hskip] at h ⊢
      cases h
      rfl
  | object _ hskip =>
      rw [hskip] at h ⊢
      cases h
      rfl
  | other _ hskip =>
      rw [hskip] at h
      cases h

theorem skipKey_append {s rest : Bytes} (h : skipKey s = .ok rest) (more : Bytes) :
    skipKey (s ++ more) = .ok (rest ++ more) := by
  unfold skipKey at h ⊢
  split at h
  · cases h
  · rename_i b left hs
    rw [skipBlank_append hs more]
    dsimp only
    split_ifs at h ⊢
    split at h
    · cases h
    · rename_i after hchars
      rw [skipChars_append hchars more]
      exact colon_append h more

theorem skipToContent_append {bracket : Bracket} {s rest : Bytes}
    (h : skipToContent bracket s = .ok rest) (more : Bytes) :
    skipToContent bracket (s ++ more) = .ok (rest ++ more) := by
  cases bracket with
  | list =>
      cases h
      rfl
  | object => exact skipKey_append h more

mutual
theorem skipInside_append {stack : List Bracket} {s rest : Bytes}
    (h : skipInside stack s = .ok rest) (hrest : rest ≠ []) (more : Bytes) :
    skipInside stack (s ++ more) = .ok (rest ++ more) := by
  rw [skipInside] at h
  split at h
  · cases h
  · rename_i b tail hs
    have := length_lt_of_skipBlank hs
    simp only at h
    split at h
    · cases h
    · rename_i left hstart
      have := length_skipStartWith_le hstart
      have hleft : left ≠ [] := ne_nil_of_length_le (length_skipAfter_le h) hrest
      rw [skipInside_scalar (skipBlank_append hs more) (skipStartWith_append hstart hleft more)]
      exact skipAfter_append h hrest more
    · rename_i bracket left hstart
      have := length_skipStartWith_le hstart
      have hleft : left ≠ [] := ne_nil_of_length_le (length_skipOpened_le h) hrest
      rw [skipInside_opened (skipBlank_append hs more) (skipStartWith_append hstart hleft more)]
      exact skipOpened_append h hrest more
termination_by 2 * s.length
decreasing_by all_goals omega

theorem skipOpened_append {bracket : Bracket} {stack : List Bracket} {s rest : Bytes}
    (h : skipOpened bracket stack s = .ok rest) (hrest : rest ≠ []) (more : Bytes) :
    skipOpened bracket stack (s ++ more) = .ok (rest ++ more) := by
  rw [skipOpened] at h
  split at h
  · cases h
  · rename_i b tail hs
    have := length_lt_of_skipBlank hs
    have hlong := skipBlank_append hs more
    simp only at h
    split at h
    · rename_i hclosing
      rw [hclosing] at hlong
      rw [skipOpened_closing hlong]
      exact skipAfter_append h hrest more
    · rename_i hclosing
      split at h
      · cases h
      · rename_i left hcontent
        have : left.length ≤ tail.length + 1 := length_skipToContent_le hcontent
        rw [skipOpened_content hlong hclosing (skipToContent_append hcontent more)]
        exact skipInside_append h hrest more
termination_by 2 * s.length + 1
decreasing_by all_goals omega

theorem skipAfter_append {stack : List Bracket} {s rest : Bytes}
    (h : skipAfter stack s = .ok rest) (hrest : rest ≠ []) (more : Bytes) :
    skipAfter stack (s ++ more) = .ok (rest ++ more) := by
  cases stack with
  | nil =>
      rw [skipAfter_nil] at h ⊢
      cases h
      rfl
  | cons bracket outer =>
      rw [skipAfter] at h
      split at h
      · cases h
      · rename_i b tail hs
        have := length_lt_of_skipBlank hs
        have hlong := skipBlank_append hs more
        simp only at h
        split at h
        · rename_i hcomma
          rw [hcomma] at hlong
          split at h
          · cases h
          · rename_i left hcontent
            have := length_skipToContent_le hcontent
            rw [skipAfter_comma hlong (skipToContent_append hcontent more)]
            exact skipInside_append h hrest more
        · split at h
          · rename_i hclosing
            rw [hclosing] at hlong
            rw [skipAfter_closing hlong]
            exact skipAfter_append h hrest more
          · cases h
termination_by 2 * s.length + 1
decreasing_by all_goals omega
end

theorem skip_append {s rest : Bytes} (h : skip s = .ok rest) (hrest : rest ≠ []) (more : Bytes) :
    skip (s ++ more) = .ok (rest ++ more) :=
  skipInside_append h hrest more

end Reading
end ShapeCheck
