import ShapeCheck.Text.Quoted

/-!
# Where quoted text ends

No character is written as a beginning of what another one is written as, and none
begins with the quote.  So quoted text is found in what starts with it, whatever
follows.
-/

namespace ShapeCheck
namespace Quoted

theorem escape_cases (c : Char) :
    (∃ letter, shortEscape? c = some letter ∧ escape c = ['\\', letter]) ∨
      shortEscape? c = none ∧ c.toNat < 32 ∧
        escape c = ['\\', 'u', '0', '0', hexDigit (c.toNat / 16), hexDigit (c.toNat % 16)] ∨
      shortEscape? c = none ∧ escape c = [c] := by
  cases h : shortEscape? c with
  | some letter => exact Or.inl ⟨letter, rfl, by rw [escape, h]⟩
  | none =>
      right
      by_cases hlt : c.toNat < 32
      · exact Or.inl ⟨rfl, hlt, by simp only [escape, h, if_pos hlt]⟩
      · exact Or.inr ⟨rfl, by simp only [escape, h, if_neg hlt]⟩

theorem le_of_escape_eq_self {c : Char} (h : escape c = [c]) : 32 ≤ c.toNat := by
  rw [escape] at h
  split at h
  · cases h
  · split at h
    · cases h
    · omega

theorem backslash_ne_of_shortEscape?_none {c : Char} (h : shortEscape? c = none) :
    '\\' ≠ c := by
  rintro rfl
  cases h

def shortForms : List (Char × Char) :=
  [('"', '"'), ('\\', '\\'), ('\x08', 'b'), ('\x0c', 'f'), ('\n', 'n'), ('\r', 'r'),
    ('\t', 't')]

theorem mem_shortForms {c letter : Char} (h : shortEscape? c = some letter) :
    (c, letter) ∈ shortForms := by
  unfold shortEscape? at h
  repeat' split at h
  all_goals cases h
  all_goals
    subst c
    decide

theorem shortEscape?_inj {c d letter : Char} (hc : shortEscape? c = some letter)
    (hd : shortEscape? d = some letter) : c = d := by
  have hall : ∀ p ∈ shortForms, ∀ q ∈ shortForms, p.2 = q.2 → p.1 = q.1 := by decide
  exact hall (c, letter) (mem_shortForms hc) (d, letter) (mem_shortForms hd) rfl

theorem shortEscape?_ne_u (c : Char) : shortEscape? c ≠ some 'u' := by
  intro h
  have hall : ∀ p ∈ shortForms, p.2 ≠ 'u' := by decide
  exact hall (c, 'u') (mem_shortForms h) rfl

theorem le_of_mem_escape {c d : Char} (h : d ∈ escape c) : 32 ≤ d.toNat := by
  rcases escape_cases c with ⟨letter, hc, hce⟩ | ⟨_, hlt, hce⟩ | ⟨_, hce⟩
  · have hall : ∀ p ∈ shortForms, 32 ≤ p.2.toNat := by decide
    have hletter := hall (c, letter) (mem_shortForms hc)
    rw [hce] at h
    rcases List.mem_cons.mp h with rfl | h
    · decide
    · rwa [List.mem_singleton.mp h]
  · have hdigit : ∀ n < 16, 32 ≤ (hexDigit n).toNat := by decide
    rw [hce] at h
    simp only [List.mem_cons, List.not_mem_nil, or_false] at h
    rcases h with rfl | rfl | rfl | rfl | rfl | rfl
    · decide
    · decide
    · decide
    · decide
    · exact hdigit _ (by omega)
    · exact hdigit _ (by omega)
  · have hle := le_of_escape_eq_self hce
    rw [hce] at h
    rwa [List.mem_singleton.mp h]

theorem le_of_mem_body {cs : List Char} {d : Char} (h : d ∈ body cs) : 32 ≤ d.toNat := by
  rcases List.mem_flatMap.mp h with ⟨c, _, hd⟩
  exact le_of_mem_escape hd

theorem hexDigit_inj {m n : Nat} (hm : m < 16) (hn : n < 16)
    (h : hexDigit m = hexDigit n) : m = n := by
  have hall : ∀ m < 16, ∀ n < 16, hexDigit m = hexDigit n → m = n := by decide
  exact hall m hm n hn h

theorem escape_split {c d : Char} {u v : List Char}
    (h : escape c ++ u = escape d ++ v) : c = d ∧ u = v := by
  rcases escape_cases c with ⟨letter, hc, hce⟩ | ⟨hc, hclt, hce⟩ | ⟨hc, hce⟩ <;>
    rcases escape_cases d with ⟨letter', hd, hde⟩ | ⟨hd, hdlt, hde⟩ | ⟨hd, hde⟩ <;>
    rw [hce, hde] at h <;> simp only [List.cons_append, List.nil_append] at h
  -- Both short: the letters tell the characters apart.
  · injection h with _ h
    injection h with hletter h
    subst hletter
    exact ⟨shortEscape?_inj hc hd, h⟩
  · injection h with _ h
    injection h with hletter _
    subst hletter
    exact absurd hc (shortEscape?_ne_u c)
  · injection h with hd' _
    exact absurd hd' (backslash_ne_of_shortEscape?_none hd)
  · injection h with _ h
    injection h with hletter _
    subst hletter
    exact absurd hd (shortEscape?_ne_u d)
  -- Both by their number: below 32 it has two digits.
  · injection h with _ h
    injection h with _ h
    injection h with _ h
    injection h with _ h
    injection h with hhigh h
    injection h with hlow h
    have hdiv := hexDigit_inj (by omega) (by omega) hhigh
    have hmod := hexDigit_inj (by omega) (by omega) hlow
    have hcode : c.toNat = d.toNat := by omega
    exact ⟨Char.toNat_inj.mp hcode, h⟩
  · injection h with hd' _
    exact absurd hd' (backslash_ne_of_shortEscape?_none hd)
  · injection h with hc' _
    exact absurd hc'.symm (backslash_ne_of_shortEscape?_none hc)
  · injection h with hc' _
    exact absurd hc'.symm (backslash_ne_of_shortEscape?_none hc)
  · injection h with hcd h
    exact ⟨hcd, h⟩

theorem quote_ne_escape (c : Char) {u v : List Char} : '"' :: u ≠ escape c ++ v := by
  intro h
  rcases escape_cases c with ⟨letter, _, hce⟩ | ⟨_, _, hce⟩ | ⟨hc, hce⟩
  · rw [hce] at h
    injection h with hquote _
    exact absurd hquote (by decide)
  · rw [hce] at h
    injection h with hquote _
    exact absurd hquote (by decide)
  · rw [hce] at h
    injection h with hquote _
    subst hquote
    cases hc

/-- The closing quote is the first one that no character is written with. -/
theorem body_split {cs ds : List Char} {u v : List Char}
    (h : body cs ++ '"' :: u = body ds ++ '"' :: v) : cs = ds ∧ u = v := by
  induction cs generalizing ds with
  | nil =>
      cases ds with
      | nil =>
          injection h with _ h
          exact ⟨rfl, h⟩
      | cons d ds =>
          rw [body_nil, body_cons, List.nil_append, List.append_assoc] at h
          exact absurd h (quote_ne_escape d)
  | cons c cs ih =>
      cases ds with
      | nil =>
          rw [body_nil, body_cons, List.nil_append, List.append_assoc] at h
          exact absurd h.symm (quote_ne_escape c)
      | cons d ds =>
          rw [body_cons, body_cons, List.append_assoc, List.append_assoc] at h
          rcases escape_split h with ⟨hcd, hrest⟩
          rcases ih hrest with ⟨hcs, huv⟩
          exact ⟨by rw [hcd, hcs], huv⟩

end Quoted

theorem toList_quote (text : String) :
    (quote text).toList = '"' :: (Quoted.body text.toList ++ ['"']) := by
  rw [quote, String.toList_ofList, List.cons_append]

theorem quote_split {s t : String} {u v : List Char}
    (h : (quote s).toList ++ u = (quote t).toList ++ v) : s = t ∧ u = v := by
  rw [toList_quote, toList_quote, List.cons_append, List.cons_append, List.append_assoc,
    List.append_assoc] at h
  injection h with _ h
  rcases Quoted.body_split h with ⟨hst, huv⟩
  exact ⟨String.toList_inj.mp hst, huv⟩

end ShapeCheck
