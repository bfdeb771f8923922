import ShapeCheck.Proofs.Nesting
import ShapeCheck.Reading.Document

/-!
# What is read from a text

A reader refuses documents that nest too deep and numbers that do not fit into 64 bits.
What it reads is made of scalars, for which this is checked, and of documents that the
reader for the next level reads.
-/

namespace ShapeCheck
namespace Reading

/-- Some text is read as `a`. -/
def Reader.Yields {α : Type} (r : Reader α) (a : α) : Prop :=
  ∃ s rest, r.run s = .ok (a, rest)

theorem items_yields {α : Type} {item : Reader α} {first : Bool} {i : Nat} {s rest : Bytes}
    {as : List α} (h : items item first i s = .ok (as, rest)) : ∀ a ∈ as, item.Yields a := by
  fun_induction items item first i s generalizing as with
  | case1 => cases h
  | case2 =>
      cases h
      exact List.forall_mem_nil _
  | case3 => cases h
  | case4 => cases h
  | case5 first i s next hnext a left hread _ _ others final hothers ih =>
      cases h
      exact List.forall_mem_cons.mpr ⟨⟨next, left, hread⟩, ih hothers⟩

theorem members_yields {α : Type} {item : Reader α} {first : Bool} {s rest : Bytes}
    {as : List (String × α)} (h : members item first s = .ok (as, rest)) :
    ∀ m ∈ as, item.Yields m.2 := by
  fun_induction members item first s generalizing as with
  | case1 => cases h
  | case2 =>
      cases h
      exact List.forall_mem_nil _
  | case3 => cases h
  | case4 => cases h
  | case5 => cases h
  | case6 first s name next hkey value hcolon a left hread _ _ _ others final hothers ih =>
      cases h
      exact List.forall_mem_cons.mpr ⟨⟨value, left, hread⟩, ih hothers⟩

/-!
## Documents
-/

theorem keepDigits_lt {significand : Nat} (h : significand < Nat.pow 2 64) (digits : List Nat) :
    (keepDigits significand digits).1 < Nat.pow 2 64 := by
  induction digits generalizing significand with
  | nil => exact h
  | cons d rest ih =>
      rw [keepDigits]
      split
      · rename_i hnext
        exact ih hnext
      · exact h

theorem inRange_of_wholeNumber {negative : Bool} {n : Nat} {k : Int} (hn : n < Nat.pow 2 64)
    (h : wholeNumber negative n = .whole k) : Json.Number.InRange k := by
  have hlower : Int.pow 2 63 = 2 ^ 63 := rfl
  have hupper : Int.pow 2 64 = 2 ^ 64 := rfl
  rw [Nat.pow_eq] at hn
  unfold wholeNumber at h
  split at h
  · split at h
    · cases h
    · rename_i hlow
      rw [not_or, Nat.pow_eq] at hlow
      cases h
      constructor <;> omega
  · cases h
    constructor <;> omega

theorem inRange_of_assemble {negative : Bool} {whole : List Nat} {fraction : Option (List Nat)}
    {exponent : Option Int} {k : Int}
    (h : assemble negative whole fraction exponent = .whole k) : Json.Number.InRange k := by
  unfold assemble at h
  dsimp only at h
  split at h
  · exact inRange_of_wholeNumber (keepDigits_lt (by decide) whole) h
  · cases h

theorem fits_of_checkRange {n m : Json.Number} {s rest : Bytes}
    (hwhole : ∀ k, n = .whole k → Json.Number.InRange k)
    (h : checkRange n s = .ok (m, rest)) : m.Fits := by
  cases n with
  | whole k =>
      cases h
      exact hwhole k rfl
  | decimal x =>
      rw [checkRange] at h
      split at h
      · rename_i hfinite
        cases h
        exact hfinite
      · cases h

theorem fits_of_number {negative : Bool} {s rest : Bytes} {n : Json.Number}
    (h : number negative s = .ok (n, rest)) : n.Fits := by
  unfold number at h
  split at h
  · cases h
  · split at h
    · cases h
    · dsimp only at h
      split at h
      · cases h
      · apply fits_of_checkRange _ h
        intro k
        exact inRange_of_assemble

theorem scalar_of_startWith {b : UInt8} {s rest : Bytes} {j : Json}
    (h : startWith b s = .ok (.scalar j, rest)) : j.depth = 0 ∧ j.NumbersFit := by
  have hword : ∀ {letters : List UInt8} {known : Json}, known.depth = 0 ∧ known.NumbersFit →
      wordScalar letters known s = .ok (.scalar j, rest) → j.depth = 0 ∧ j.NumbersFit := by
    intro letters known hknown hread
    unfold wordScalar at hread
    split at hread
    · cases hread
    · cases hread
      exact hknown
  have hnumber : ∀ {negative : Bool} {digits : Bytes},
      numberScalar negative digits = .ok (.scalar j, rest) → j.depth = 0 ∧ j.NumbersFit := by
    intro negative digits hread
    unfold numberScalar at hread
    split at hread
    · cases hread
    · rename_i n left hn
      cases hread
      exact ⟨rfl, List.forall_mem_singleton.mpr (fits_of_number hn)⟩
  unfold startWith at h
  repeat' split at h
  · exact hword (by decide) h
  · exact hword (by decide) h
  · exact hword (by decide) h
  · exact hnumber h
  · exact hnumber h
  · unfold textScalar at h
    split at h
    · cases h
    · cases h
      exact ⟨rfl, List.forall_mem_nil _⟩
  · cases h
  · cases h
  · cases h

theorem scalar_of_start {s rest : Bytes} {j : Json} (h : start s = .ok (.scalar j, rest)) :
    j.depth = 0 ∧ j.NumbersFit := by
  unfold start at h
  split at h
  · cases h
  · exact scalar_of_startWith h

theorem document_cases {inner : Option (Reader Json)} {s rest : Bytes} {j : Json}
    (h : document inner s = .ok (j, rest)) :
    start s = .ok (.scalar j, rest) ∨
      ∃ item, inner = some item ∧ (∀ n, j ≠ .number n) ∧
        (∀ members, j = .object members → Entries.Distinct members) ∧
        ∀ part ∈ j.parts, item.Yields part := by
  unfold document at h
  split at h
  · cases h
  · rename_i hstart
    cases h
    exact Or.inl hstart
  · split at h
    · cases h
    · rename_i item
      split at h
      · cases h
      · rename_i hitems
        cases h
        exact Or.inr ⟨item, rfl, by simp, by simp, items_yields hitems⟩
  · split at h
    · cases h
    · rename_i item
      split at h
      · cases h
      · rename_i hmembers
        cases h
        refine Or.inr ⟨item, rfl, by simp, ?_, ?_⟩
        · intro members hj
          cases hj
          exact Entries.distinct_ofList _
        · intro part hpart
          rcases List.mem_map.mp hpart with ⟨m, hm, rfl⟩
          exact members_yields hmembers m (Entries.mem_of_mem_ofList hm)

theorem bounded_of_value {depth : Nat} {j : Json} (h : (value depth).Yields j) :
    j.depth ≤ depth ∧ j.NumbersFit := by
  induction depth generalizing j with
  | zero =>
      rcases h with ⟨s, rest, hread⟩
      have hdocument : document none s = .ok (j, rest) := hread
      cases document_cases hdocument with
      | inl hstart =>
          rcases scalar_of_start hstart with ⟨hdepth, hfit⟩
          exact ⟨Nat.le_of_eq hdepth, hfit⟩
      | inr hnested =>
          rcases hnested with ⟨item, hitem, _⟩
          cases hitem
  | succ depth ih =>
      rcases h with ⟨s, rest, hread⟩
      have hdocument : document (some (value depth)) s = .ok (j, rest) := hread
      cases document_cases hdocument with
      | inl hstart =>
          rcases scalar_of_start hstart with ⟨hdepth, hfit⟩
          rw [hdepth]
          exact ⟨Nat.zero_le _, hfit⟩
      | inr hnested =>
          rcases hnested with ⟨item, hitem, hnumber, _, hparts⟩
          cases hitem
          constructor
          · apply Json.depth_le_succ_iff.mpr
            intro part hpart
            exact (ih (hparts part hpart)).1
          · apply Json.numbersFit_of_parts hnumber
            intro part hpart
            exact (ih (hparts part hpart)).2

/-- A document that is read gives each name once in an object, even where the text repeats it. -/
theorem namesDiffer_of_value {depth : Nat} {j : Json} (h : (value depth).Yields j) :
    j.namesDiffer = true := by
  induction depth generalizing j with
  | zero => exact Json.namesDiffer_of_depth_eq_zero (Nat.le_zero.mp (bounded_of_value h).1)
  | succ depth ih =>
      rcases h with ⟨s, rest, hread⟩
      have hdocument : document (some (value depth)) s = .ok (j, rest) := hread
      cases document_cases hdocument with
      | inl hstart => exact Json.namesDiffer_of_depth_eq_zero (scalar_of_start hstart).1
      | inr hnested =>
          rcases hnested with ⟨item, hitem, _, hdistinct, hparts⟩
          cases hitem
          apply Json.namesDiffer_iff.mpr
          refine ⟨hdistinct, ?_⟩
          intro part hpart
          exact ih (hparts part hpart)

end Reading
end ShapeCheck
