import ShapeCheck.Module

/-!
# Names that declarations give rise to

The first character of an identifier has one upper and one lower case, so the two
names of a declaration are longer than its own by the length of the words added.
-/

namespace ShapeCheck

namespace Identifier

theorem toNat_lt_of_isStart {c : Char} (h : isStart c = true) : c.toNat < 128 := by
  simp only [isStart, Bool.or_eq_true, Bool.and_eq_true, decide_eq_true_eq] at h
  rcases h with ((h | h) | h) | h
  · exact Nat.lt_of_le_of_lt h.2 (by decide)
  · exact Nat.lt_of_le_of_lt h.2 (by decide)
  · rw [h]
    decide
  · rw [h]
    decide

theorem le_of_isRest {c : Char} (h : isRest c = true) : 32 ≤ c.toNat := by
  simp only [isRest, isStart, Bool.or_eq_true, Bool.and_eq_true, decide_eq_true_eq] at h
  rcases h with (((h | h) | h) | h) | h
  · exact Nat.le_trans (by decide) h.1
  · exact Nat.le_trans (by decide) h.1
  · rw [h]
    decide
  · rw [h]
    decide
  · exact Nat.le_trans (by decide) h.1

/-- The case tables move the letters that identifiers start with as usual. -/
theorem cases_of_isStart {c : Char} (h : isStart c = true) :
    upperCase c = [c.toUpper] ∧ lowerCase c = [c.toLower] := by
  have hall : ∀ n < 128, isStart (Char.ofNat n) = true →
      upperCase (Char.ofNat n) = [(Char.ofNat n).toUpper] ∧
        lowerCase (Char.ofNat n) = [(Char.ofNat n).toLower] := by
    decide +kernel
  have hchar := hall c.toNat (toNat_lt_of_isStart h)
  rw [Char.ofNat_toNat] at hchar
  exact hchar h

theorem isStart_cases {c : Char} (h : isStart c = true) :
    isStart c.toUpper = true ∧ isStart c.toLower = true := by
  have hall : ∀ n < 128, isStart (Char.ofNat n) = true →
      isStart (Char.ofNat n).toUpper = true ∧ isStart (Char.ofNat n).toLower = true := by
    decide +kernel
  have hchar := hall c.toNat (toNat_lt_of_isStart h)
  rw [Char.ofNat_toNat] at hchar
  exact hchar h

theorem isRest_of_isStart {c : Char} (h : isStart c = true) : isRest c = true := by
  rw [isRest, h, Bool.true_or]

end Identifier

theorem isIdentifier_iff {name : String} :
    isIdentifier name = true ↔
      ∃ first rest, name.toList = first :: rest ∧ Identifier.isStart first = true ∧
        ∀ c ∈ rest, Identifier.isRest c = true := by
  rw [isIdentifier]
  constructor
  · intro h
    cases hlist : name.toList with
    | nil =>
        rw [hlist] at h
        cases h
    | cons first rest =>
        rw [hlist, Identifier.isIdentifierList, Bool.and_eq_true, List.all_eq_true] at h
        exact ⟨first, rest, rfl, h.1, h.2⟩
  · rintro ⟨first, rest, hlist, hfirst, hrest⟩
    rw [hlist, Identifier.isIdentifierList, Bool.and_eq_true, List.all_eq_true]
    exact ⟨hfirst, hrest⟩

section Names

variable {name : String} {first : Char} {rest : List Char} (hlist : name.toList = first :: rest)
  (hfirst : Identifier.isStart first = true)

include hlist hfirst

theorem toList_functionName :
    (functionName name).toList = "validate".toList ++ first.toUpper :: rest := by
  rw [functionName, mapFirst, hlist]
  simp [(Identifier.cases_of_isStart hfirst).1]

theorem toList_schemaName :
    (schemaName name).toList = first.toLower :: rest ++ "Schema".toList := by
  rw [schemaName, mapFirst, hlist]
  simp [(Identifier.cases_of_isStart hfirst).2]

end Names

theorem isIdentifier_functionName {name : String} (h : isIdentifier name = true) :
    isIdentifier (functionName name) = true := by
  rcases isIdentifier_iff.mp h with ⟨first, rest, hlist, hfirst, hrest⟩
  refine isIdentifier_iff.mpr ⟨'v', "alidate".toList ++ first.toUpper :: rest, ?_, by decide, ?_⟩
  · rw [toList_functionName hlist hfirst]
    rfl
  · have hword : "alidate".toList.all Identifier.isRest = true := by decide
    rw [List.forall_mem_append, List.forall_mem_cons]
    exact ⟨List.all_eq_true.mp hword,
      Identifier.isRest_of_isStart (Identifier.isStart_cases hfirst).1, hrest⟩

theorem isIdentifier_schemaName {name : String} (h : isIdentifier name = true) :
    isIdentifier (schemaName name) = true := by
  rcases isIdentifier_iff.mp h with ⟨first, rest, hlist, hfirst, hrest⟩
  refine isIdentifier_iff.mpr ⟨first.toLower, rest ++ "Schema".toList, ?_,
    (Identifier.isStart_cases hfirst).2, ?_⟩
  · rw [toList_schemaName hlist hfirst, List.cons_append]
  · have hword : "Schema".toList.all Identifier.isRest = true := by decide
    rw [List.forall_mem_append]
    exact ⟨hrest, List.all_eq_true.mp hword⟩

theorem functionName_ne_schemaName {name : String} (h : isIdentifier name = true) :
    functionName name ≠ schemaName name := by
  rcases isIdentifier_iff.mp h with ⟨first, rest, hlist, hfirst, _⟩
  intro heq
  have hlists : (functionName name).toList = (schemaName name).toList := by rw [heq]
  rw [toList_functionName hlist hfirst, toList_schemaName hlist hfirst] at hlists
  have hlength := congrArg List.length hlists
  simp at hlength
  omega

end ShapeCheck
