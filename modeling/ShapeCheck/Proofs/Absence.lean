import ShapeCheck.Proofs.Acceptance
import ShapeCheck.Proofs.Conformance

/-!
# Missing members

A member that is missing is judged as undefined, so whether it may be missing is a question
about one value.  The answer can be read off the shape of the field, and it is the same for
a member that is there and undefined.
-/

namespace ShapeCheck

/-!
## Removal
-/

namespace Entries

variable {α : Type}

def remove (name : String) (entries : Entries α) : Entries α :=
  entries.filter (fun e => e.1 ≠ name)

theorem get?_remove (entries : Entries α) (name key : String) :
    get? (remove name entries) key = if key = name then none else get? entries key := by
  induction entries with
  | nil => simp [remove]
  | cons entry rest ih =>
      rw [remove] at ih ⊢
      by_cases hname : entry.1 = name
      · rw [List.filter_cons_of_neg (by simpa using hname), ih, get?_cons, hname]
        by_cases hkey : key = name
        · rw [if_pos hkey, if_pos hkey]
        · rw [if_neg hkey, if_neg hkey, if_neg (Ne.symm hkey)]
      · rw [List.filter_cons_of_pos (by simpa using hname), get?_cons, get?_cons, ih]
        by_cases hkey : entry.1 = key
        · rw [if_pos hkey, if_pos hkey, if_neg (hkey ▸ hname)]
        · rw [if_neg hkey, if_neg hkey]

theorem names_remove_subset_iff {entries : Entries α} {name : String} {declared : List String}
    (h : name ∈ declared) : names (remove name entries) ⊆ declared ↔ names entries ⊆ declared := by
  constructor
  · intro hsub key hkey
    rcases List.mem_map.mp hkey with ⟨entry, hentry, rfl⟩
    by_cases hname : entry.1 = name
    · rw [hname]
      exact h
    · have hkept : entry ∈ remove name entries := List.mem_filter.mpr ⟨hentry, by simpa using hname⟩
      exact hsub (List.mem_map_of_mem hkept)
  · intro hsub
    exact List.Subset.trans (List.map_subset _ (List.filter_subset_self _)) hsub

theorem names_insert_subset_iff {entries : Entries α} {name : String} {declared : List String}
    (content : α) (h : name ∈ declared) :
    names (insert name content entries) ⊆ declared ↔ names entries ⊆ declared := by
  rw [names_insert]
  by_cases hmem : name ∈ names entries
  · rw [if_pos hmem]
  · rw [if_neg hmem, List.append_subset]
    exact and_iff_left (List.cons_subset.mpr ⟨h, List.nil_subset _⟩)

end Entries

namespace Value

variable (members : List (String × Value)) (name key : String)

theorem memberOrUndefined_remove :
    memberOrUndefined (Entries.remove name members) key =
      if key = name then .undefined else memberOrUndefined members key := by
  rw [memberOrUndefined, Entries.get?_remove]
  by_cases h : key = name
  · rw [if_pos h, if_pos h]
    rfl
  · rw [if_neg h, if_neg h]
    rfl

theorem memberOrUndefined_insert_undefined :
    memberOrUndefined (Entries.insert name .undefined members) key =
      if key = name then .undefined else memberOrUndefined members key := by
  by_cases h : key = name
  · rw [if_pos h, h, memberOrUndefined, Entries.get?_insert_self]
    rfl
  · rw [if_neg h, memberOrUndefined, Entries.get?_insert_of_ne members _ (Ne.symm h)]
    rfl

end Value

namespace Shape

/-!
## What admits absence
-/

section Lists

variable {shapes : List Shape} (h : ∀ s ∈ shapes, s.conforms .undefined = s.admitsAbsence)

include h

theorem conformsToSome_undefined :
    conformsToSome shapes .undefined = someAdmitsAbsence shapes := by
  induction shapes with
  | nil => rfl
  | cons s rest ih =>
      rcases List.forall_mem_cons.mp h with ⟨hs, hrest⟩
      rw [conformsToSome, someAdmitsAbsence, hs, ih hrest]

theorem conformsToAll_undefined :
    conformsToAll shapes .undefined = allAdmitAbsence shapes := by
  induction shapes with
  | nil => rfl
  | cons s rest ih =>
      rcases List.forall_mem_cons.mp h with ⟨hs, hrest⟩
      rw [conformsToAll, allAdmitAbsence, hs, ih hrest]

end Lists

theorem conforms_undefined (s : Shape) : s.conforms .undefined = s.admitsAbsence := by
  induction s with
  | literal value => cases value <;> rfl
  | primitive type => cases type <;> rfl
  | any => rfl
  | union members ih => exact conformsToSome_undefined ih
  | intersection members ih => exact conformsToAll_undefined ih
  | tuple elements ih => rfl
  | array element ih => rfl
  | object fields ih => rfl

theorem admits_undefined_iff (f : Field) :
    f.Admits .undefined ↔ f.optional = true ∨ f.shape.admitsAbsence = true := by
  rw [Field.Admits, conforms_undefined]
  exact or_congr_left (and_iff_left rfl)

/-!
## Objects with a member removed
-/

variable {fields : List Field} {members others : List (String × Value)} {f : Field}

theorem conforms_object_congr
    (hnames : Entries.names members ⊆ fieldNames fields ↔
      Entries.names others ⊆ fieldNames fields)
    (hcontent : ∀ key, Value.memberOrUndefined members key = Value.memberOrUndefined others key) :
    (Shape.object fields).conforms (.object members) =
      (Shape.object fields).conforms (.object others) := by
  rw [Bool.eq_iff_iff, conforms_object_iff, conforms_object_iff, hnames]
  simp only [hcontent]

theorem conforms_insert_undefined (hf : f ∈ fields) :
    (Shape.object fields).conforms (.object (Entries.insert f.name .undefined members)) =
      (Shape.object fields).conforms (.object (Entries.remove f.name members)) := by
  have hdeclared : f.name ∈ fieldNames fields := List.mem_map_of_mem hf
  apply conforms_object_congr
  · rw [Entries.names_insert_subset_iff _ hdeclared, Entries.names_remove_subset_iff hdeclared]
  · intro key
    rw [Value.memberOrUndefined_insert_undefined, Value.memberOrUndefined_remove]

theorem conforms_remove_undefined (hf : f ∈ fields)
    (hundefined : Entries.get? members f.name = some .undefined) :
    (Shape.object fields).conforms (.object members) =
      (Shape.object fields).conforms (.object (Entries.remove f.name members)) := by
  have hdeclared : f.name ∈ fieldNames fields := List.mem_map_of_mem hf
  apply conforms_object_congr
  · rw [Entries.names_remove_subset_iff hdeclared]
  · intro key
    rw [Value.memberOrUndefined_remove]
    by_cases hkey : key = f.name
    · rw [if_pos hkey, hkey, Value.memberOrUndefined, hundefined]
      rfl
    · rw [if_neg hkey]

/-- Where names differ, a removal concerns one field only. -/
theorem conforms_remove_iff (hnodup : (fieldNames fields).Nodup) (hf : f ∈ fields)
    (hconforms : (Shape.object fields).conforms (.object members) = true) :
    (Shape.object fields).conforms (.object (Entries.remove f.name members)) = true ↔
      f.Admits .undefined := by
  rw [conforms_object_iff] at hconforms ⊢
  rcases hconforms with ⟨hnames, hfields⟩
  constructor
  · intro h
    have hcleared := h.2 f hf
    rw [Value.memberOrUndefined_remove, if_pos rfl] at hcleared
    exact hcleared
  · intro habsent
    constructor
    · exact (Entries.names_remove_subset_iff (List.mem_map_of_mem hf)).mpr hnames
    · intro g hg
      rw [Value.memberOrUndefined_remove]
      by_cases hname : g.name = f.name
      · rw [if_pos hname, List.inj_on_of_nodup_map hnodup hg hf hname]
        exact habsent
      · rw [if_neg hname]
        exact hfields g hg

/-- From an object that a compiled object shape accepts, the member of a field can be removed
exactly if the field is optional or its shape admits absence.  Whatever the object, a member
of a field that is undefined is as good as none, whether it was so or is made so. -/
theorem missing_accepted_iff {limit : Nat} {c : Check}
    (h : (Shape.object fields).compile limit = .ok c) (hf : f ∈ fields)
    (members : List (String × Value)) :
    (c.bind.test (.object members) = true →
      (c.bind.test (.object (Entries.remove f.name members)) = true ↔
        f.optional = true ∨ f.shape.admitsAbsence = true)) ∧
    c.bind.test (.object (Entries.insert f.name .undefined members)) =
      c.bind.test (.object (Entries.remove f.name members)) ∧
    (Entries.get? members f.name = some .undefined →
      c.bind.test (.object members) =
        c.bind.test (.object (Entries.remove f.name members))) := by
  rcases (compile_givesIff limit _ c).mp h with ⟨⟨_, hsound⟩, rfl⟩
  have hnodup : (fieldNames fields).Nodup :=
    ((isSound_iff_parts _).mp hsound).1.names_nodup fields rfl
  simp only [judgedExactly hsound _]
  refine ⟨?_, conforms_insert_undefined hf, conforms_remove_undefined hf⟩
  intro hconforms
  rw [conforms_remove_iff hnodup hf hconforms, admits_undefined_iff]

/-- Neither field is optional: one shape admits absence through a union in an intersection,
the other does not. -/
theorem missing_accepted_iff_nested :
    let f : Field :=
      ⟨"a", .intersection [.any, .union [.primitive .text, .literal .undefined]], false⟩
    let g : Field := ⟨"b", .primitive .number, false⟩
    let s := Shape.object [f, g]
    let members := [("b", Value.number Double.nan), ("a", .text "x")]
    s.compile 4 = .ok s.image ∧ s.image.bind.test (.object members) = true ∧
      s.image.bind.test (.object (Entries.remove "a" members)) = true ∧
      s.image.bind.test (.object (Entries.insert "a" .undefined members)) = true ∧
      ¬ s.image.bind.test (.object (Entries.remove "b" members)) = true ∧
      ¬ s.image.bind.test (.object [("b", .undefined), ("a", .text "x")]) = true := by
  intro f g s members
  have hs : s.compile 4 = .ok s.image := rfl
  have hmembers : s.image.bind.test (.object members) = true := by decide
  have hf : f ∈ [f, g] := List.mem_cons_self
  have hg : g ∈ [f, g] := List.mem_cons_of_mem f List.mem_cons_self
  have habsent := missing_accepted_iff hs hf members
  have hremoved := (habsent.1 hmembers).mpr (Or.inr rfl)
  have hneeded : ¬ s.image.bind.test (.object (Entries.remove "b" members)) = true := by
    rw [(missing_accepted_iff hs hg members).1 hmembers]
    decide
  refine ⟨hs, hmembers, hremoved, habsent.2.1.trans hremoved, hneeded, ?_⟩
  rw [(missing_accepted_iff hs hg [("b", .undefined), ("a", .text "x")]).2.2 rfl]
  exact hneeded

end Shape
end ShapeCheck
