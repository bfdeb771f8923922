import ShapeCheck.Proofs.Acceptance
import ShapeCheck.Proofs.Conformance

/-!
# Reordered shapes

The members of unions and intersections and the fields of objects may stand in any order.
Reordered shapes compile under the same ceilings, though the first violation may be another
one, and what they compile to gives the same verdicts.
-/

namespace ShapeCheck
namespace Shape

/-- The same members or fields in another order. -/
inductive Permutes : Shape → Shape → Prop
  | union {members others : List Shape} (h : members.Perm others) :
      Permutes (.union members) (.union others)
  | intersection {members others : List Shape} (h : members.Perm others) :
      Permutes (.intersection members) (.intersection others)
  | object {fields others : List Field} (h : fields.Perm others) :
      Permutes (.object fields) (.object others)

def ReorderedTo : Shape → Shape → Prop :=
  Relation.ReflTransGen (ChangedBy Permutes)

theorem Permutes.symm {s t : Shape} (h : Permutes s t) : Permutes t s := by
  cases h with
  | union h => exact .union h.symm
  | intersection h => exact .intersection h.symm
  | object h => exact .object h.symm

theorem ChangedBy.symm {R : Shape → Shape → Prop} (hR : ∀ s t, R s t → R t s) {s t : Shape}
    (h : ChangedBy R s t) : ChangedBy R t s := by
  induction h with
  | here h => exact .here (hR _ _ h)
  | union before after _ ih => exact .union before after ih
  | intersection before after _ ih => exact .intersection before after ih
  | tuple before after _ ih => exact .tuple before after ih
  | array _ ih => exact .array ih
  | object before after name optional _ ih => exact .object before after name optional ih

theorem ReorderedTo.symm {s t : Shape} (h : ReorderedTo s t) : ReorderedTo t s := by
  induction h with
  | refl => exact .refl
  | tail _ hchange ih => exact .head (hchange.symm fun _ _ => Permutes.symm) ih

/-!
## Verdicts
-/

theorem Permutes.narrower {s t : Shape} (h : Permutes s t) : Narrower s t := by
  intro v
  cases h with
  | union h =>
      rw [conforms, conforms, conformsToSome_iff, conformsToSome_iff]
      intro hv
      rcases hv with ⟨u, hu, hconforms⟩
      exact ⟨u, h.mem_iff.mp hu, hconforms⟩
  | intersection h =>
      rw [conforms, conforms, conformsToAll_iff, conformsToAll_iff]
      intro hv u hu
      exact hv u (h.mem_iff.mpr hu)
  | object h =>
      intro hv
      rcases exists_members_of_conforms hv with ⟨members, rfl⟩
      rw [conforms_object_iff] at hv ⊢
      rcases hv with ⟨hdeclared, hfields⟩
      constructor
      · exact List.Subset.trans hdeclared (h.map Field.name).subset
      · intro f hf
        exact hfields f (h.mem_iff.mpr hf)

theorem conforms_eq_of_reorderedTo {s t : Shape} (h : ReorderedTo s t) (v : Value) :
    s.conforms v = t.conforms v := by
  have hnarrower : ∀ s t, Permutes s t → Narrower s t := fun _ _ => Permutes.narrower
  rw [Bool.eq_iff_iff]
  constructor
  · exact narrower_of_changes hnarrower h v
  · exact narrower_of_changes hnarrower h.symm v

/-!
## Compilation
-/

def Fits (limit : Nat) (s : Shape) : Prop :=
  s.depth ≤ limit ∧ s.isSound = true

theorem fits_succ_iff {limit : Nat} {s : Shape} :
    Fits (limit + 1) s ↔ s.SoundHere ∧ ∀ t ∈ s.parts, Fits limit t := by
  rw [Fits, depth_le_succ_iff, isSound_iff_parts]
  constructor
  · intro h
    exact ⟨h.2.1, fun t ht => ⟨h.1 t ht, h.2.2 t ht⟩⟩
  · intro h
    exact ⟨fun t ht => (h.2 t ht).1, h.1, fun t ht => (h.2 t ht).2⟩

theorem not_fits_zero (s : Shape) : ¬ Fits 0 s := by
  intro h
  exact Nat.not_succ_le_zero 0 (Nat.le_trans (one_le_depth s) h.1)

/-- The two shapes compile under the same ceilings. -/
def FitAlike (s t : Shape) : Prop :=
  ∀ limit, Fits limit s ↔ Fits limit t

theorem FitAlike.of_parts {s t : Shape} (hhere : s.SoundHere ↔ t.SoundHere)
    (hparts : ∀ limit, (∀ u ∈ s.parts, Fits limit u) ↔ ∀ u ∈ t.parts, Fits limit u) :
    FitAlike s t := by
  intro limit
  cases limit with
  | zero => exact iff_of_false (not_fits_zero s) (not_fits_zero t)
  | succ limit => rw [fits_succ_iff, fits_succ_iff, hhere, hparts limit]

theorem Permutes.fitAlike {s t : Shape} (h : Permutes s t) : FitAlike s t := by
  have hlist : ∀ {shapes others : List Shape}, shapes.Perm others → ∀ limit,
      (∀ u ∈ shapes, Fits limit u) ↔ ∀ u ∈ others, Fits limit u := by
    intro shapes others hperm limit
    exact forall_congr' fun u => imp_congr_left hperm.mem_iff
  cases h with
  | union h =>
      refine .of_parts ?_ (hlist h)
      rw [soundHere_union_iff, soundHere_union_iff, ← List.length_pos_iff, ← List.length_pos_iff,
        h.length_eq]
  | intersection h =>
      refine .of_parts ?_ (hlist h)
      exact iff_of_true (.of_ne (by simp) (by simp)) (.of_ne (by simp) (by simp))
  | object h =>
      refine .of_parts ?_ (hlist (h.map Field.shape))
      rw [soundHere_object_iff, soundHere_object_iff]
      exact (h.map Field.name).nodup_iff

theorem ChangedBy.fitAlike {R : Shape → Shape → Prop} (hR : ∀ s t, R s t → FitAlike s t)
    {s t : Shape} (h : ChangedBy R s t) : FitAlike s t := by
  have hlist : ∀ {s t : Shape} (before after : List Shape), FitAlike s t → ∀ limit,
      (∀ u ∈ before ++ s :: after, Fits limit u) ↔
        ∀ u ∈ before ++ t :: after, Fits limit u := by
    intro s t before after hst limit
    rw [List.forall_mem_append, List.forall_mem_append, List.forall_mem_cons,
      List.forall_mem_cons, hst limit]
  induction h with
  | here h => exact hR _ _ h
  | union before after _ ih =>
      refine .of_parts ?_ (hlist before after ih)
      rw [soundHere_union_iff, soundHere_union_iff]
      exact iff_of_true (by simp) (by simp)
  | intersection before after _ ih =>
      refine .of_parts ?_ (hlist before after ih)
      exact iff_of_true (.of_ne (by simp) (by simp)) (.of_ne (by simp) (by simp))
  | tuple before after _ ih =>
      refine .of_parts ?_ (hlist before after ih)
      exact iff_of_true (.of_ne (by simp) (by simp)) (.of_ne (by simp) (by simp))
  | array _ ih =>
      refine .of_parts ?_ (hlist [] [] ih)
      exact iff_of_true (.of_ne (by simp) (by simp)) (.of_ne (by simp) (by simp))
  | @object before after name optional s t _ ih =>
      have hparts := hlist (before.map Field.shape) (after.map Field.shape) ih
      refine .of_parts ?_ ?_
      · rw [soundHere_object_iff, soundHere_object_iff]
        simp [fieldNames]
      · simpa [parts] using hparts

theorem fitAlike_of_reorderedTo {s t : Shape} (h : ReorderedTo s t) : FitAlike s t := by
  intro limit
  induction h with
  | refl => exact Iff.rfl
  | tail _ hchange ih => exact ih.trans (hchange.fitAlike (fun _ _ => Permutes.fitAlike) limit)

/-- Reordered shapes compile under the same ceilings, and to the same verdicts. -/
theorem compile_of_reorderedTo {s t : Shape} (h : ReorderedTo s t) (limit : Nat) :
    ((∃ c, s.compile limit = .ok c) ↔ ∃ d, t.compile limit = .ok d) ∧
      ∀ c d, s.compile limit = .ok c → t.compile limit = .ok d →
        ∀ v, c.bind.test v = d.bind.test v := by
  constructor
  · rw [(compile_givesIff limit s).exists_iff, (compile_givesIff limit t).exists_iff]
    exact fitAlike_of_reorderedTo h limit
  · intro c d hs ht v
    rcases (compile_givesIff limit s c).mp hs with ⟨⟨_, hsound⟩, rfl⟩
    rcases (compile_givesIff limit t d).mp ht with ⟨⟨_, hsound'⟩, rfl⟩
    rw [judgedExactly hsound, judgedExactly hsound', conforms_eq_of_reorderedTo h]

/-- An object with its fields exchanged, a union in it with its members exchanged, and an
intersection in that with its members exchanged. -/
theorem compile_of_reorderedTo_nested :
    let s := Shape.object
      [⟨"a", .union [.primitive .text, .intersection [.primitive .number, .any]], false⟩,
        ⟨"b", .primitive .boolean, true⟩]
    let t := Shape.object
      [⟨"b", .primitive .boolean, true⟩,
        ⟨"a", .union [.intersection [.any, .primitive .number], .primitive .text], false⟩]
    let v := Value.object [("a", .number Double.nan)]
    ReorderedTo s t ∧ s.compile 4 = .ok s.image ∧ t.compile 4 = .ok t.image ∧
      s.image.bind.test v = true ∧ s.image.bind.test v = t.image.bind.test v := by
  intro s t v
  have hs : s.compile 4 = .ok s.image := rfl
  have ht : t.compile 4 = .ok t.image := rfl
  have h : ReorderedTo s t := by
    refine .head (.here (.object (.swap _ _ []))) ?_
    refine .head (.object [_] [] "a" false (.here (.union (.swap _ _ [])))) ?_
    exact .single (.object [_] [] "a" false
      (.union [] [_] (.here (.intersection (.swap _ _ [])))))
  exact ⟨h, hs, ht, by decide, (compile_of_reorderedTo h 4).2 _ _ hs ht v⟩

end Shape
end ShapeCheck
