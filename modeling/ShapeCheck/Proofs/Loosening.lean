import ShapeCheck.Proofs.Acceptance
import ShapeCheck.Proofs.Conformance

/-!
# Loosened shapes

A shape is loosened by steps that give up a part of what it asks, in any of its places.
What a compiled shape accepts is accepted after it has been loosened.  The shapes in
between need not compile: the argument is about conformance, which every shape has, and
compilation matters at both ends only.
-/

namespace ShapeCheck

theorem Value.memberOrUndefined_of_not_mem {members : List (String × Value)} {name : String}
    (h : name ∉ Entries.names members) : memberOrUndefined members name = .undefined := by
  rw [memberOrUndefined, Entries.get?_eq_none_iff_not_mem_names.mpr h]
  rfl

namespace Shape

/-- A step that gives up a part of what a shape asks. -/
inductive Loosens : Shape → Shape → Prop
  | any (s : Shape) : Loosens s .any
  | addMembers {members others : List Shape} (h : members.Sublist others) :
      Loosens (.union members) (.union others)
  | removeMembers {members others : List Shape} (h : others.Sublist members) :
      Loosens (.intersection members) (.intersection others)
  | markOptional (before after : List Field) (name : String) (s : Shape) :
      Loosens (.object (before ++ ⟨name, s, false⟩ :: after))
        (.object (before ++ ⟨name, s, true⟩ :: after))
  | addField (before after : List Field) (name : String) (s : Shape)
      (h : name ∉ fieldNames (before ++ after)) :
      Loosens (.object (before ++ after)) (.object (before ++ ⟨name, s, true⟩ :: after))

/-- Any number of loosening steps, each in any place. -/
def LoosenedTo : Shape → Shape → Prop :=
  Relation.ReflTransGen (ChangedBy Loosens)

/-- Objects are closed, so there is nothing yet under the name of a new field. -/
theorem narrower_addField {before after : List Field} {name : String} (s : Shape)
    (h : name ∉ fieldNames (before ++ after)) :
    Narrower (.object (before ++ after)) (.object (before ++ ⟨name, s, true⟩ :: after)) := by
  intro v hv
  rcases exists_members_of_conforms hv with ⟨members, rfl⟩
  rw [conforms_object_iff] at hv ⊢
  rcases hv with ⟨hdeclared, hfields⟩
  have hsub : (before ++ after).Sublist (before ++ ⟨name, s, true⟩ :: after) :=
    List.Sublist.append_left (List.sublist_cons_self _ after) before
  constructor
  · exact List.Subset.trans hdeclared (hsub.map Field.name).subset
  · intro f hf
    have hcases : f = ⟨name, s, true⟩ ∨ f ∈ before ++ after :=
      List.mem_cons.mp (List.perm_middle.mem_iff.mp hf)
    cases hcases with
    | inl hnew =>
        have habsent : name ∉ Entries.names members := fun hmem => h (hdeclared hmem)
        rw [hnew, Value.memberOrUndefined_of_not_mem habsent]
        exact Or.inl ⟨rfl, rfl⟩
    | inr hold => exact hfields f hold

theorem Loosens.narrower {s t : Shape} (h : Loosens s t) : Narrower s t := by
  cases h with
  | any s => exact fun v _ => rfl
  | addMembers h =>
      intro v
      rw [conforms, conforms, conformsToSome_iff, conformsToSome_iff]
      intro hsome
      rcases hsome with ⟨u, hu, hconforms⟩
      exact ⟨u, h.subset hu, hconforms⟩
  | removeMembers h =>
      intro v
      rw [conforms, conforms, conformsToAll_iff, conformsToAll_iff]
      intro hall u hu
      exact hall u (h.subset hu)
  | markOptional before after name s =>
      have hfield := fieldNarrower_optional name s false
      exact narrower_object (forall₂_replace FieldNarrower.refl before after hfield)
  | addField before after name s h => exact narrower_addField s h

/-- Whatever a compiled shape accepts is accepted by a compiled shape that it is loosened to,
under whichever ceilings the two are compiled. -/
theorem accepted_of_loosenedTo {s t : Shape} (h : LoosenedTo s t) {limit ceiling : Nat}
    {c d : Check} (hs : s.compile limit = .ok c) (ht : t.compile ceiling = .ok d) {v : Value}
    (hv : c.bind.test v = true) : d.bind.test v = true := by
  rcases (compile_givesIff limit s c).mp hs with ⟨⟨_, hsound⟩, rfl⟩
  rcases (compile_givesIff ceiling t d).mp ht with ⟨⟨_, hsound'⟩, rfl⟩
  rw [judgedExactly hsound] at hv
  rw [judgedExactly hsound']
  exact narrower_of_changes (fun _ _ => Loosens.narrower) h v hv

/-- A field becomes optional, a field is added, and a union inside gets a member that is empty
at first, so that the shape does not compile before the member is replaced. -/
theorem accepted_of_loosenedTo_stepwise :
    let s := Shape.object
      [⟨"name", .primitive .text, false⟩, ⟨"tags", .array (.union [.primitive .text]), false⟩]
    let t := Shape.object
      [⟨"name", .primitive .text, true⟩, ⟨"note", .primitive .number, true⟩,
        ⟨"tags", .array (.union [.primitive .text, .any]), false⟩]
    let v := Value.object [("tags", .array [.text "a", .text "b"]), ("name", .text "n")]
    LoosenedTo s t ∧ s.compile 4 = .ok s.image ∧ t.compile 5 = .ok t.image ∧
      s.image.bind.test v = true ∧ t.image.bind.test v = true := by
  intro s t v
  have hs : s.compile 4 = .ok s.image := rfl
  have ht : t.compile 5 = .ok t.image := rfl
  have hv : s.image.bind.test v = true := by decide
  have h : LoosenedTo s t := by
    have hmembers : List.Sublist [Shape.primitive .text] [.primitive .text, .union []] :=
      List.sublist_append_left [_] [_]
    refine .head (.here (.markOptional [] [_] "name" _)) ?_
    refine .head (.here (.addField [_] [_] "note" (.primitive .number) (by decide))) ?_
    refine .head (.object [_, _] [] "tags" false (.array (.here (.addMembers hmembers)))) ?_
    exact .single (.object [_, _] [] "tags" false (.array (.union [_] [] (.here (.any _)))))
  exact ⟨h, hs, ht, hv, accepted_of_loosenedTo h hs ht hv⟩

end Shape
end ShapeCheck
