import ShapeCheck.Proofs.Encoding
import ShapeCheck.Proofs.Misreading
import ShapeCheck.Proofs.ReadShapes

/-!
# Reading and compiling find the same flaws

The invariants of shapes are checked twice, on documents and on shapes.  A document of a
shape can be read exactly when the shape can be compiled, a ceiling apart.  The two passes
look at the name and at the shape of a field in different orders, so of several flaws they
may report different ones.  A flaw that is the only one is reported by both.
-/

namespace ShapeCheck
namespace Shape

def Fault.cause? : Fault → Option Cause
  | .tooDeep _ => none
  | .emptyUnion => some .emptyUnion
  | .duplicateField name => some (.duplicateField name)

/-!
## What the documents of a shape are read as
-/

theorem eq_of_forall₂_of_forall₂ {α β : Type} {R : α → β → Prop} {S : β → α → Prop}
    {as cs : List α} {bs : List β} (h : List.Forall₂ R as bs) (h' : List.Forall₂ S bs cs)
    (heq : ∀ a ∈ as, ∀ b c, R a b → S b c → c = a) : cs = as := by
  induction h generalizing cs with
  | nil =>
      cases h'
      rfl
  | cons hab _ ih =>
      rcases List.forall_mem_cons.mp heq with ⟨hhead, hrest⟩
      cases h' with
      | cons hbc hrest' => rw [hhead _ _ hab hbc, ih hrest' hrest]

theorem HeldBy.eq_of_gives {s t : Shape} {node : Node} (h : s.HeldBy node) (ht : node.Gives t)
    (hparts : ∀ u ∈ s.parts, ∀ j v, u.WrittenAs j → Reads j v → v = u) : t = s := by
  cases h with
  | literal h =>
      cases ht with
      | literal h' =>
          cases h.symm.trans h'
          rfl
  | primitive h =>
      cases ht with
      | primitive h' =>
          cases h.symm.trans h'
          rfl
  | any =>
      cases ht
      rfl
  | union h =>
      cases ht with
      | union _ h' => rw [eq_of_forall₂_of_forall₂ h h' hparts]
  | intersection h =>
      cases ht with
      | intersection h' => rw [eq_of_forall₂_of_forall₂ h h' hparts]
  | tuple h =>
      cases ht with
      | tuple h' => rw [eq_of_forall₂_of_forall₂ h h' hparts]
  | array h =>
      cases ht with
      | array h' => rw [hparts _ List.mem_cons_self _ _ h h']
  | object h =>
      cases ht with
      | object _ h' =>
          rw [eq_of_forall₂_of_forall₂ h h']
          intro f hf raw g hheld hgives
          have hshape := hparts f.shape (List.mem_map_of_mem hf) raw.shape g.shape hheld.shape
            hgives.shape
          cases f
          cases g
          simp only [Field.mk.injEq]
          exact ⟨hgives.name.trans hheld.name.symm, hshape, hgives.optional.trans hheld.optional.symm⟩

theorem eq_of_reads_of_writtenAs {s t : Shape} {j : Json} (h : s.WrittenAs j)
    (ht : Reads j t) : t = s := by
  induction s using inductParts generalizing j t with
  | parts s ih =>
      rcases exists_heldBy_of_writtenAs h with ⟨node, hnode, hheld⟩
      rw [reads_iff_gives hnode] at ht
      apply hheld.eq_of_gives ht
      intro u hu j v hwritten hread
      exact ih u hu hwritten hread

theorem readable_iff_isSound {s : Shape} {j : Json} (h : s.WrittenAs j) :
    Readable j ↔ s.isSound = true := by
  constructor
  · intro hread
    rcases hread with ⟨t, ht⟩
    cases eq_of_reads_of_writtenAs h ht
    exact isSound_of_reads ht
  · intro hsound
    exact ⟨s, reads_of_writtenAs hsound h⟩

/-!
## Where reading fails on a document of a shape
-/

theorem HeldBy.exists_part? {s : Shape} {node : Node} {step : Step} {part : Json}
    (h : s.HeldBy node) (hpart : node.part? step = some part) :
    ∃ t, s.part? step = some t ∧ t.WrittenAs part := by
  cases h with
  | union h =>
      cases step <;> simp only [Node.part?, reduceCtorEq] at hpart
      exact exists_getElem?_of_forall₂ h hpart
  | intersection h =>
      cases step <;> simp only [Node.part?, reduceCtorEq] at hpart
      exact exists_getElem?_of_forall₂ h hpart
  | tuple h =>
      cases step <;> simp only [Node.part?, reduceCtorEq] at hpart
      exact exists_getElem?_of_forall₂ h hpart
  | array h =>
      cases step <;> cases hpart
      exact ⟨_, rfl, h⟩
  | object h =>
      cases step <;> simp only [Node.part?, reduceCtorEq] at hpart
      rcases Option.map_eq_some_iff.mp hpart with ⟨raw, hraw, rfl⟩
      rcases exists_getElem?_of_forall₂ h hraw with ⟨f, hf, hheld⟩
      exact ⟨f.shape, by rw [part?, hf]; rfl, hheld.shape⟩
  | _ => cases step <;> cases hpart

theorem names_eq_of_heldBy {fields : List Field} {raws : List RawField}
    (h : List.Forall₂ FieldHeldBy fields raws) : RawField.names raws = fieldNames fields := by
  induction h with
  | nil => rfl
  | cons hheld _ ih =>
      rw [fieldNames_cons, hheld.name, ← ih]
      rfl

theorem HeldBy.flaw_or_part {s : Shape} {node : Node} {e : Error} (h : s.HeldBy node)
    (hfails : node.Fails e) :
    (∃ site fault, s.Flaw site fault ∧ fault.cause? = some e.cause ∧ site.path = e.path) ∨
      ∃ step t part inner, s.part? step = some t ∧ t.WrittenAs part ∧
        ofJson part = .error inner ∧ e = inner.under step := by
  cases hfails with
  | literal hvalue =>
      cases h with
      | literal hl => cases hl.symm.trans hvalue
  | primitive htype =>
      cases h with
      | primitive hp => cases hp.symm.trans htype
  | emptyUnion =>
      cases h with
      | union hitems =>
          cases hitems
          exact Or.inl ⟨.members [], .emptyUnion, .emptyUnion rfl, rfl, rfl⟩
  | @duplicateField raws k raw hfirst _ _ hseen =>
      cases h with
      | @object fields _ hfields =>
          rcases exists_getElem?_of_forall₂ hfields hfirst.place with ⟨f, hf, hheld⟩
          have hnames : f.name ∈ fieldNames (fields.take k) := by
            rw [RawField.names, List.map_take, ← RawField.names, names_eq_of_heldBy hfields] at hseen
            rw [hheld.name, fieldNames_take]
            exact hseen
          refine Or.inl ⟨.name [] k, .duplicateField f.name, .duplicateField rfl hf hnames, ?_, rfl⟩
          rw [hheld.name]
          rfl
  | part hpart _ _ hinner =>
      rcases h.exists_part? hpart with ⟨t, ht, hwritten⟩
      exact Or.inr ⟨_, t, _, _, ht, hwritten, hinner, rfl⟩

theorem exists_flaw_of_ofJson_eq_error {s : Shape} {j : Json} {cause : Cause} {path : Path}
    (h : s.WrittenAs j) (he : ofJson j = .error ⟨cause, path⟩) :
    ∃ site fault, s.Flaw site fault ∧ fault.cause? = some cause ∧ site.path = path := by
  induction path generalizing s j with
  | nil =>
      rcases exists_heldBy_of_writtenAs h with ⟨node, hnode, hheld⟩
      rcases hheld.flaw_or_part (fails_of_ofJson_eq_error hnode he) with hflaw |
        ⟨_, _, _, _, _, _, _, hunder⟩
      · exact hflaw
      · cases hunder
  | cons step rest ih =>
      rcases exists_heldBy_of_writtenAs h with ⟨node, hnode, hheld⟩
      rcases hheld.flaw_or_part (fails_of_ofJson_eq_error hnode he) with hflaw |
        ⟨_, t, part, inner, ht, hwritten, hinner, hunder⟩
      · exact hflaw
      · cases inner
        cases hunder
        rcases ih hwritten hinner with ⟨site, fault, hflaw, hcause, hpath⟩
        refine ⟨site.under step, fault, hflaw.under ht, hcause, ?_⟩
        rw [Site.path_under, hpath]

/-!
## Agreement
-/

theorem Flaw.fault_unique {s : Shape} {site : Site} {fault other : Fault}
    (h : s.Flaw site fault) (h' : s.Flaw site other) : other = fault := by
  cases h with
  | emptyUnion _ =>
      cases h'
      rfl
  | duplicateField hs hf _ =>
      cases h' with
      | duplicateField hs' hf' _ =>
          cases hs.symm.trans hs'
          cases hf.symm.trans hf'
          rfl

/-- However a shape is written, its document can be read exactly when the shape can be
compiled with enough room, and a flaw that has no other beside it is reported by both, with
the same path. -/
theorem reading_agrees_with_compiling {s : Shape} {limit : Nat} (hfinite : s.isFinite = true)
    (hdepth : s.depth ≤ limit) :
    s.WrittenAs s.toJson ∧ ∀ j, s.WrittenAs j →
      ((∃ t, ofJson j = .ok t) ↔ ∃ c, s.compile limit = .ok c) ∧
      ∀ site fault, s.Flaw site fault → (∀ other found, s.Flaw other found → other = site) →
        s.compile limit = .error ⟨fault, site.path⟩ ∧
        ∃ cause, fault.cause? = some cause ∧ ofJson j = .error ⟨cause, site.path⟩ := by
  refine ⟨writtenAs_toJson hfinite, ?_⟩
  intro j hj
  have hread : (∃ t, ofJson j = .ok t) ↔ s.isSound = true := readable_iff_isSound hj
  have hcompile : (∃ c, s.compile limit = .ok c) ↔ s.isSound = true := by
    rw [(compile_givesIff limit s).exists_iff]
    exact and_iff_right hdepth
  refine ⟨hread.trans hcompile.symm, ?_⟩
  intro site fault hflaw honly
  have hunsound : ¬ s.isSound = true := fun hsound => not_flaw_of_isSound hsound site fault hflaw
  constructor
  · cases he : s.compile limit with
    | ok c => exact absurd (hcompile.mp ⟨c, he⟩) hunsound
    | error e =>
        rcases isFirst_of_lower_eq_error he with ⟨other, hfault, hpath, _⟩
        have hother : s.Flaw other e.fault := hfault.flaw_of_depth_le hdepth
        cases honly other e.fault hother
        cases e
        rw [← hflaw.fault_unique hother, hpath]
  · cases he : ofJson j with
    | ok t => exact absurd (hread.mp ⟨t, he⟩) hunsound
    | error e =>
        cases e with
        | mk cause path =>
            rcases exists_flaw_of_ofJson_eq_error hj he with ⟨other, found, hother, hcause, hpath⟩
            cases honly other found hother
            cases hflaw.fault_unique hother
            exact ⟨cause, hcause, by rw [hpath]⟩

/-- An array of a union that has no members. -/
theorem reading_agrees_with_compiling_union :
    (Shape.array (.union [])).compile 2 = .error ⟨.emptyUnion, [.item]⟩ ∧
      ofJson (Shape.array (.union [])).toJson = .error ⟨.emptyUnion, [.item]⟩ := by
  have hplaces : ∀ path t, (Shape.array (.union [])).at? path = some t →
      t = .array (.union []) ∨ path = [.item] ∧ t = .union [] := by
    intro path t ht
    cases path with
    | nil =>
        cases ht
        exact Or.inl rfl
    | cons step rest =>
        rcases Option.bind_eq_some_iff.mp ht with ⟨u, hu, hrest⟩
        cases step <;> cases hu
        cases rest with
        | nil =>
            cases hrest
            exact Or.inr ⟨rfl, rfl⟩
        | cons step rest =>
            rcases Option.bind_eq_some_iff.mp hrest with ⟨v, hv, _⟩
            cases step <;> cases hv
  have honly : ∀ other found, (Shape.array (.union [])).Flaw other found →
      other = .members [.item] := by
    intro other found h
    cases h with
    | emptyUnion h =>
        rcases hplaces _ _ h with hs | ⟨rfl, _⟩
        · cases hs
        · rfl
    | duplicateField h _ _ =>
        rcases hplaces _ _ h with hs | ⟨_, hs⟩
        · cases hs
        · cases hs
  have hdepth : (Shape.array (.union [])).depth ≤ 2 := Nat.le_refl 2
  rcases reading_agrees_with_compiling rfl hdepth with ⟨hwritten, hagrees⟩
  rcases (hagrees _ hwritten).2 _ _ (.emptyUnion rfl) honly with ⟨hcompile, cause, hcause, hread⟩
  cases hcause
  exact ⟨hcompile, hread⟩

end Shape
end ShapeCheck
