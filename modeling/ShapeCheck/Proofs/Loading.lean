import ShapeCheck.Manifest.Reader
import ShapeCheck.Proofs.Manifest
import ShapeCheck.Proofs.ReadShapes
import ShapeCheck.Proofs.Reading

/-!
# Loaded shapes compile

Each level of a shape costs a level of its document, so a shape that is read from a text
nests no deeper than documents may, which is below the default ceiling.  The same holds
of every shape in a manifest: a record is built from what its slots store.
-/

namespace ShapeCheck

/-- A sound shape with finite number literals that is at most `n` deep. -/
structure Shape.WellFormedWithin (n : Nat) (s : Shape) : Prop where
  sound : s.isSound = true
  finite : ∀ path x, s.at? path = some (.literal (.number x)) → x.isFinite = true
  depth_le : s.depth ≤ n

namespace Shape.WellFormedWithin

variable {n : Nat} {s : Shape} (h : s.WellFormedWithin n)

include h

theorem mono {m : Nat} (hm : n ≤ m) : s.WellFormedWithin m :=
  ⟨h.sound, h.finite, Nat.le_trans h.depth_le hm⟩

theorem exists_compile {limit : Nat} (hlimit : n ≤ limit) : ∃ c, s.compile limit = .ok c := by
  apply (compile_givesIff limit s).exists_iff.mpr
  exact ⟨Nat.le_trans h.depth_le hlimit, h.sound⟩

end Shape.WellFormedWithin

namespace Reading

/-!
## Readers made from readers
-/

theorem exists_of_map_yields {α β : Type} {f : α → β} {r : Reader α} {b : β}
    (h : (r.map f).Yields b) : ∃ a, r.Yields a ∧ f a = b := by
  rcases h with ⟨s, rest, hread⟩
  simp only [Reader.map] at hread
  split at hread
  · cases hread
  · rename_i a left ha
    cases hread
    exact ⟨a, ⟨s, _, ha⟩, rfl⟩

theorem yields_of_optional_yields {α : Type} {inner : Reader α} {a : α}
    (h : (optional inner).Yields (some a)) : inner.Yields a := by
  rcases h with ⟨s, rest, hread⟩
  cases hinner : inner.run s with
  | error e =>
      simp only [optional, optionalRun, hinner] at hread
      repeat' split at hread
      all_goals cases hread
  | ok read =>
      simp only [optional, optionalRun, hinner] at hread
      repeat' split at hread
      all_goals cases hread
      all_goals exact ⟨s, _, hinner⟩

theorem yields_of_mem_list {α : Type} {item : Nat → Reader α} {depth : Nat} {as : List α}
    (h : (list item depth).Yields as) {a : α} (ha : a ∈ as) :
    ∃ below < depth, (item below).Yields a := by
  rcases h with ⟨s, rest, hread⟩
  simp only [list, listRun] at hread
  split at hread
  · cases hread
  · split at hread
    · cases hread
    · rename_i below
      split at hread
      · cases hread
      · rename_i hitems
        cases hread
        exact ⟨below, Nat.lt_succ_self below, items_yields hitems a ha⟩
  · cases hread

theorem wellFormedWithin_of_shape {depth : Nat} {s : Shape} (h : (shape depth).Yields s) :
    s.WellFormedWithin depth := by
  rcases h with ⟨text, rest, hread⟩
  simp only [shape, shapeRun] at hread
  split at hread
  · cases hread
  · rename_i j left hj
    split at hread
    · cases hread
    · rename_i hshape
      cases hread
      rcases bounded_of_value ⟨text, _, hj⟩ with ⟨hdepth, hfit⟩
      refine ⟨Shape.isSound_of_reads hshape, ?_, ?_⟩
      · intro path x hx
        exact Shape.isFinite_of_reads hfit hshape hx
      · exact Nat.le_trans (Shape.depth_le_of_reads hshape) hdepth

/-!
## Records
-/

namespace RecordForm

variable {σ : Type} {form : RecordForm σ} {below : Nat} {P : σ → Prop}

/-- Whatever is stored in a record keeps a property of it. -/
def Keeps (form : RecordForm σ) (below : Nat) (P : σ → Prop) : Prop :=
  ∀ slot ∈ form.slots, ∀ store, (slot.content below).Yields store →
    ∀ draft, P draft → P (store draft)

variable (hkeeps : form.Keeps below P)

include hkeeps

theorem content_keeps {name : String} {draft next : σ} {s rest : Bytes} (hdraft : P draft)
    (h : form.content below name draft s = .ok (next, rest)) : P next := by
  unfold content at h
  split at h
  · rename_i slot hslot
    split at h
    · cases h
    · rename_i store left hread
      cases h
      exact hkeeps slot (List.mem_of_find?_eq_some hslot) store ⟨s, _, hread⟩ draft hdraft
  · split at h
    · cases h
    · cases h
      exact hdraft

theorem fields_keeps {seen : List String} {draft final : σ} {first : Bool} {s rest : Bytes}
    (hdraft : P draft) (h : form.fields below seen draft first s = .ok (final, rest)) :
    P final := by
  fun_induction fields form below seen draft first s with
  | case1 => cases h
  | case2 => cases h
  | case3 seen draft first s left hkey hmissing =>
      cases h
      exact hdraft
  | case4 => cases h
  | case5 => cases h
  | case6 => cases h
  | case7 seen draft first s name next hkey hdup value hcolon stored left hcontent _ _ _ ih =>
      exact ih (content_keeps hkeeps hdraft hcontent) h

theorem places_keeps {i : Nat} {draft final : σ} {first : Bool} {slots : List (Slot σ)}
    {s rest : Bytes} (hslots : slots ⊆ form.slots) (hdraft : P draft)
    (h : form.places below i draft first slots s = .ok (final, rest)) : P final := by
  induction slots generalizing i draft first s with
  | nil =>
      cases h
      exact hdraft
  | cons slot more ih =>
      rcases List.cons_subset.mp hslots with ⟨hslot, hmore⟩
      rw [places] at h
      split at h
      · cases h
      · split at h
        · cases h
        · exact ih hmore hdraft h
      · rename_i next _
        split at h
        · cases h
        · rename_i store left hread
          exact ih hmore (hkeeps slot hslot store ⟨next, left, hread⟩ draft hdraft) h

end RecordForm

theorem of_read_yields {σ : Type} {form : RecordForm σ} {depth : Nat} {P : σ → Prop}
    (hkeeps : ∀ below < depth, form.Keeps below P) (hblank : P form.blank) {final : σ}
    (h : (form.read depth).Yields final) : P final := by
  rcases h with ⟨s, rest, hread⟩
  simp only [RecordForm.read, RecordForm.readRun] at hread
  split at hread
  · cases hread
  · cases hread
  · split at hread
    · cases hread
    · rename_i below
      split at hread
      · cases hread
      · rename_i hplaces
        split at hread
        · cases hread
        · cases hread
          exact RecordForm.places_keeps (hkeeps below (Nat.lt_succ_self below))
            (List.Subset.refl _) hblank hplaces
  · split at hread
    · cases hread
    · rename_i below
      split at hread
      · cases hread
      · rename_i hfields
        cases hread
        exact RecordForm.fields_keeps (hkeeps below (Nat.lt_succ_self below)) hblank hfields

theorem yields_of_front {α : Type} {reader : Nat → Reader α} {text : Bytes} {a : α}
    (h : front reader text = .ok a) : (reader maxNesting).Yields a := by
  unfold front at h
  split at h
  · cases h
  · rename_i b rest hread
    cases h
    exact ⟨text, rest, hread⟩

end Reading

open Reading

/-!
## Manifests
-/

def Declaration.WellFormedWithin (n : Nat) (d : Declaration) : Prop :=
  ∀ s, d.shape = some s → s.WellFormedWithin n

theorem Declaration.form_keeps {below n : Nat} (hbelow : below ≤ n) :
    Declaration.form.Keeps below (Declaration.WellFormedWithin n) := by
  intro slot hslot store hstore draft hdraft
  rcases List.mem_cons.mp hslot with hname | hrest
  · subst hname
    rcases exists_of_map_yields hstore with ⟨name, _, rfl⟩
    exact hdraft
  · have hshape := List.mem_singleton.mp hrest
    subst hshape
    rcases exists_of_map_yields hstore with ⟨shape, hread, rfl⟩
    intro s hs
    have hsome : shape = some s := hs
    subst hsome
    exact (wellFormedWithin_of_shape (yields_of_optional_yields hread)).mono hbelow

theorem Declaration.wellFormedWithin_of_read {depth : Nat} {d : Declaration}
    (h : (Declaration.form.read depth).Yields d) : d.WellFormedWithin depth := by
  apply of_read_yields _ _ h
  · intro below hbelow
    exact Declaration.form_keeps (Nat.le_of_lt hbelow)
  · intro s hs
    cases hs

def Manifest.WellFormedWithin (n : Nat) (m : Manifest) : Prop :=
  ∀ d ∈ m.declarations, d.WellFormedWithin n

theorem Manifest.form_keeps {below n : Nat} (hbelow : below ≤ n) :
    Manifest.form.Keeps below (Manifest.WellFormedWithin n) := by
  intro slot hslot store hstore draft hdraft
  rcases List.mem_cons.mp hslot with hruntime | hrest
  · subst hruntime
    rcases exists_of_map_yields hstore with ⟨runtime, _, rfl⟩
    exact hdraft
  · have hdeclarations := List.mem_singleton.mp hrest
    subst hdeclarations
    rcases exists_of_map_yields hstore with ⟨declarations, hread, rfl⟩
    intro d hd s hs
    rcases yields_of_mem_list hread hd with ⟨depth, hdepth, hyields⟩
    have hle : depth ≤ n := Nat.le_trans (Nat.le_of_lt hdepth) hbelow
    exact (Declaration.wellFormedWithin_of_read hyields s hs).mono hle

theorem Manifest.wellFormedWithin_of_read {depth : Nat} {m : Manifest}
    (h : (Manifest.form.read depth).Yields m) : m.WellFormedWithin depth := by
  apply of_read_yields _ _ h
  · intro below hbelow
    exact Manifest.form_keeps (Nat.le_of_lt hbelow)
  · intro d hd
    cases hd

/-!
## The default ceiling
-/

theorem maxNesting_le_defaultMaxDepth : maxNesting ≤ defaultMaxDepth := by decide

theorem Manifest.source_of_compile_eq_error {limit n : Nat} {m : Manifest}
    (hm : m.WellFormedWithin n) (hlimit : n ≤ limit) {name : String} {source : CompileError}
    (h : m.compile limit = .error (.declaration name source)) : source = .missingShape := by
  rcases Manifest.compile_eq_error_iff.mp h with ⟨earlier, d, later, hsplit, _, hrefused⟩
  have hd : d ∈ m.declarations := by
    rw [hsplit]
    exact List.mem_append_right earlier List.mem_cons_self
  cases hrefused with
  | missingShape => rfl
  | violation _ _ hshape he =>
      rcases (hm d hd _ hshape).exists_compile hlimit with ⟨c, hc⟩
      rw [hc] at he
      cases he

/-- A shape that is loaded compiles under the default ceiling, and so does every shape of
a manifest that is loaded.  So a declaration of such a manifest can only be refused for a
missing shape. -/
theorem loaded_shapes_compile (bytes : Bytes) (text : String) :
    (∀ s, Shape.ofBytes bytes = .ok s →
      s.WellFormedWithin maxNesting ∧ ∃ c, s.compile defaultMaxDepth = .ok c) ∧
    ∀ m, Manifest.ofBytes bytes = .ok m ∨ Manifest.ofText text = .ok m →
      (∀ d ∈ m.declarations, ∀ s, d.shape = some s →
        s.WellFormedWithin maxNesting ∧ ∃ c, s.compile defaultMaxDepth = .ok c) ∧
      ∀ name source, m.compile defaultMaxDepth = .error (.declaration name source) →
        source = .missingShape := by
  have hshape : ∀ {s : Shape}, s.WellFormedWithin maxNesting →
      s.WellFormedWithin maxNesting ∧ ∃ c, s.compile defaultMaxDepth = .ok c :=
    fun h => ⟨h, h.exists_compile maxNesting_le_defaultMaxDepth⟩
  constructor
  · intro s hs
    exact hshape (wellFormedWithin_of_shape (yields_of_front hs))
  · intro m hload
    have hm : m.WellFormedWithin maxNesting := by
      cases hload with
      | inl hbytes => exact Manifest.wellFormedWithin_of_read (yields_of_front hbytes)
      | inr htext => exact Manifest.wellFormedWithin_of_read (yields_of_front htext)
    constructor
    · intro d hd s hs
      exact hshape (hm d hd s hs)
    · intro name source h
      exact Manifest.source_of_compile_eq_error hm maxNesting_le_defaultMaxDepth h

/-- A declaration as a list and one without a shape. -/
theorem loaded_shapes_compile_lists :
    let text :=
      "\x7b\"declarations\":[[\"A\",[\"array\",[\"any\"]]],\x7b\"name\":\"B\"\x7d]\x7d"
    ∃ m, Manifest.ofText text = .ok m ∧
      m.declarations.map (fun d => (d.name, d.shape.map Shape.depth)) =
        [("A", some 2), ("B", none)] ∧
      ∀ d ∈ m.declarations, ∀ s, d.shape = some s → ∃ c, s.compile defaultMaxDepth = .ok c := by
  intro text
  have hread : (Manifest.ofText text).toOption.map (fun m =>
      m.declarations.map (fun d => (d.name, d.shape.map Shape.depth))) =
        some [("A", some 2), ("B", none)] := by
    decide +kernel
  cases hload : Manifest.ofText text with
  | error report =>
      rw [hload] at hread
      cases hread
  | ok m =>
      rw [hload] at hread
      refine ⟨m, rfl, Option.some.inj hread, ?_⟩
      intro d hd s hs
      exact (((loaded_shapes_compile [] text).2 m (Or.inr hload)).1 d hd s hs).2

end ShapeCheck
