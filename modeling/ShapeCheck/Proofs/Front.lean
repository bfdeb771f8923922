import ShapeCheck.Proofs.Loading
import ShapeCheck.Proofs.LongerText.Document

/-!
# Loading looks at the front of a text

Shapes are lists or objects and so are manifests, so both end at a closing bracket.  What
follows that bracket is never looked at, be it text or bytes of any other kind.
-/

namespace ShapeCheck
namespace Reading

variable {α β : Type}

/-!
## Readers made from readers
-/

theorem steady_map {r : Reader α} (f : α → β) (h : Steady r.run) : Steady (r.map f).run := by
  intro s rest b hread hrest more
  simp only [Reader.map] at hread ⊢
  split at hread
  · cases hread
  · rename_i a left hr
    cases hread
    rw [h hr hrest more]

theorem steady_string : Steady string.run := by
  intro s rest t h hrest more
  have hread : stringRun s = .ok (t, rest) := h
  show stringRun (s ++ more) = .ok (t, rest ++ more)
  unfold stringRun at hread ⊢
  split at hread
  · cases hread
  · rename_i hstart
    cases hread
    rw [start_append hstart (Or.inl hrest) more]
  · cases hread

/-- Null and what the inner reader reads are told apart by the first byte that is no
blank, so there has to be one. -/
theorem steady_optional {inner : Reader α} (h : Steady inner.run)
    (hblank : ∀ s r, skipBlank s = [] → inner.run s ≠ .ok r) : Steady (optional inner).run := by
  intro s rest a hread hrest more
  have hrun : optionalRun inner s = .ok (a, rest) := hread
  show optionalRun inner (s ++ more) = .ok (a, rest ++ more)
  unfold optionalRun at hrun ⊢
  dsimp only at hrun ⊢
  cases hs : skipBlank s with
  | nil =>
      rw [hs] at hrun
      dsimp only at hrun
      split at hrun
      · cases hrun
      · rename_i hinner
        exact absurd hinner (hblank s _ hs)
  | cons b tail =>
      rw [hs] at hrun
      rw [skipBlank_append hs more]
      dsimp only at hrun ⊢
      split at hrun
      · rename_i hb
        rw [if_pos hb]
        split at hrun
        · cases hrun
        · rename_i left hword
          cases hrun
          rw [word_append hword more]
      · rename_i hb
        rw [if_neg hb]
        split at hrun
        · cases hrun
        · rename_i hinner
          cases hrun
          rw [h hinner hrest more]

theorem closed_list {item : Nat → Reader α} (h : ∀ below, Steady (item below).run) (depth : Nat) :
    Closed (list item depth).run := by
  intro s rest as hread more
  have hrun : listRun item depth s = .ok (as, rest) := hread
  show listRun item depth (s ++ more) = .ok (as, rest ++ more)
  unfold listRun at hrun ⊢
  split at hrun
  · cases hrun
  · rename_i left hstart
    rw [start_append hstart (Or.inr (by simp)) more]
    dsimp only
    split at hrun
    · cases hrun
    · rename_i below
      split at hrun
      · cases hrun
      · rename_i final hitems
        cases hrun
        rcases closing_of_items hitems with ⟨after, rfl⟩
        rw [items_closed (h below) true 0 hitems more]
        rfl
  · cases hrun

theorem closed_shape (depth : Nat) : Closed (shape depth).run := by
  intro s rest a hread more
  have hrun : shapeRun depth s = .ok (a, rest) := hread
  show shapeRun depth (s ++ more) = .ok (a, rest ++ more)
  unfold shapeRun at hrun ⊢
  split at hrun
  · cases hrun
  · rename_i j left hvalue
    split at hrun
    · cases hrun
    · rename_i hshape
      cases hrun
      have hnested : j.depth ≠ 0 := Nat.ne_of_gt (Shape.depth_pos_of_reads hshape)
      rw [value_append hvalue (Or.inr hnested) more]
      simp only [hshape]

theorem shape_run_ne_ok {depth : Nat} {s : Bytes} (h : skipBlank s = []) (r : Shape × Bytes) :
    (shape depth).run s ≠ .ok r := by
  have hstart : start s = .error (.broken .endOfValue []) := by
    rw [start, h]
  have hvalue : (value depth).run s = .error (.broken .endOfValue []) := by
    cases depth with
    | zero => simp [value, document, hstart]
    | succ depth => simp [value, document, hstart]
  simp [shape, shapeRun, hvalue]

/-!
## Records
-/

namespace RecordForm

variable {σ : Type} {form : RecordForm σ} {below : Nat}

theorem closing_of_fields {seen : List String} {draft final : σ} {first : Bool} {s rest : Bytes}
    (h : form.fields below seen draft first s = .ok (final, rest)) :
    ∃ after, rest = 0x7D :: after := by
  fun_induction fields form below seen draft first s with
  | case1 => cases h
  | case2 => cases h
  | case3 seen draft first s left hkey hmissing =>
      cases h
      exact closing_of_memberKey hkey
  | case4 => cases h
  | case5 => cases h
  | case6 => cases h
  | case7 seen draft first s name next hkey hnew value hcolon stored left hcontent _ _ _ ih =>
      exact ih h

theorem ne_nil_of_fields {seen : List String} {draft final : σ} {first : Bool} {s rest : Bytes}
    (h : form.fields below seen draft first s = .ok (final, rest)) : s ≠ [] := by
  rcases closing_of_fields h with ⟨after, rfl⟩
  exact ne_nil_of_length_le (length_fields_le h) (by simp)

theorem closeList_append {s rest : Bytes} (h : closeList s = .ok rest) (more : Bytes) :
    closeList (s ++ more) = .ok (rest ++ more) := by
  unfold closeList at h ⊢
  split at h
  · cases h
  · rename_i b left hs
    rw [skipBlank_append hs more]
    dsimp only
    split at h
    · rename_i hb
      cases h
      rw [if_pos hb]
    · repeat' split at h
      all_goals cases h

theorem ne_nil_of_closeList {s rest : Bytes} (h : closeList s = .ok rest) : s ≠ [] := by
  rintro rfl
  cases h

variable (hslots : ∀ slot ∈ form.slots, Steady (slot.content below).run)

include hslots

theorem content_steady (name : String) (draft : σ) : Steady (form.content below name draft) := by
  intro s rest stored h hrest more
  unfold content at h ⊢
  split at h
  · rename_i slot hslot
    split at h
    · cases h
    · rename_i store left hread
      cases h
      rw [hslots slot (List.mem_of_find?_eq_some hslot) hread hrest more]
  · split at h
    · cases h
    · rename_i left hskip
      cases h
      rw [skip_append hskip hrest more]

theorem fields_closed (seen : List String) (draft : σ) (first : Bool) :
    Closed (form.fields below seen draft first) := by
  intro s rest final h more
  fun_induction fields form below seen draft first s with
  | case1 => cases h
  | case2 => cases h
  | case3 seen draft first s left hkey hmissing =>
      cases h
      exact fields_done (memberKey_append hkey more) hmissing
  | case4 => cases h
  | case5 => cases h
  | case6 => cases h
  | case7 seen draft first s name next hkey hnew value hcolon stored left hcontent _ _ _ ih =>
      have hlong := content_steady hslots name draft hcontent (ne_nil_of_fields h) more
      rw [fields_more (memberKey_append hkey more) hnew (colon_append hcolon more) hlong]
      exact ih h

theorem places_steady {slots : List (Slot σ)} (hsub : slots ⊆ form.slots) (i : Nat) (draft : σ)
    (first : Bool) : Steady (form.places below i draft first slots) := by
  intro s rest final h hrest more
  induction slots generalizing i draft first s with
  | nil =>
      cases h
      rfl
  | cons slot others ih =>
      rcases List.cons_subset.mp hsub with ⟨hslot, hothers⟩
      rw [places] at h ⊢
      split at h
      · cases h
      · rename_i left hnext
        rw [nextItem_append hnext more]
        dsimp only [Next.longer]
        split at h
        · cases h
        · rename_i hrequired
          rw [if_neg hrequired]
          exact ih hothers _ _ _ h
      · rename_i left hnext
        rw [nextItem_append hnext more]
        dsimp only [Next.longer]
        split at h
        · cases h
        · rename_i store after hread
          have hafter : after ≠ [] := ne_nil_of_length_le (length_places_le h) hrest
          rw [hslots slot hslot hread hafter more]
          exact ih hothers _ _ _ h

end RecordForm

/-- A record is an object or a list, so it shows its own end. -/
theorem closed_read {σ : Type} {form : RecordForm σ}
    (hslots : ∀ below, ∀ slot ∈ form.slots, Steady (slot.content below).run) (depth : Nat) :
    Closed (form.read depth).run := by
  intro s rest final hread more
  have hrun : form.readRun depth s = .ok (final, rest) := hread
  show form.readRun depth (s ++ more) = .ok (final, rest ++ more)
  unfold RecordForm.readRun at hrun ⊢
  split at hrun
  · cases hrun
  · cases hrun
  · rename_i left hstart
    rw [start_append hstart (Or.inr (by simp)) more]
    dsimp only
    split at hrun
    · cases hrun
    · rename_i below
      split at hrun
      · cases hrun
      · rename_i after hplaces
        split at hrun
        · cases hrun
        · rename_i hclose
          cases hrun
          have hafter := RecordForm.ne_nil_of_closeList hclose
          rw [RecordForm.places_steady (hslots below) (List.Subset.refl _) 0 _ true hplaces hafter
            more]
          dsimp only
          rw [RecordForm.closeList_append hclose more]
  · rename_i left hstart
    rw [start_append hstart (Or.inr (by simp)) more]
    dsimp only
    split at hrun
    · cases hrun
    · rename_i below
      split at hrun
      · cases hrun
      · rename_i after hfields
        cases hrun
        rcases RecordForm.closing_of_fields hfields with ⟨tail, rfl⟩
        rw [RecordForm.fields_closed (hslots below) [] _ true hfields more]
        rfl

theorem front_append {reader : Nat → Reader α} (hclosed : Closed (reader maxNesting).run)
    {bytes : Bytes} {a : α} (h : front reader bytes = .ok a) (more : Bytes) :
    front reader (bytes ++ more) = .ok a := by
  unfold front at h ⊢
  split at h
  · cases h
  · rename_i b rest hread
    cases h
    rw [hclosed hread more]

end Reading

open Reading

/-!
## Manifests and shapes
-/

theorem Declaration.closed_read (depth : Nat) : Closed (Declaration.form.read depth).run := by
  apply Reading.closed_read
  intro below slot hslot
  rcases List.mem_cons.mp hslot with hname | hrest
  · subst hname
    exact steady_map _ steady_string
  · have hshape := List.mem_singleton.mp hrest
    subst hshape
    apply steady_map
    exact steady_optional (closed_shape below).steady (fun s r hs => shape_run_ne_ok hs r)

theorem Manifest.closed_read (depth : Nat) : Closed (Manifest.form.read depth).run := by
  apply Reading.closed_read
  intro below slot hslot
  rcases List.mem_cons.mp hslot with hruntime | hrest
  · subst hruntime
    exact steady_map _ steady_string
  · have hdeclarations := List.mem_singleton.mp hrest
    subst hdeclarations
    apply steady_map
    exact (closed_list (fun d => (Declaration.closed_read d).steady) below).steady

/-- Whatever follows the front of a text that is loaded, the same shape or manifest is
loaded. -/
theorem load_append (bytes more : Bytes) (text suffix : String) :
    (∀ s, Shape.ofBytes bytes = .ok s → Shape.ofBytes (bytes ++ more) = .ok s) ∧
    (∀ m, Manifest.ofBytes bytes = .ok m → Manifest.ofBytes (bytes ++ more) = .ok m) ∧
    (∀ s, Shape.ofBytes (Utf8.encode text) = .ok s →
      Shape.ofBytes (Utf8.encode (text ++ suffix)) = .ok s) ∧
    ∀ m, Manifest.ofText text = .ok m → Manifest.ofText (text ++ suffix) = .ok m := by
  have hshape : ∀ {b c : Bytes} {s : Shape}, Shape.ofBytes b = .ok s →
      Shape.ofBytes (b ++ c) = .ok s :=
    fun h => front_append (closed_shape maxNesting) h _
  have hmanifest : ∀ {b c : Bytes} {m : Manifest}, Manifest.ofBytes b = .ok m →
      Manifest.ofBytes (b ++ c) = .ok m :=
    fun h => front_append (Manifest.closed_read maxNesting) h _
  refine ⟨fun s h => hshape h, fun m h => hmanifest h, ?_, ?_⟩
  · intro s h
    rw [Utf8.encode_append]
    exact hshape h
  · intro m h
    rw [Manifest.ofText, Utf8.encode_append]
    exact hmanifest h

/-- A digit that would lengthen a number and a byte that is no text follow a shape, and
bytes and brackets follow a manifest. -/
theorem load_append_junk :
    let shape := Utf8.encode "[\"literal\",1]"
    let manifest := "\x7b\"declarations\":[[\"A\",null]]\x7d"
    ∃ s m, Shape.ofBytes shape = .ok s ∧ Manifest.ofText manifest = .ok m ∧
      Shape.ofBytes (shape ++ [0x32, 0xFF]) = .ok s ∧
      Manifest.ofBytes (Utf8.encode manifest ++ [0xFF]) = .ok m ∧
      Manifest.ofText (manifest ++ "]2") = .ok m := by
  intro shape manifest
  have hshape : (Shape.ofBytes shape).toOption.isSome = true := by decide +kernel
  have hmanifest : (Manifest.ofText manifest).toOption.isSome = true := by decide +kernel
  cases hs : Shape.ofBytes shape with
  | error report =>
      rw [hs] at hshape
      cases hshape
  | ok s =>
      cases hm : Manifest.ofText manifest with
      | error report =>
          rw [hm] at hmanifest
          cases hmanifest
      | ok m =>
          refine ⟨s, m, rfl, rfl, ?_, ?_, ?_⟩
          · exact (load_append shape [0x32, 0xFF] manifest "]2").1 s hs
          · exact (load_append (Utf8.encode manifest) [0xFF] manifest "]2").2.1 m hm
          · exact (load_append shape [0x32, 0xFF] manifest "]2").2.2.2 m hm

end ShapeCheck
