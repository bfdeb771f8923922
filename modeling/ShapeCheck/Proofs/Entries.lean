import Mathlib.Data.List.Forall2
import Mathlib.Data.List.Nodup
import ShapeCheck.Entries

/-!
# Collected entries

Collecting pairs whose names all differ changes nothing, and collecting pairs of the
same names with related contents gives entries of the same names with related
contents.
-/

namespace ShapeCheck

theorem exists_of_forall₂_of_mem {α β : Type} {R : α → β → Prop} {as : List α} {bs : List β}
    (h : List.Forall₂ R as bs) {a : α} (ha : a ∈ as) : ∃ b ∈ bs, R a b := by
  induction h with
  | nil => cases ha
  | @cons a' b as bs hab _ ih =>
      rcases List.mem_cons.mp ha with rfl | hmem
      · exact ⟨b, List.mem_cons_self, hab⟩
      · rcases ih hmem with ⟨c, hc, hac⟩
        exact ⟨c, List.mem_cons_of_mem b hc, hac⟩

theorem exists_getElem?_of_forall₂ {α β : Type} {R : α → β → Prop} {as : List α} {bs : List β}
    (h : List.Forall₂ R as bs) {i : Nat} {b : β} (hb : bs[i]? = some b) :
    ∃ a, as[i]? = some a ∧ R a b := by
  induction h generalizing i with
  | nil => cases hb
  | @cons a _ _ _ hab _ ih =>
      cases i with
      | zero =>
          cases hb
          exact ⟨a, rfl, hab⟩
      | succ i => exact ih hb

theorem forall₂_flip_of_mem {α β : Type} {R : α → β → Prop} {S : β → α → Prop} {as : List α}
    {bs : List β} (h : List.Forall₂ R as bs) (himp : ∀ a ∈ as, ∀ b, R a b → S b a) :
    List.Forall₂ S bs as := by
  induction h with
  | nil => exact .nil
  | cons hab _ ih =>
      rcases List.forall_mem_cons.mp himp with ⟨hhead, hrest⟩
      exact .cons (hhead _ hab) (ih hrest)

namespace Entries

variable {α : Type}

theorem has_iff_mem_names {entries : Entries α} {name : String} :
    entries.has name = true ↔ name ∈ entries.names := by
  induction entries with
  | nil => simp [has, names]
  | cons entry rest ih =>
      rw [has] at ih ⊢
      rw [get?_cons]
      by_cases h : entry.1 = name
      · simp [h, names]
      · have h' : name ≠ entry.1 := fun e => h e.symm
        rw [if_neg h, ih]
        simp [names, h']

theorem mem_of_get? {entries : Entries α} {name : String} {content : α}
    (h : entries.get? name = some content) : (name, content) ∈ entries := by
  induction entries with
  | nil => cases h
  | cons entry rest ih =>
      rw [get?_cons] at h
      by_cases hname : entry.1 = name
      · rw [if_pos hname] at h
        cases h
        rw [← hname]
        exact List.mem_cons_self
      · rw [if_neg hname] at h
        exact List.mem_cons_of_mem _ (ih h)

theorem mem_names_of_mem {entries : Entries α} {name : String} {content : α}
    (h : (name, content) ∈ entries) : name ∈ entries.names :=
  List.mem_map_of_mem h

theorem get?_eq_none_iff {entries : Entries α} {name : String} :
    entries.get? name = none ↔ ∀ content, (name, content) ∉ entries := by
  constructor
  · intro h content hmem
    have hhas := has_iff_mem_names.mpr (mem_names_of_mem hmem)
    rw [has, h] at hhas
    cases hhas
  · intro h
    cases hget : entries.get? name with
    | none => rfl
    | some content => exact absurd (mem_of_get? hget) (h content)

theorem get?_eq_none_iff_not_mem_names {entries : Entries α} {name : String} :
    entries.get? name = none ↔ name ∉ entries.names := by
  rw [← has_iff_mem_names, has, Option.not_isSome_iff_eq_none]

theorem get?_of_mem {entries : Entries α} {name : String} {content : α}
    (hdistinct : Distinct entries) (h : (name, content) ∈ entries) :
    entries.get? name = some content := by
  cases hget : entries.get? name with
  | none => exact absurd h (get?_eq_none_iff.mp hget content)
  | some held =>
      have heq := List.inj_on_of_nodup_map hdistinct h (mem_of_get? hget) rfl
      cases heq
      rfl

/-- Where names differ, only the contents under a name matter to look it up, not their
places. -/
theorem get?_eq_of_mem_iff {entries others : Entries α} {name : String}
    (hdistinct : Distinct others)
    (h : ∀ content, (name, content) ∈ entries ↔ (name, content) ∈ others) :
    entries.get? name = others.get? name := by
  cases hget : entries.get? name with
  | none =>
      symm
      rw [get?_eq_none_iff] at hget ⊢
      intro content hmem
      exact hget content ((h content).mpr hmem)
  | some content =>
      have hmem : (name, content) ∈ others := (h content).mp (mem_of_get? hget)
      rw [get?_of_mem hdistinct hmem]

theorem get?_map {β : Type} (f : α → β) (entries : Entries α) (name : String) :
    get? (entries.map (fun e => (e.1, f e.2))) name = (get? entries name).map f := by
  induction entries with
  | nil => rfl
  | cons entry rest ih =>
      rw [List.map_cons, get?_cons, get?_cons, ih]
      by_cases hname : entry.1 = name
      · rw [if_pos hname, if_pos hname]
        rfl
      · rw [if_neg hname, if_neg hname]

theorem Distinct.map {β : Type} {entries : Entries α} (h : Distinct entries) (f : α → β) :
    Distinct (entries.map (fun e => (e.1, f e.2))) := by
  rw [Distinct, names, List.map_map]
  exact h

theorem insert_of_not_mem {entries : Entries α} {name : String} (content : α)
    (h : name ∉ entries.names) :
    entries.insert name content = entries ++ [(name, content)] := by
  induction entries with
  | nil => rfl
  | cons entry rest ih =>
      rw [names, List.map_cons, List.mem_cons, not_or] at h
      rw [insert, if_neg (Ne.symm h.1), ih h.2, List.cons_append]

theorem foldl_insert_of_nodup (pairs : List (String × α)) (entries : Entries α)
    (h : (names (entries ++ pairs)).Nodup) :
    pairs.foldl (fun entries pair => entries.insert pair.1 pair.2) entries =
      entries ++ pairs := by
  induction pairs generalizing entries with
  | nil => exact (List.append_nil entries).symm
  | cons pair rest ih =>
      have hsplit : entries ++ pair :: rest = entries ++ [pair] ++ rest := by simp
      have hfresh : pair.1 ∉ entries.names := by
        intro hmem
        rw [names, List.map_append, List.map_cons] at h
        exact (List.nodup_append.mp h).2.2 pair.1 hmem pair.1 List.mem_cons_self rfl
      rw [List.foldl_cons, insert_of_not_mem pair.2 hfresh, ih, hsplit]
      rwa [← hsplit]

theorem ofList_of_distinct {pairs : List (String × α)} (h : Distinct pairs) :
    ofList pairs = pairs :=
  foldl_insert_of_nodup pairs [] h

theorem mem_of_mem_insert {entries : Entries α} {name : String} {content : α}
    {entry : String × α} (h : entry ∈ entries.insert name content) :
    entry = (name, content) ∨ entry ∈ entries := by
  induction entries with
  | nil => exact Or.inl (List.mem_singleton.mp h)
  | cons held rest ih =>
      rw [insert] at h
      by_cases hname : held.1 = name
      · rw [if_pos hname] at h
        cases List.mem_cons.mp h with
        | inl heq => exact Or.inl heq
        | inr hmem => exact Or.inr (List.mem_cons_of_mem held hmem)
      · rw [if_neg hname] at h
        cases List.mem_cons.mp h with
        | inl heq =>
            rw [heq]
            exact Or.inr List.mem_cons_self
        | inr hmem =>
            cases ih hmem with
            | inl heq => exact Or.inl heq
            | inr hheld => exact Or.inr (List.mem_cons_of_mem held hheld)

theorem mem_of_mem_foldl_insert {pairs : List (String × α)} {entries : Entries α}
    {entry : String × α}
    (h : entry ∈ pairs.foldl (fun entries pair => entries.insert pair.1 pair.2) entries) :
    entry ∈ entries ∨ entry ∈ pairs := by
  induction pairs generalizing entries with
  | nil => exact Or.inl h
  | cons pair rest ih =>
      cases ih h with
      | inr hrest => exact Or.inr (List.mem_cons_of_mem pair hrest)
      | inl hinsert =>
          cases mem_of_mem_insert hinsert with
          | inl heq =>
              rw [heq]
              exact Or.inr List.mem_cons_self
          | inr hentries => exact Or.inl hentries

theorem mem_of_mem_ofList {pairs : List (String × α)} {entry : String × α}
    (h : entry ∈ ofList pairs) : entry ∈ pairs := by
  cases mem_of_mem_foldl_insert h with
  | inl hnil => cases hnil
  | inr hmem => exact hmem

theorem distinct_insert {entries : Entries α} (name : String) (content : α)
    (h : Distinct entries) : Distinct (entries.insert name content) := by
  rw [Distinct, names_insert]
  by_cases hmem : name ∈ entries.names
  · rw [if_pos hmem]
    exact h
  · rw [if_neg hmem, ← List.concat_eq_append]
    exact List.Nodup.concat hmem h

theorem distinct_foldl_insert (pairs : List (String × α)) {entries : Entries α}
    (h : Distinct entries) :
    Distinct (pairs.foldl (fun entries pair => entries.insert pair.1 pair.2) entries) := by
  induction pairs generalizing entries with
  | nil => exact h
  | cons pair rest ih => exact ih (distinct_insert pair.1 pair.2 h)

theorem distinct_ofList (pairs : List (String × α)) : Distinct (ofList pairs) :=
  distinct_foldl_insert pairs List.nodup_nil

/-!
## Related contents
-/

section Related

variable {β : Type} (R : α → β → Prop)

/-- Entries of the same names with contents that are related place by place. -/
def Related (entries : Entries α) (others : Entries β) : Prop :=
  List.Forall₂ (fun e f => e.1 = f.1 ∧ R e.2 f.2) entries others

variable {R}

theorem related_cons_iff {entry : String × α} {other : String × β} {entries : Entries α}
    {others : Entries β} :
    Related R (entry :: entries) (other :: others) ↔
      (entry.1 = other.1 ∧ R entry.2 other.2) ∧ Related R entries others := by
  unfold Related
  rw [List.forall₂_cons]

theorem Related.names_eq {entries : Entries α} {others : Entries β}
    (h : Related R entries others) : entries.names = others.names := by
  induction h with
  | nil => rfl
  | cons hentry _ ih =>
      rw [names, List.map_cons, hentry.1]
      exact congrArg _ ih

theorem Related.insert {entries : Entries α} {others : Entries β} {name : String}
    {content : α} {other : β} (hcontent : R content other)
    (h : Related R entries others) :
    Related R (entries.insert name content) (others.insert name other) := by
  induction h with
  | nil => exact .cons ⟨rfl, hcontent⟩ .nil
  | @cons entry entry' rest rest' hentry hrest ih =>
      rw [Entries.insert, Entries.insert, ← hentry.1]
      by_cases hname : entry.1 = name
      · rw [if_pos hname, if_pos hname]
        exact .cons ⟨rfl, hcontent⟩ hrest
      · rw [if_neg hname, if_neg hname]
        exact .cons ⟨rfl, hentry.2⟩ ih

theorem Related.ofList {pairs : List (String × α)} {others : List (String × β)}
    (h : Related R pairs others) : Related R (ofList pairs) (ofList others) := by
  refine List.rel_foldl ?_ .nil h
  intro entries entries' hentries pair pair' hpair
  show Related R (entries.insert pair.1 pair.2) (entries'.insert pair'.1 pair'.2)
  rw [hpair.1]
  exact hentries.insert hpair.2

end Related

end Entries
end ShapeCheck
