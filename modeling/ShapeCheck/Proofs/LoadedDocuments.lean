import ShapeCheck.Command.Documents
import ShapeCheck.Proofs.Reading

/-!
# Documents that are loaded

Every document that a check looks at was read from a text, be it that of a file, of a line or
of what a filter made, or is a part of such a document.  So each object in it has each name
once, whatever the tools do.
-/

namespace ShapeCheck

theorem exists_of_map_eq_ok {ε α β : Type} {x : Except ε α} {f : α → β} {b : β}
    (h : x.map f = .ok b) : ∃ a, x = .ok a ∧ f a = b := by
  cases x with
  | error e => cases h
  | ok a =>
      cases h
      exact ⟨a, rfl, rfl⟩

theorem Json.namesDiffer_of_ofText {text : String} {j : Json} (h : ofText text = .ok j) :
    j.namesDiffer = true := by
  rw [ofText] at h
  cases hwhole : Reading.whole (Utf8.encode text) with
  | error e =>
      rw [hwhole] at h
      cases h
  | ok found =>
      rw [hwhole] at h
      cases h
      unfold Reading.whole at hwhole
      split at hwhole
      · cases hwhole
      · rename_i read rest hread
        split at hwhole
        · cases hwhole
          exact Reading.namesDiffer_of_value ⟨_, rest, hread⟩
        · cases hwhole

/-!
## Parts of documents
-/

namespace Pointer

theorem namesDiffer_of_follow {names : List String} {j part : Json} (hj : j.namesDiffer = true)
    (h : follow names j = some part) : part.namesDiffer = true := by
  fun_induction follow names j with
  | case1 =>
      cases h
      exact hj
  | case2 name rest members content hget ih =>
      exact ih ((Json.namesDiffer_iff.mp hj).2 content
        (List.mem_map_of_mem (f := Prod.snd) (Entries.mem_of_get? hget))) h
  | case3 => cases h
  | case4 name rest items item hitem ih =>
      rcases Option.bind_eq_some_iff.mp hitem with ⟨i, _, hi⟩
      exact ih ((Json.namesDiffer_iff.mp hj).2 item (List.mem_of_getElem? hi)) h
  | case5 => cases h
  | case6 => cases h

theorem namesDiffer_of_select {pointer : String} {j part : Json} (hj : j.namesDiffer = true)
    (h : select pointer j = some part) : part.namesDiffer = true := by
  unfold select at h
  split at h
  · cases h
    exact hj
  · exact namesDiffer_of_follow hj h
  · cases h

end Pointer

/-!
## What filters make
-/

theorem Filter.namesDiffer_of_documents {outputs : List (Except String String)}
    {values : List Json} (h : documents outputs = .ok values) :
    ∀ j ∈ values, j.namesDiffer = true := by
  fun_induction documents outputs generalizing values with
  | case1 =>
      cases h
      exact List.forall_mem_nil _
  | case2 => cases h
  | case3 => cases h
  | case4 text rest j hj ih =>
      rcases exists_of_map_eq_ok h with ⟨others, hothers, rfl⟩
      exact List.forall_mem_cons.mpr ⟨Json.namesDiffer_of_ofText hj, ih hothers⟩

theorem Filter.Engine.namesDiffer_of_apply {engine : Engine} {source : String} {input : Json}
    {values : List Json} (h : engine.apply source input = .ok values) :
    ∀ j ∈ values, j.namesDiffer = true := by
  unfold apply at h
  split at h
  · cases h
  · exact Filter.namesDiffer_of_documents h

namespace Command

/-- Each object in the document has each name once. -/
def Document.NamesDiffer (d : Document) : Prop := d.value.namesDiffer = true

/-!
## Files
-/

theorem namesDiffer_of_documentsOfLines {path : String} {number : Nat} {lines : List (List Char)}
    {found : List Document} (h : documentsOfLines path number lines = .ok found) :
    ∀ d ∈ found, d.NamesDiffer := by
  induction lines generalizing number found with
  | nil =>
      cases h
      exact List.forall_mem_nil _
  | cons line rest ih =>
      unfold documentsOfLines at h
      split at h
      · exact ih h
      · dsimp only at h
        split at h
        · cases h
        · rename_i value hvalue
          rcases exists_of_map_eq_ok h with ⟨others, hothers, rfl⟩
          exact List.forall_mem_cons.mpr ⟨Json.namesDiffer_of_ofText hvalue, ih hothers⟩

theorem namesDiffer_of_documentsOfFile {disk : Disk} {lineByLine : Bool} {path : String}
    {found : List Document} (h : documentsOfFile disk lineByLine path = .ok found) :
    ∀ d ∈ found, d.NamesDiffer := by
  unfold documentsOfFile at h
  split at h
  · cases h
  · split at h
    · exact namesDiffer_of_documentsOfLines h
    · split at h
      · cases h
      · rename_i value hvalue
        cases h
        exact List.forall_mem_singleton.mpr (Json.namesDiffer_of_ofText hvalue)

/-!
## Selection
-/

theorem namesDiffer_of_selectPart {pointer : Option String} {d part : Document}
    (hd : d.NamesDiffer) (h : selectPart pointer d = .ok part) : part.NamesDiffer := by
  unfold selectPart at h
  split at h
  · cases h
    exact hd
  · split at h
    · rename_i found hfound
      cases h
      exact Pointer.namesDiffer_of_select hd hfound
    · cases h

theorem namesDiffer_numbered {label : String} {i : Nat} {values : List Json}
    (h : ∀ j ∈ values, j.namesDiffer = true) : ∀ d ∈ numbered label i values, d.NamesDiffer := by
  induction values generalizing i with
  | nil => exact List.forall_mem_nil _
  | cons value rest ih =>
      rcases List.forall_mem_cons.mp h with ⟨hvalue, hrest⟩
      exact List.forall_mem_cons.mpr ⟨hvalue, ih hrest⟩

section Tools

variable {tools : Tools}

theorem namesDiffer_of_applyFilter {filter : Option String} {d : Document} {found : List Document}
    (hd : d.NamesDiffer) (h : applyFilter tools filter d = .ok found) :
    ∀ made ∈ found, made.NamesDiffer := by
  unfold applyFilter at h
  split at h
  · cases h
    exact List.forall_mem_singleton.mpr hd
  · split at h
    · cases h
    · rename_i values hvalues
      cases h
      exact namesDiffer_numbered (Filter.Engine.namesDiffer_of_apply hvalues)

theorem namesDiffer_of_select {options : InputOptions} {documents selected : List Document}
    (hdocuments : ∀ d ∈ documents, d.NamesDiffer)
    (h : select tools options documents = .ok selected) : ∀ d ∈ selected, d.NamesDiffer := by
  fun_induction select tools options documents generalizing selected with
  | case1 =>
      cases h
      exact List.forall_mem_nil _
  | case2 => cases h
  | case3 => cases h
  | case4 d rest part hpart found hfound ih =>
      rcases List.forall_mem_cons.mp hdocuments with ⟨hd, hrest⟩
      rcases exists_of_map_eq_ok h with ⟨others, hothers, rfl⟩
      rw [List.forall_mem_append]
      exact ⟨namesDiffer_of_applyFilter (namesDiffer_of_selectPart hd hpart) hfound,
        ih hrest hothers⟩

theorem namesDiffer_of_documentsOfPaths {disk : Disk} {options : InputOptions}
    {paths : List String} {documents : List Document}
    (h : documentsOfPaths tools disk options paths = .ok documents) :
    ∀ d ∈ documents, d.NamesDiffer := by
  fun_induction documentsOfPaths tools disk options paths generalizing documents with
  | case1 =>
      cases h
      exact List.forall_mem_nil _
  | case2 => cases h
  | case3 => cases h
  | case4 path rest found hfound selected hselected ih =>
      rcases exists_of_map_eq_ok h with ⟨others, hothers, rfl⟩
      rw [List.forall_mem_append]
      exact ⟨namesDiffer_of_select (namesDiffer_of_documentsOfFile hfound) hselected, ih hothers⟩

theorem namesDiffer_of_loadDocuments {disk : Disk} {options : InputOptions}
    {documents : List Document} (h : loadDocuments tools disk options = .ok documents) :
    ∀ d ∈ documents, d.NamesDiffer := by
  unfold loadDocuments at h
  split at h
  · cases h
  · exact namesDiffer_of_documentsOfPaths h

end Tools

end Command
end ShapeCheck
