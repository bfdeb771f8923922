import ShapeCheck.Manifest.Reader
import ShapeCheck.Proofs.CompactRecord

/-!
# Manifests in compact text

A manifest is read member by member, and a shape in it only when the reader comes to it.
The outcome is the one that decoding each shape as a document by itself gives: all
declarations with their shapes, or the first shape that is refused and its path.
-/

namespace ShapeCheck

open Reading

namespace Json

/-- A declaration gives a shape, which is not null. -/
def GivesShape (item shape : Json) : Prop := item.member? "shape" = some shape ∧ shape ≠ .null

def ShapeAccepted (item : Json) : Prop :=
  ∀ shape, item.GivesShape shape → ∃ s, Shape.ofJson shape = .ok s

structure Declares (item : Json) (d : Declaration) : Prop where
  name : item.member? "name" = some (.text d.name)
  absent : (∀ shape, ¬ item.GivesShape shape) → d.shape = none
  given : ∀ shape, item.GivesShape shape → ∃ s, d.shape = some s ∧ Shape.ofJson shape = .ok s

/-- The form of a manifest whose shapes are not looked at. -/
structure ListsDeclarations (j : Json) (items : List Json) : Prop where
  runtime : ∀ r, j.member? "runtime" = some r → ∃ t, r = .text t
  declarations : j.member? "declarations" = some (.array items)
  named : ∀ item ∈ items, ∃ t, item.member? "name" = some (.text t)

/-- The manifest that a document with these declarations stands for. -/
structure Describes (j : Json) (items : List Json) (m : Manifest) : Prop where
  runtime : ∀ t, j.member? "runtime" = some (.text t) → m.runtime = t
  noRuntime : j.member? "runtime" = none → m.runtime = defaultRuntime
  declarations : List.Forall₂ Declares items m.declarations

theorem exists_members_of_member? {j content : Json} {name : String}
    (h : j.member? name = some content) :
    ∃ members, j = .object members ∧ Entries.get? members name = some content := by
  cases j with
  | object members => exact ⟨members, rfl, h⟩
  | _ => cases h

theorem Declares.shapeAccepted {item : Json} {d : Declaration} (h : item.Declares d) :
    item.ShapeAccepted := by
  intro shape hgives
  rcases h.given shape hgives with ⟨s, -, hs⟩
  exact ⟨s, hs⟩

theorem declares_or_refused {item : Json} {t : String} (hname : item.member? "name" = some (.text t)) :
    (∃ d, item.Declares d) ∨ ∃ shape e, item.GivesShape shape ∧ Shape.ofJson shape = .error e := by
  by_cases hgives : ∃ shape, item.GivesShape shape
  · rcases hgives with ⟨shape, hgives⟩
    cases hread : Shape.ofJson shape with
    | error e => exact Or.inr ⟨shape, e, hgives, hread⟩
    | ok s =>
        refine Or.inl ⟨⟨t, some s⟩, hname, fun hnone => absurd hgives (hnone shape), ?_⟩
        intro other hother
        have heq : other = shape := Option.some.inj (hother.1.symm.trans hgives.1)
        exact ⟨s, rfl, heq ▸ hread⟩
  · refine Or.inl ⟨⟨t, none⟩, hname, fun _ => rfl, ?_⟩
    intro shape hshape
    exact absurd ⟨shape, hshape⟩ hgives

theorem declare_or_first_refused {items : List Json}
    (hnamed : ∀ item ∈ items, ∃ t, item.member? "name" = some (.text t)) :
    (∃ ds, List.Forall₂ Declares items ds) ∨
      ∃ before ds item after shape e, items = before ++ item :: after ∧
        List.Forall₂ Declares before ds ∧ item.GivesShape shape ∧
        Shape.ofJson shape = .error e := by
  induction items with
  | nil => exact Or.inl ⟨[], .nil⟩
  | cons item items ih =>
      rcases List.forall_mem_cons.mp hnamed with ⟨⟨t, hname⟩, hnamed⟩
      rcases declares_or_refused hname with ⟨d, hd⟩ | ⟨shape, e, hgives, hread⟩
      · rcases ih hnamed with ⟨ds, hds⟩ | ⟨before, ds, other, after, shape, e, rfl, hds, hother⟩
        · exact Or.inl ⟨d :: ds, .cons hd hds⟩
        · exact Or.inr ⟨item :: before, d :: ds, other, after, shape, e, rfl, .cons hd hds, hother⟩
      · exact Or.inr ⟨[], [], item, items, shape, e, rfl, .nil, hgives, hread⟩

end Json

/-!
## Declarations
-/

namespace Declaration

variable {ms : List (String × Json)} {below : Nat}

def store (d : Declaration) : String × Json → Declaration → Declaration :=
  RecordForm.storeField "shape" (setShape d.shape) "name" (setName d.name)

theorem slot?_shape : form.slot? "shape" =
    some ⟨"shape", false, fun depth => (optional (Reading.shape depth)).map setShape⟩ := rfl

theorem slot?_name : form.slot? "name" = some ⟨"name", true, fun _ => string.map setName⟩ := rfl

theorem slot?_other {name : String} (hshape : name ≠ "shape") (hname : name ≠ "name") :
    form.slot? name = none := by
  simp [RecordForm.slot?, form, Ne.symm hname, Ne.symm hshape]

theorem stores_other {t : String} (hexact : (Json.object ms).Exact)
    (hname : (Json.object ms).member? "name" = some (.text t)) {m : String × Json} (hm : m ∈ ms)
    (hshape : m.1 ≠ "shape") :
    form.Stores below m (if m.1 = "name" then setName t else id) := by
  refine RecordForm.stores_text_or_unknown hexact slot?_name ?_ hm (slot?_other hshape)
  intro content hcontent
  exact Option.some.inj (hcontent.symm.trans hname)

theorem stores_of_declares {d : Declaration} (hexact : (Json.object ms).Exact)
    (hdepth : (Json.object ms).depth ≤ below + 1) (hd : (Json.object ms).Declares d)
    {m : String × Json} (hm : m ∈ ms) : form.Stores below m (d.store m) := by
  by_cases hshape : m.1 = "shape"
  · rcases m with ⟨name, content⟩
    cases hshape
    have hget : (Json.object ms).member? "shape" = some content :=
      Entries.get?_of_mem (Json.distinct_of_namesDiffer hexact.names) hm
    have hcontent : content.Exact := hexact.member hm
    have hcontentDepth : content.depth ≤ below :=
      Json.depth_le_succ_iff.mp hdepth content (List.mem_map_of_mem hm)
    refine RecordForm.stores_slot slot?_shape (Reader.Takes.map setShape ?_)
    by_cases hnull : content = .null
    · have hnone : d.shape = none := by
        apply hd.absent
        rintro shape ⟨hgiven, hne⟩
        rw [hget, hnull] at hgiven
        exact hne (Option.some.inj hgiven).symm
      rw [hnull, hnone]
      exact optional_takes_null
    · rcases hd.given content ⟨hget, hnull⟩ with ⟨s, hs, hread⟩
      rw [hs]
      exact optional_takes hcontent hnull (shape_takes hcontent hcontentDepth hread)
  · rw [store, RecordForm.storeField, if_neg hshape]
    exact stores_other hexact hd.name hm hshape

theorem foldl_store {d : Declaration} (hd : (Json.object ms).Declares d) :
    ms.foldl (fun draft m => d.store m draft) form.blank = d := by
  have hshape : (ms.foldl (fun draft m => d.store m draft) form.blank).shape = d.shape := by
    refine RecordForm.field_storeField (fun _ => rfl) (fun _ => rfl) ?_
    intro hnone
    refine (hd.absent ?_).symm
    rintro shape ⟨hgiven, -⟩
    cases hnone.symm.trans hgiven
  have hname : (ms.foldl (fun draft m => d.store m draft) form.blank).name = d.name := by
    refine RecordForm.field_storeField_other (by decide) (fun _ => rfl) (fun _ => rfl) ?_
    intro hnone
    cases hnone.symm.trans hd.name
  exact congrArg₂ Declaration.mk hname hshape

theorem required_mem {t : String} (hname : (Json.object ms).member? "name" = some (.text t)) :
    ∀ slot ∈ form.slots, slot.required = true → slot.name ∈ Entries.names ms := by
  have hmem := Entries.mem_names_of_mem (Entries.mem_of_get? hname)
  simp [form, hmem]

theorem read_takes {item : Json} {d : Declaration} {depth : Nat} (hexact : item.Exact)
    (hdepth : item.depth ≤ depth) (hd : item.Declares d) : (form.read depth).Takes item d := by
  rcases Json.exists_members_of_member? hd.name with ⟨ms, rfl, hname⟩
  cases depth with
  | zero => cases hdepth
  | succ below =>
      have htakes := RecordForm.read_takes hexact
        (fun m hm => stores_of_declares hexact hdepth hd hm) (required_mem hd.name)
      rw [foldl_store hd] at htakes
      exact htakes

/-- The shape is the only member that can be refused. -/
theorem read_refuses {item shape : Json} {t : String} {e : Shape.Error} {depth : Nat}
    (hexact : item.Exact) (hdepth : item.depth ≤ depth)
    (hname : item.member? "name" = some (.text t)) (hgives : item.GivesShape shape)
    (hread : Shape.ofJson shape = .error e) :
    (form.read depth).Refuses item [.key "shape"] (.shape e) := by
  rcases Json.exists_members_of_member? hgives.1 with ⟨ms, rfl, hget⟩
  have hmem := Entries.mem_of_get? hget
  cases depth with
  | zero => cases hdepth
  | succ below =>
      have hshapeDepth : shape.depth ≤ below :=
        Json.depth_le_succ_iff.mp hdepth shape (List.mem_map_of_mem hmem)
      refine RecordForm.read_refuses hexact hget
        (fun m hm hne => ⟨_, stores_other hexact hname hm hne⟩) ?_
      apply RecordForm.rejects_slot slot?_shape
      exact (optional_refuses (hexact.member hmem) hgives.2
        (shape_refuses (hexact.member hmem) hshapeDepth hread)).map setShape

end Declaration

/-!
## Manifests
-/

namespace Manifest

variable {ms : List (String × Json)} {items : List Json} {below : Nat}

def store (m : Manifest) : String × Json → Manifest → Manifest :=
  RecordForm.storeField "declarations" (setDeclarations m.declarations) "runtime"
    (setRuntime m.runtime)

theorem slot?_declarations : form.slot? "declarations" =
    some ⟨"declarations", true, fun depth =>
      (Reading.list Declaration.form.read depth).map setDeclarations⟩ := rfl

theorem slot?_runtime : form.slot? "runtime" =
    some ⟨"runtime", false, fun _ => string.map setRuntime⟩ := rfl

theorem slot?_other {name : String} (hdeclarations : name ≠ "declarations")
    (hruntime : name ≠ "runtime") : form.slot? name = none := by
  simp [RecordForm.slot?, form, Ne.symm hdeclarations, Ne.symm hruntime]

theorem stores_other {t : String} (hexact : (Json.object ms).Exact)
    (hruntime : ∀ r, (Json.object ms).member? "runtime" = some r → r = .text t)
    {m : String × Json} (hm : m ∈ ms) (hdeclarations : m.1 ≠ "declarations") :
    form.Stores below m (if m.1 = "runtime" then setRuntime t else id) :=
  RecordForm.stores_text_or_unknown hexact slot?_runtime hruntime hm (slot?_other hdeclarations)

theorem declarations_take {ds : List Declaration} (hexact : (Json.array items).Exact)
    (hdepth : (Json.array items).depth ≤ below) (h : List.Forall₂ Json.Declares items ds) :
    (Reading.list Declaration.form.read below).Takes (.array items) ds := by
  cases below with
  | zero => cases hdepth
  | succ below =>
      refine list_takes hexact ?_
      refine (forall₂_flip_of_mem h ?_).flip
      intro item hitem d hd
      exact Declaration.read_takes (hexact.item hitem)
        (Json.depth_le_succ_iff.mp hdepth item hitem) hd

theorem declarations_refuse {before after : List Json} {item shape : Json}
    {ds : List Declaration} {t : String} {e : Shape.Error}
    (hexact : (Json.array (before ++ item :: after)).Exact)
    (hdepth : (Json.array (before ++ item :: after)).depth ≤ below)
    (hbefore : List.Forall₂ Json.Declares before ds)
    (hname : item.member? "name" = some (.text t)) (hgives : item.GivesShape shape)
    (hread : Shape.ofJson shape = .error e) :
    (Reading.list Declaration.form.read below).Refuses (.array (before ++ item :: after))
      [.index before.length, .key "shape"] (.shape e) := by
  cases below with
  | zero => cases hdepth
  | succ below =>
      have hitemDepth := Json.depth_le_succ_iff.mp hdepth
      have hmem : item ∈ before ++ item :: after :=
        List.mem_append_right _ List.mem_cons_self
      have htakes : List.Forall₂ (Declaration.form.read below).Takes before ds := by
        refine (forall₂_flip_of_mem hbefore ?_).flip
        intro b hb d hd
        have hbmem := List.mem_append_left (item :: after) hb
        exact Declaration.read_takes (hexact.item hbmem) (hitemDepth b hbmem) hd
      exact list_refuses hexact htakes
        (Declaration.read_refuses (hexact.item hmem) (hitemDepth item hmem) hname hgives hread)

theorem foldl_store {m : Manifest}
    (hdeclarations : (Json.object ms).member? "declarations" = some (.array items))
    (hruntime : (Json.object ms).member? "runtime" = none → m.runtime = defaultRuntime) :
    ms.foldl (fun draft member => m.store member draft) form.blank = m := by
  have hfirst : (ms.foldl (fun draft member => m.store member draft) form.blank).declarations =
      m.declarations := by
    refine RecordForm.field_storeField (fun _ => rfl) (fun _ => rfl) ?_
    intro hnone
    cases hnone.symm.trans hdeclarations
  have hsecond : (ms.foldl (fun draft member => m.store member draft) form.blank).runtime =
      m.runtime := by
    refine RecordForm.field_storeField_other (by decide) (fun _ => rfl) (fun _ => rfl) ?_
    intro hnone
    exact (hruntime hnone).symm
  exact congrArg₂ Manifest.mk hsecond hfirst

theorem required_mem (hdeclarations : (Json.object ms).member? "declarations" = some (.array items)) :
    ∀ slot ∈ form.slots, slot.required = true → slot.name ∈ Entries.names ms := by
  have hmem := Entries.mem_names_of_mem (Entries.mem_of_get? hdeclarations)
  simp [form, hmem]

theorem read_takes {j : Json} {m : Manifest} {depth : Nat} (hexact : j.Exact)
    (hdepth : j.depth ≤ depth) (hform : j.ListsDeclarations items) (hm : j.Describes items m) :
    (form.read depth).Takes j m := by
  rcases Json.exists_members_of_member? hform.declarations with ⟨ms, rfl, hget⟩
  cases depth with
  | zero => cases hdepth
  | succ below =>
      have hpartDepth := Json.depth_le_succ_iff.mp hdepth
      have hstores : ∀ member ∈ ms, form.Stores below member (m.store member) := by
        rintro ⟨name, content⟩ hmember
        by_cases hname : name = "declarations"
        · cases hname
          have hcontent : content = .array items := by
            have hheld := Entries.get?_of_mem (Json.distinct_of_namesDiffer hexact.names) hmember
            exact Option.some.inj (hheld.symm.trans hget)
          cases hcontent
          exact RecordForm.stores_slot slot?_declarations
            ((declarations_take (hexact.member hmember)
              (hpartDepth _ (List.mem_map_of_mem hmember)) hm.declarations).map setDeclarations)
        · rw [store, RecordForm.storeField, if_neg hname]
          refine stores_other hexact ?_ hmember hname
          intro r hr
          rcases hform.runtime r hr with ⟨t, rfl⟩
          rw [hm.runtime t hr]
      have htakes := RecordForm.read_takes hexact hstores (required_mem hget)
      rw [foldl_store hget hm.noRuntime] at htakes
      exact htakes

/-- Shapes are all that can be refused, and the first one decides. -/
theorem read_refuses {j item shape : Json} {before after : List Json} {ds : List Declaration}
    {e : Shape.Error} {depth : Nat} (hexact : j.Exact) (hdepth : j.depth ≤ depth)
    (hform : j.ListsDeclarations (before ++ item :: after))
    (hbefore : List.Forall₂ Json.Declares before ds) (hgives : item.GivesShape shape)
    (hread : Shape.ofJson shape = .error e) :
    (form.read depth).Refuses j [.key "declarations", .index before.length, .key "shape"]
      (.shape e) := by
  rcases Json.exists_members_of_member? hform.declarations with ⟨ms, rfl, hget⟩
  have hmem := Entries.mem_of_get? hget
  rcases hform.named item (List.mem_append_right _ List.mem_cons_self) with ⟨t, hname⟩
  -- Whatever the runtime is, it is stored and cannot be refused.
  have hruntime : ∃ t, ∀ r, (Json.object ms).member? "runtime" = some r → r = .text t := by
    cases hr : (Json.object ms).member? "runtime" with
    | none => exact ⟨"", fun r hnone => nomatch hnone⟩
    | some r =>
        rcases hform.runtime r hr with ⟨runtime, rfl⟩
        exact ⟨runtime, fun other hother => (Option.some.inj hother).symm⟩
  rcases hruntime with ⟨runtime, hruntime⟩
  cases depth with
  | zero => cases hdepth
  | succ below =>
      have hpartDepth := Json.depth_le_succ_iff.mp hdepth
      refine RecordForm.read_refuses hexact hget
        (fun m hm hne => ⟨_, stores_other hexact hruntime hm hne⟩) ?_
      apply RecordForm.rejects_slot slot?_declarations
      exact (declarations_refuse (hexact.member hmem) (hpartDepth _ (List.mem_map_of_mem hmem))
        hbefore hname hgives hread).map setDeclarations

end Manifest

theorem exists_describes {j : Json} {items : List Json} {ds : List Declaration}
    (hform : j.ListsDeclarations items) (hds : List.Forall₂ Json.Declares items ds) :
    ∃ m, j.Describes items m := by
  cases hr : j.member? "runtime" with
  | none =>
      refine ⟨⟨defaultRuntime, ds⟩, ?_, fun _ => rfl, hds⟩
      intro t ht
      rw [hr] at ht
      cases ht
  | some r =>
      rcases hform.runtime r hr with ⟨runtime, rfl⟩
      refine ⟨⟨runtime, ds⟩, ?_, ?_, hds⟩
      · intro t ht
        rw [hr] at ht
        cases ht
        rfl
      · intro hnone
        rw [hr] at hnone
        cases hnone

theorem message_of_shape {report : Report} {i : Nat} {e : Shape.Error}
    (hpath : report.path = [.key "declarations", .index i, .key "shape"])
    (hreason : report.reason = .shape e) :
    ∃ place, report.message =
      "at JSON path declarations[" ++ Double.digitText i ++ "].shape → " ++ e.message ++ place := by
  have hreasonText : ∃ place, report.reasonText = e.message ++ place := by
    rw [Report.reasonText, hreason]
    exact ⟨_, rfl⟩
  rcases hreasonText with ⟨place, hreasonText⟩
  have hstart : "at JSON path declarations[" = "at JSON path " ++ ("declarations" ++ "[") := by
    decide
  have hend : "].shape → " = "]" ++ ("." ++ ("shape" ++ " → ")) := by decide
  refine ⟨place, ?_⟩
  show "at JSON path " ++ pathText report.path ++ " → " ++ report.reasonText = _
  rw [hpath, hreasonText]
  simp only [pathText, restText, String.append_assoc, String.append_empty, hstart, hend]

/-- The compact text of a document in the form of a manifest is read as the manifest that
the document stands for.  Otherwise the first shape that is refused is named, with what is
wrong with it. -/
theorem Manifest.ofText_compact_describes {j : Json} {items : List Json}
    (hform : j.ListsDeclarations items) (hexact : j.Exact) (hdepth : j.depth ≤ maxNesting) :
    ((∀ item ∈ items, item.ShapeAccepted) →
      ∃ m, Manifest.ofText j.compact = .ok m ∧ j.Describes items m) ∧
    ((¬ ∀ item ∈ items, item.ShapeAccepted) →
      ∃ before item after shape e report place,
        items = before ++ item :: after ∧ (∀ b ∈ before, b.ShapeAccepted) ∧
        item.GivesShape shape ∧ Shape.ofJson shape = .error e ∧
        Manifest.ofText j.compact = .error report ∧
        report.message = "at JSON path declarations[" ++ Double.digitText before.length ++
          "].shape → " ++ e.message ++ place) := by
  rcases Json.declare_or_first_refused hform.named with
    ⟨ds, hds⟩ | ⟨before, ds, item, after, shape, e, rfl, hds, hgives, hread⟩
  · constructor
    · intro _
      rcases exists_describes hform hds with ⟨m, hm⟩
      exact ⟨m, front_of_takes (Manifest.read_takes hexact hdepth hform hm), hm⟩
    · intro hrefused
      refine absurd ?_ hrefused
      intro item hitem
      rcases exists_of_forall₂_of_mem hds hitem with ⟨d, -, hd⟩
      exact hd.shapeAccepted
  · constructor
    · intro haccepted
      rcases haccepted item (List.mem_append_right _ List.mem_cons_self) shape hgives with ⟨s, hs⟩
      rw [hread] at hs
      cases hs
    · intro _
      rcases front_of_refuses (Manifest.read_refuses hexact hdepth hform hds hgives hread) with
        ⟨report, hreport, hpath, hreason⟩
      rcases message_of_shape hpath hreason with ⟨place, hmessage⟩
      refine ⟨before, item, after, shape, e, report, place, rfl, ?_, hgives, hread, hreport,
        hmessage⟩
      intro b hb
      rcases exists_of_forall₂_of_mem hds hb with ⟨d, -, hd⟩
      exact hd.shapeAccepted

def Json.datedDeclarations : List Json :=
  [.object [("shape", .null), ("name", .text "A")],
    .object [("shape", .object [("kind", .text "date")]), ("name", .text "B")]]

def Json.dated : Json :=
  .object [("note", .array [.ofNat 7]), ("declarations", .array datedDeclarations)]

theorem Manifest.ofText_compact_dated :
    ∃ report place, Manifest.ofText Json.dated.compact = .error report ∧
      report.message =
        "at JSON path declarations[1].shape → unsupported shape at ``: kind `date`" ++ place := by
  have hform : Json.dated.ListsDeclarations Json.datedDeclarations := by
    constructor
    · intro r hr
      cases hr
    · rfl
    · simp only [Json.datedDeclarations, List.forall_mem_cons]
      exact ⟨⟨"A", rfl⟩, ⟨"B", rfl⟩, List.forall_mem_nil _⟩
  have hexact : Json.dated.Exact := ⟨by decide, by decide⟩
  have hdate : Shape.ofJson (.object [("kind", .text "date")]) =
      .error ⟨.unsupported (.kind "date"), []⟩ :=
    Shape.ofJson_of_node_error (by rfl)
  have hrefused : ¬ ∀ item ∈ Json.datedDeclarations, item.ShapeAccepted := by
    intro haccepted
    rcases haccepted _ (List.mem_cons_of_mem _ List.mem_cons_self) _ ⟨rfl, nofun⟩ with ⟨s, hs⟩
    rw [hdate] at hs
    cases hs
  rcases (Manifest.ofText_compact_describes hform hexact (by decide)).2 hrefused with
    ⟨before, item, after, shape, e, report, place, hsplit, hbefore, hgives, hread, hreport, hmessage⟩
  refine ⟨report, place, hreport, ?_⟩
  rcases before with _ | ⟨first, _ | ⟨second, more⟩⟩
  · cases hsplit
    cases hgives.1
    exact absurd rfl hgives.2
  · cases hsplit
    cases hgives.1
    cases hread.symm.trans hdate
    have htext : "at JSON path declarations[" ++ Double.digitText 1 ++ "].shape → " ++
        Shape.Error.message ⟨.unsupported (.kind "date"), []⟩ =
          "at JSON path declarations[1].shape → unsupported shape at ``: kind `date`" := by decide
    rw [hmessage, ← htext]
    rfl
  · have hlength := congrArg List.length hsplit
    simp [Json.datedDeclarations] at hlength

end ShapeCheck
