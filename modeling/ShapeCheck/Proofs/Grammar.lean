import ShapeCheck.Proofs.Decoding
import ShapeCheck.Proofs.Entries
import ShapeCheck.Proofs.WellFormed

/-!
# Which documents are shapes

Documents of shapes are objects that name their kind.  What is read is more than
that: a list that starts with the kind, or with the name of a field, is read as well.
Lists are the only difference.
-/

namespace ShapeCheck
namespace Shape

/-!
## The grammar
-/

def kind : Shape → Kind
  | .literal _ => .literal
  | .primitive _ => .primitive
  | .any => .any
  | .union _ => .union
  | .intersection _ => .intersection
  | .tuple _ => .tuple
  | .array _ => .array
  | .object _ => .object

def fields : Shape → List Field
  | .object fields => fields
  | _ => []

def Node.parts : Node → List Json
  | .union members => members
  | .intersection members => members
  | .tuple elements => elements
  | .array element => [element]
  | .object raws => raws.map RawField.shape
  | _ => []

/-- A document of a kind with its content, if it has one: an object, or a list if
`lists` allows it. -/
inductive Kind.Holds (lists : Bool) (kind : Kind) : Json → Option Json → Prop
  | object {members : List (String × Json)}
      (hkind : Entries.get? members "kind" = some (.text kind.name)) :
      Holds lists kind (.object members) (Entries.get? members kind.content.1)
  | list {content : Option Json} (hlists : lists = true) :
      Holds lists kind (.array (.text kind.name :: content.toList)) content

inductive Node.MadeOf : Node → Kind → Option Json → Prop
  | literal (content : Option Json) : MadeOf (.literal content) .literal content
  | primitive (type : String) : MadeOf (.primitive type) .primitive (some (.text type))
  | any (content : Option Json) : MadeOf .any .any content
  | union (items : List Json) : MadeOf (.union items) .union (some (.array items))
  | intersection (items : List Json) :
      MadeOf (.intersection items) .intersection (some (.array items))
  | tuple (items : List Json) : MadeOf (.tuple items) .tuple (some (.array items))
  | array (item : Json) : MadeOf (.array item) .array (some item)
  | object {items : List Json} {raws : List RawField} (h : RawField.ofList items = .ok raws) :
      MadeOf (.object raws) .object (some (.array items))

def Kind.entries : Kind → Option Json → List Json
  | .object, some (.array items) => items
  | _, _ => []

/-- An entry that names a field: an object, or a list if `lists` allows it. -/
inductive Names (lists : Bool) : Json → Field → Prop
  | object {members : List (String × Json)} {f : Field}
      (hname : ("name", .text f.name) ∈ members) : Names lists (.object members) f
  | list {rest : List Json} {f : Field} (hlists : lists = true) :
      Names lists (.array (.text f.name :: rest)) f

/-- A document that says of a shape and of all shapes inside of which kind they are. -/
inductive Spells (lists : Bool) : Json → Shape → Prop
  | level {j : Json} {s : Shape} {content : Option Json} {node : Node}
      (hkind : s.kind.Holds lists j content) (hnode : node.MadeOf s.kind content)
      (hnames : List.Forall₂ (Names lists) (s.kind.entries content) s.fields)
      (hparts : List.Forall₂ (Spells lists) node.parts s.parts) : Spells lists j s

/-- A list in the place of a shape or of a field. -/
inductive ListInside : Json → Prop
  | shape (items : List Json) : ListInside (.array items)
  | entry {members : List (String × Json)} {items entry : List Json}
      (hkind : Entries.get? members "kind" = some (.text Kind.object.name))
      (hfields : Entries.get? members "fields" = some (.array items))
      (hentry : .array entry ∈ items) : ListInside (.object members)
  | part {j part : Json} {node : Node} (hnode : Node.ofJson j = .ok node)
      (hpart : part ∈ node.parts) (h : ListInside part) : ListInside j

/-!
## One level
-/

theorem Node.madeOf_of_ofContent {kind : Kind} {content : Json} {node : Node}
    (hany : kind ≠ .any) (h : ofContent kind content = .ok node) :
    node.MadeOf kind (some content) := by
  cases kind with
  | any => exact absurd rfl hany
  | literal =>
      cases h
      exact .literal _
  | array =>
      cases h
      exact .array content
  | primitive =>
      cases content <;> cases h
      exact .primitive _
  | union =>
      cases content <;> cases h
      exact .union _
  | intersection =>
      cases content <;> cases h
      exact .intersection _
  | tuple =>
      cases content <;> cases h
      exact .tuple _
  | object =>
      cases content with
      | array items =>
          rw [ofContent] at h
          cases hraws : RawField.ofList items with
          | error e =>
              rw [hraws] at h
              cases h
          | ok raws =>
              rw [hraws] at h
              cases h
              exact .object hraws
      | _ => cases h

theorem Node.madeOf_of_ofContent? {kind : Kind} {content : Option Json} {node : Node}
    (h : ofContent? kind content = .ok node) : node.MadeOf kind content := by
  cases kind with
  | any =>
      cases h
      exact .any content
  | literal =>
      cases h
      exact .literal content
  | _ =>
      cases content with
      | none => cases h
      | some value => exact madeOf_of_ofContent (by decide) h

theorem Node.ofItems_cons {kind : Kind} (hany : kind ≠ .any) (content : Json)
    (more : List Json) :
    ofItems kind (content :: more) = (ofContent kind content).bind (fun node =>
      if more.isEmpty then .ok node else .error (.tooLong (more.length + 1) 1)) := by
  cases hcontent : ofContent kind content <;> cases kind <;> first
    | exact absurd rfl hany
    | simp only [ofItems, hcontent, Except.bind]

theorem Node.exists_content_of_ofItems {kind : Kind} {rest : List Json} {node : Node}
    (h : ofItems kind rest = .ok node) :
    ∃ content : Option Json, rest = content.toList ∧ node.MadeOf kind content := by
  cases rest with
  | nil =>
      refine ⟨none, rfl, ?_⟩
      cases kind <;> cases h
      · exact .literal none
      · exact .any none
  | cons content more =>
      by_cases hany : kind = .any
      · subst hany
        cases h
      · rw [ofItems_cons hany] at h
        cases hcontent : ofContent kind content with
        | error e =>
            rw [hcontent] at h
            cases h
        | ok made =>
            rw [hcontent] at h
            cases more with
            | nil =>
                cases h
                exact ⟨some content, rfl, madeOf_of_ofContent hany hcontent⟩
            | cons _ _ => cases h

theorem Node.holds_of_ofJson {j : Json} {node : Node} (h : ofJson j = .ok node) :
    ∃ (kind : Kind) (content : Option Json), kind.Holds true j content ∧
      node.MadeOf kind content := by
  cases j with
  | object members =>
      rcases ofJson_object_eq_ok_iff.mp h with ⟨kind, hkind, hcontent⟩
      exact ⟨kind, _, .object hkind, madeOf_of_ofContent? hcontent⟩
  | array items =>
      cases items with
      | nil => cases h
      | cons first rest =>
          cases first with
          | text name =>
              rw [ofJson] at h
              cases hname : Kind.ofName? name with
              | none =>
                  rw [hname] at h
                  cases rest <;> cases h
              | some kind =>
                  simp only [hname, ofMismatch_eq_ok_iff] at h
                  rcases exists_content_of_ofItems h with ⟨content, rfl, hmade⟩
                  rw [← Kind.name_of_ofName? hname]
                  exact ⟨kind, content, .list rfl, hmade⟩
          | _ => cases h
  | null => cases h
  | bool b => cases h
  | number n => cases h
  | text s => cases h

theorem Node.MadeOf.kind_eq {node : Node} {kind : Kind} {content : Option Json} {s : Shape}
    (hmade : node.MadeOf kind content) (hgives : node.Gives s) : kind = s.kind := by
  cases hmade <;> cases hgives <;> rfl

theorem Node.MadeOf.unique {node other : Node} {kind : Kind} {content : Option Json}
    (h : node.MadeOf kind content) (h' : other.MadeOf kind content) : node = other := by
  cases h with
  | object hraws =>
      cases h' with
      | object hraws' =>
          cases hraws.symm.trans hraws'
          rfl
  | _ =>
      cases h'
      rfl

theorem Node.Gives.reads_parts {node : Node} {s : Shape} (h : node.Gives s) :
    List.Forall₂ Reads node.parts s.parts := by
  cases h with
  | union _ hparts => exact hparts
  | intersection hparts => exact hparts
  | tuple hparts => exact hparts
  | array hpart => exact .cons hpart .nil
  | object _ hfields =>
      rw [Node.parts, Shape.parts, List.forall₂_map_left_iff, List.forall₂_map_right_iff]
      exact hfields.imp (fun _ _ hgives => hgives.shape)
  | _ => exact .nil

/-!
## Names of fields
-/

namespace RawField

/-- What a draft holds in the end it held before, or a member said so. -/
structure Draft.From (draft : Draft) (members : List (String × Json)) (final : Draft) :
    Prop where
  name : ∀ name, final.name = some name →
    draft.name = some name ∨ ("name", .text name) ∈ members
  shape : ∀ shape, final.shape = some shape →
    draft.shape = some shape ∨ ("shape", shape) ∈ members

theorem Draft.from_take {draft next : Draft} {member : String × Json}
    (h : draft.take member = .ok next) : draft.From [member] next := by
  cases member with
  | mk key content =>
      simp only [Draft.take] at h
      by_cases hname : key = "name"
      · rw [if_pos hname] at h
        cases content <;> cases h
        subst hname
        refine ⟨?_, fun shape hshape => Or.inl hshape⟩
        intro name heq
        cases heq
        exact Or.inr List.mem_cons_self
      · rw [if_neg hname] at h
        by_cases hshape : key = "shape"
        · rw [if_pos hshape] at h
          cases h
          subst hshape
          refine ⟨fun name hname => Or.inl hname, ?_⟩
          intro shape heq
          cases heq
          exact Or.inr List.mem_cons_self
        · rw [if_neg hshape] at h
          by_cases hoptional : key = "optional"
          · rw [if_pos hoptional] at h
            cases content <;> cases h
            exact ⟨fun name hname => Or.inl hname, fun shape hshape => Or.inl hshape⟩
          · rw [if_neg hoptional] at h
            cases h
            exact ⟨fun name hname => Or.inl hname, fun shape hshape => Or.inl hshape⟩

theorem Draft.From.cons {draft next final : Draft} {member : String × Json}
    {rest : List (String × Json)} (hfirst : draft.From [member] next)
    (hrest : next.From rest final) : draft.From (member :: rest) final := by
  constructor
  · intro name hname
    rcases hrest.name name hname with hnext | hmem
    · refine (hfirst.name name hnext).imp_right ?_
      intro hmem
      exact List.mem_cons.mpr (Or.inl (List.mem_singleton.mp hmem))
    · exact Or.inr (List.mem_cons_of_mem member hmem)
  · intro shape hshape
    rcases hrest.shape shape hshape with hnext | hmem
    · refine (hfirst.shape shape hnext).imp_right ?_
      intro hmem
      exact List.mem_cons.mpr (Or.inl (List.mem_singleton.mp hmem))
    · exact Or.inr (List.mem_cons_of_mem member hmem)

theorem Draft.from_takeAll {draft final : Draft} {members : List (String × Json)}
    (h : draft.takeAll members = .ok final) : draft.From members final := by
  induction members generalizing draft with
  | nil =>
      cases h
      exact ⟨fun name hname => Or.inl hname, fun shape hshape => Or.inl hshape⟩
  | cons member rest ih =>
      rw [Draft.takeAll] at h
      cases hnext : draft.take member with
      | error e =>
          rw [hnext] at h
          cases h
      | ok next =>
          rw [hnext] at h
          exact (Draft.from_take hnext).cons (ih h)

theorem Draft.of_finish {draft : Draft} {raw : RawField} (h : draft.finish = .ok raw) :
    draft.name = some raw.name ∧ draft.shape = some raw.shape := by
  unfold Draft.finish at h
  split at h
  · cases h
  · cases h
  · rename_i name shape hname hshape
    cases h
    exact ⟨hname, hshape⟩

theorem mem_of_ofJson {members : List (String × Json)} {raw : RawField}
    (h : ofJson (.object members) = .ok raw) :
    ("name", .text raw.name) ∈ members ∧ ("shape", raw.shape) ∈ members := by
  rw [ofJson] at h
  cases hdraft : Draft.takeAll {} members with
  | error e =>
      rw [hdraft] at h
      cases h
  | ok draft =>
      rw [hdraft] at h
      rcases Draft.of_finish h with ⟨hname, hshape⟩
      have hfrom := Draft.from_takeAll hdraft
      exact ⟨(hfrom.name _ hname).resolve_left (by simp),
        (hfrom.shape _ hshape).resolve_left (by simp)⟩

theorem name_of_ofItems {items : List Json} {raw : RawField} (h : ofItems items = .ok raw) :
    ∃ rest, items = .text raw.name :: rest := by
  unfold ofItems at h
  repeat' split at h
  all_goals cases h
  all_goals exact ⟨_, rfl⟩

theorem names_of_ofJson {lists : Bool} {j : Json} {raw : RawField}
    (h : ofJson j = .ok raw) (hlists : ∀ items, j = .array items → lists = true) {f : Field}
    (hf : f.name = raw.name) : Names lists j f := by
  cases j with
  | object members =>
      have hmem := (mem_of_ofJson h).1
      rw [← hf] at hmem
      exact .object hmem
  | array items =>
      rcases name_of_ofItems h with ⟨rest, rfl⟩
      rw [← hf]
      exact .list (hlists _ rfl)
  | null => cases h
  | bool b => cases h
  | number n => cases h
  | text s => cases h

theorem forall₂_names {lists : Bool} {items : List Json} {raws : List RawField}
    {fields : List Field} (hraws : List.Forall₂ (fun item raw => ofJson item = .ok raw) items raws)
    (hfields : List.Forall₂ RawField.Gives raws fields)
    (hlists : ∀ entry, .array entry ∈ items → lists = true) :
    List.Forall₂ (Names lists) items fields := by
  induction hraws generalizing fields with
  | nil =>
      cases hfields
      exact .nil
  | cons hraw _ ih =>
      cases hfields with
      | cons hfield hrest =>
          refine .cons (names_of_ofJson hraw ?_ hfield.name) (ih hrest ?_)
          · rintro entry rfl
            exact hlists entry List.mem_cons_self
          · intro entry hentry
            exact hlists entry (List.mem_cons_of_mem _ hentry)

end RawField

theorem Node.MadeOf.names {lists : Bool} {node : Node} {kind : Kind} {content : Option Json}
    {s : Shape} (hmade : node.MadeOf kind content) (hgives : node.Gives s)
    (hlists : ∀ entry, .array entry ∈ kind.entries content → lists = true) :
    List.Forall₂ (Names lists) (kind.entries content) s.fields := by
  cases hgives with
  | @object raws fields _ hfields =>
      cases hmade with
      | @object items _ hraws =>
          exact RawField.forall₂_names (RawField.ofList_eq_ok_iff.mp hraws) hfields hlists
  | _ =>
      cases hmade
      exact .nil

/-!
## What is read is spelled
-/

theorem Kind.mem_entries {kind : Kind} {content : Option Json} {entry : Json}
    (h : entry ∈ kind.entries content) :
    kind = .object ∧ ∃ items, content = some (.array items) ∧ entry ∈ items := by
  unfold Kind.entries at h
  split at h
  · exact ⟨rfl, _, rfl, h⟩
  · cases h

theorem Kind.Holds.of_lists {lists : Bool} {kind : Kind} {j : Json} {content : Option Json}
    (h : kind.Holds true j content) (hlists : ∀ items, j = .array items → lists = true) :
    kind.Holds lists j content := by
  cases h with
  | object hkind => exact .object hkind
  | list _ => exact .list (hlists _ rfl)

theorem spells_of_reads {lists : Bool} {j : Json} {s : Shape} (h : Reads j s)
    (hlists : ListInside j → lists = true) : Spells lists j s := by
  induction s using inductParts generalizing j with
  | parts s ih =>
      rcases reads_iff.mp h with ⟨node, hnode, hgives⟩
      rcases Node.holds_of_ofJson hnode with ⟨kind, content, hholds, hmade⟩
      cases hmade.kind_eq hgives
      have hroot : ∀ items, j = .array items → lists = true := by
        rintro items rfl
        exact hlists (.shape items)
      have hentries : ∀ entry, .array entry ∈ s.kind.entries content → lists = true := by
        intro entry hentry
        apply hlists
        cases hholds with
        | list _ => exact .shape _
        | object hkind =>
            rcases Kind.mem_entries hentry with ⟨hobject, items, hitems, hmem⟩
            rw [hobject] at hkind hitems
            exact .entry hkind hitems hmem
      refine .level (hholds.of_lists hroot) hmade (hmade.names hgives hentries) ?_
      -- A list inside a part is a list inside the document.
      have hreads := hgives.reads_parts
      rw [List.forall₂_iff_zip] at hreads ⊢
      refine ⟨hreads.1, ?_⟩
      intro part t hmem
      rcases List.of_mem_zip hmem with ⟨hpart, ht⟩
      apply ih t ht (hreads.2 hmem)
      intro hinside
      exact hlists (.part hnode hpart hinside)

/-!
## Lists are what is read in addition
-/

theorem Kind.eq_of_get? {members : List (String × Json)} {kind other : Kind}
    (h : Entries.get? members "kind" = some (.text kind.name))
    (h' : Entries.get? members "kind" = some (.text other.name)) : kind = other := by
  rw [h, Option.some.injEq, Json.text.injEq] at h'
  have hname : Kind.ofName? kind.name = Kind.ofName? other.name := by rw [h']
  rw [ofName?_name, ofName?_name] at hname
  exact Option.some.inj hname

theorem not_listInside_of_spells {j : Json} {s : Shape} (h : Spells false j s) :
    ¬ ListInside j := by
  induction s using inductParts generalizing j with
  | parts s ih =>
      intro hinside
      cases h with
      | @level _ _ content node hholds hmade hnames hparts =>
          cases hholds with
          | list hlists => cases hlists
          | @object members hkind =>
              cases hinside with
              | entry hobject hfields hentry =>
                  rw [Kind.eq_of_get? hkind hobject, show Kind.object.content.1 = "fields" from rfl,
                    hfields] at hnames
                  rcases exists_of_forall₂_of_mem hnames hentry with ⟨f, _, hf⟩
                  cases hf with
                  | list hlists => cases hlists
              | @part _ part other hnode hpart hpartInside =>
                  -- The part lies in the node that the grammar speaks of, since an object
                  -- has one kind and one content.
                  rcases Node.ofJson_object_eq_ok_iff.mp hnode with ⟨kind, hother, hcontent⟩
                  rw [Kind.eq_of_get? hother hkind] at hcontent
                  cases (Node.madeOf_of_ofContent? hcontent).unique hmade
                  rcases exists_of_forall₂_of_mem hparts hpart with ⟨t, ht, hspells⟩
                  exact ih t ht hspells hpartInside

/-- A document that is read as a shape says of it and of all shapes inside of which
kind they are, and it does so by objects alone unless a list stands in the place of a
shape or of a field. -/
theorem ofJson_spells {j : Json} {s : Shape} (h : ofJson j = .ok s) :
    Spells true j s ∧ (Spells false j s ↔ ¬ ListInside j) := by
  refine ⟨spells_of_reads h (fun _ => rfl), not_listInside_of_spells, ?_⟩
  intro hno
  apply spells_of_reads h
  intro hinside
  exact absurd hinside hno

/-- The element of an array as a list. -/
theorem ofJson_spells_element :
    ofJson (.object [("kind", .text "array"), ("element", .array [.text "any"])]) =
        .ok (.array .any) ∧
      Spells true (.object [("kind", .text "array"), ("element", .array [.text "any"])])
        (.array .any) ∧
      ¬ Spells false (.object [("kind", .text "array"), ("element", .array [.text "any"])])
        (.array .any) := by
  have helement : Reads (.array [.text "any"]) .any := reads_iff.mpr ⟨.any, rfl, .any⟩
  have hread : ofJson (.object [("kind", .text "array"), ("element", .array [.text "any"])]) =
      .ok (.array .any) :=
    reads_iff.mpr ⟨.array (.array [.text "any"]), rfl, .array helement⟩
  have hspells := ofJson_spells hread
  refine ⟨hread, hspells.1, ?_⟩
  intro hobjects
  exact hspells.2.mp hobjects (.part rfl List.mem_cons_self (.shape _))

/-- Objects alone do not account for all that is read. -/
theorem ofJson_accepts_list :
    ofJson (.array [.text "any"]) = .ok .any ∧ ¬ Spells false (.array [.text "any"]) .any := by
  constructor
  · rw [← Reads, reads_iff]
    exact ⟨.any, rfl, .any⟩
  · intro h
    exact not_listInside_of_spells h (.shape _)

end Shape
end ShapeCheck
