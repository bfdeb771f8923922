import Mathlib.Data.List.Perm.Basic
import ShapeCheck.Proofs.Decoding
import ShapeCheck.Proofs.Double.Nearest
import ShapeCheck.Proofs.Entries
import ShapeCheck.Shape.Encoding

/-!
# Reading undoes writing

A shape may be written in many ways: members in any order, with further members that
its kind does not read, and without a flag that says what is the default.  Every such
document is read as the shape.
-/

namespace ShapeCheck

/-!
## Ways to write a shape
-/

/-- A number of a document that is exactly a double. -/
def Json.Number.Denotes : Json.Number → Double → Prop
  | .whole n, x => x.isFinite = true ∧ x.negative = decide (n < 0) ∧
      x.units = n.natAbs * Double.unitsPerOne
  | .decimal y, x => x.isFinite = true ∧ y = x

/-- The value of a literal in a document; none for absence. -/
inductive Literal.WrittenAs : Literal → Option Json → Prop
  | undefined : WrittenAs .undefined none
  | null : WrittenAs .null (some .null)
  | bool (b : Bool) : WrittenAs (.bool b) (some (.bool b))
  | number {x : Double} {n : Json.Number} (h : n.Denotes x) :
      WrittenAs (.number x) (some (.number n))
  | text (s : String) : WrittenAs (.text s) (some (.text s))

/-- The given members in any order, with others whose names are not read. -/
def Json.Spread (read : List String) (given members : List (String × Json)) : Prop :=
  ∃ others, (∀ other ∈ others, other.1 ∉ read) ∧ members.Perm (given ++ others)

namespace Shape

def Kind.readNames : Kind → List String
  | .any => ["kind"]
  | kind => ["kind", kind.content.1]

inductive Kind.Document (kind : Kind) (content : Option Json) : Json → Prop
  | object {members : List (String × Json)}
      (h : Json.Spread kind.readNames
        (("kind", .text kind.name) :: content.toList.map (fun c => (kind.content.1, c))) members) :
      Document kind content (.object members)

mutual
inductive WrittenAs : Shape → Json → Prop
  | literal {value : Literal} {content : Option Json} {j : Json}
      (h : value.WrittenAs content) (hj : Kind.literal.Document content j) :
      WrittenAs (.literal value) j
  | primitive {type : Primitive} {j : Json}
      (hj : Kind.primitive.Document (some (.text type.name)) j) :
      WrittenAs (.primitive type) j
  | any {j : Json} (hj : Kind.any.Document none j) : WrittenAs .any j
  | union {members : List Shape} {items : List Json} {j : Json}
      (h : List.Forall₂ WrittenAs members items)
      (hj : Kind.union.Document (some (.array items)) j) : WrittenAs (.union members) j
  | intersection {members : List Shape} {items : List Json} {j : Json}
      (h : List.Forall₂ WrittenAs members items)
      (hj : Kind.intersection.Document (some (.array items)) j) :
      WrittenAs (.intersection members) j
  | tuple {elements : List Shape} {items : List Json} {j : Json}
      (h : List.Forall₂ WrittenAs elements items)
      (hj : Kind.tuple.Document (some (.array items)) j) : WrittenAs (.tuple elements) j
  | array {element : Shape} {item j : Json} (h : WrittenAs element item)
      (hj : Kind.array.Document (some item) j) : WrittenAs (.array element) j
  | object {fields : List Field} {items : List Json} {j : Json}
      (h : List.Forall₂ FieldWrittenAs fields items)
      (hj : Kind.object.Document (some (.array items)) j) : WrittenAs (.object fields) j

/-- The documents of a field; whether it is optional may be left out if it is not. -/
inductive FieldWrittenAs : Field → Json → Prop
  | object {name : String} {shape : Shape} {optional : Bool} {item : Json}
      {flag members : List (String × Json)} (h : WrittenAs shape item)
      (hflag : flag = [("optional", .bool optional)] ∨ optional = false ∧ flag = [])
      (hmembers : Json.Spread ["name", "shape", "optional"]
        ([("name", .text name), ("shape", item)] ++ flag) members) :
      FieldWrittenAs ⟨name, shape, optional⟩ (.object members)
end

end Shape

/-!
## Literals
-/

theorem Json.Number.toDouble_of_denotes {n : Json.Number} {x : Double} (h : n.Denotes x) :
    n.toDouble = x := by
  cases n with
  | whole n => exact Double.ofInt_of_units h.1 h.2.1 h.2.2
  | decimal y => exact h.2

theorem Literal.literalOf_of_writtenAs {l : Literal} {content : Option Json}
    (h : l.WrittenAs content) : Shape.literalOf content = .ok l := by
  cases h with
  | number hx => rw [Shape.literalOf, Json.Number.toDouble_of_denotes hx]
  | _ => rfl

theorem Literal.writtenAs_toJson? {l : Literal} (h : Shape.literalIsFinite l = true) :
    l.WrittenAs l.toJson? := by
  cases l with
  | undefined => exact .undefined
  | null => exact .null
  | bool b => exact .bool b
  | number x =>
      have hx : x.isFinite = true := h
      rw [Literal.toJson?, if_pos hx]
      exact .number ⟨hx, rfl⟩
  | text s => exact .text s

/-!
## Objects
-/

namespace Json

theorem Spread.refl (read : List String) (given : List (String × Json)) :
    Spread read given given :=
  ⟨[], by simp, by simp⟩

variable {read : List String} {given members : List (String × Json)}

theorem Spread.mem_iff (h : Spread read given members) {name : String} (hname : name ∈ read)
    {content : Json} : (name, content) ∈ members ↔ (name, content) ∈ given := by
  rcases h with ⟨others, hothers, hperm⟩
  rw [hperm.mem_iff, List.mem_append]
  constructor
  · rintro (hgiven | hother)
    · exact hgiven
    · exact absurd hname (hothers _ hother)
  · exact Or.inl

theorem Spread.get?_eq (h : Spread read given members) (hgiven : Entries.Distinct given)
    {name : String} (hname : name ∈ read) :
    Entries.get? members name = Entries.get? given name :=
  Entries.get?_eq_of_mem_iff hgiven (fun _ => h.mem_iff hname)

end Json

namespace Shape

/-- The content of a kind has a name of its own, and an object that needs none is not
read for it. -/
theorem Node.ofJson_of_document {kind : Kind} {content : Option Json} {j : Json} {node : Node}
    (hj : kind.Document content j) (h : ofContent? kind content = .ok node) :
    ofJson j = .ok node := by
  cases hj with
  | @object members hspread =>
      have hname : kind.content.1 ≠ "kind" := by cases kind <;> decide
      have hgiven : Entries.Distinct
          (("kind", .text kind.name) :: content.toList.map (fun c => (kind.content.1, c))) := by
        cases content with
        | none => simp [Entries.Distinct, Entries.names]
        | some c => simp [Entries.Distinct, Entries.names, hname.symm]
      have hkind : Entries.get? members "kind" = some (.text kind.name) := by
        rw [hspread.get?_eq hgiven (by cases kind <;> simp [Kind.readNames]), Entries.get?_cons,
          if_pos rfl]
      refine ofJson_object_eq_ok_iff.mpr ⟨kind, hkind, ?_⟩
      by_cases hany : kind = .any
      · rw [hany] at h ⊢
        exact h
      · have hcontent : Entries.get? members kind.content.1 = content := by
          have hread : kind.content.1 ∈ kind.readNames := by
            cases kind <;> simp [Kind.readNames] at hany ⊢
          rw [hspread.get?_eq hgiven hread, Entries.get?_cons, if_neg hname.symm]
          cases content with
          | none => rfl
          | some c => exact if_pos rfl
        rw [hcontent, h]

/-!
## Fields
-/

namespace RawField

/-- A member that says nothing else of a field than what the field is. -/
structure Agrees (raw : RawField) (member : String × Json) : Prop where
  name : member.1 = "name" → member.2 = .text raw.name
  shape : member.1 = "shape" → member.2 = raw.shape
  optional : member.1 = "optional" → member.2 = .bool raw.optional

theorem Draft.take_of_agrees {raw : RawField} {key : String} {content : Json}
    (h : raw.Agrees (key, content)) (draft : Draft) :
    draft.take (key, content) = .ok
      { name := if "name" = key then some raw.name else draft.name
        shape := if "shape" = key then some raw.shape else draft.shape
        optional := if "optional" = key then some raw.optional else draft.optional } := by
  by_cases hname : key = "name"
  · have hcontent := h.name hname
    subst hname hcontent
    rfl
  · by_cases hshape : key = "shape"
    · have hcontent := h.shape hshape
      subst hshape hcontent
      rfl
    · by_cases hoptional : key = "optional"
      · have hcontent := h.optional hoptional
        subst hoptional hcontent
        rfl
      · simp only [Draft.take, if_neg hname, if_neg hshape, if_neg hoptional,
          if_neg (Ne.symm hname), if_neg (Ne.symm hshape), if_neg (Ne.symm hoptional)]

theorem Draft.takeAll_of_agrees {raw : RawField} {members : List (String × Json)}
    (h : ∀ member ∈ members, raw.Agrees member) (draft : Draft) :
    draft.takeAll members = .ok
      { name := if "name" ∈ Entries.names members then some raw.name else draft.name
        shape := if "shape" ∈ Entries.names members then some raw.shape else draft.shape
        optional :=
          if "optional" ∈ Entries.names members then some raw.optional else draft.optional } := by
  induction members generalizing draft with
  | nil => rfl
  | cons member rest ih =>
      rcases List.forall_mem_cons.mp h with ⟨hmember, hrest⟩
      -- A later member overwrites an earlier one, but with the same content.
      have hsaid : ∀ {α : Type} (key : String) (a b : α),
          (if key ∈ Entries.names rest then a else if key = member.1 then a else b) =
            if key ∈ Entries.names (member :: rest) then a else b := by
        intro α key a b
        have hmem : key ∈ Entries.names (member :: rest) ↔
            key = member.1 ∨ key ∈ Entries.names rest := List.mem_cons
        by_cases hrest : key ∈ Entries.names rest
        · rw [if_pos hrest, if_pos (hmem.mpr (Or.inr hrest))]
        · by_cases hkey : key = member.1
          · rw [if_neg hrest, if_pos hkey, if_pos (hmem.mpr (Or.inl hkey))]
          · rw [if_neg hrest, if_neg hkey, if_neg (fun h => (hmem.mp h).elim hkey hrest)]
      rw [Draft.takeAll, Draft.take_of_agrees hmember]
      simp only [ih hrest, hsaid]

theorem ofJson_of_fieldWrittenAs {f : Field} {j : Json} (h : FieldWrittenAs f j) :
    ∃ item, WrittenAs f.shape item ∧ ofJson j = .ok ⟨f.name, item, f.optional⟩ := by
  cases h with
  | @object name shape optional item flag members h hflag hmembers =>
      refine ⟨item, h, ?_⟩
      have hsaid : ∀ {key : String} {content : Json}, key ∈ ["name", "shape", "optional"] →
          (key, content) ∈ members →
            (key, content) ∈ [("name", .text name), ("shape", item), ("optional", .bool optional)] := by
        intro key content hkey hmember
        have hmem := (hmembers.mem_iff hkey).mp hmember
        rcases hflag with rfl | ⟨_, rfl⟩
        · exact hmem
        · exact List.mem_append_left [("optional", .bool optional)] hmem
      have hagrees : ∀ member ∈ members, Agrees ⟨name, item, optional⟩ member := by
        rintro ⟨key, content⟩ hmember
        constructor
        · rintro rfl
          simpa using hsaid (by simp) hmember
        · rintro rfl
          simpa using hsaid (by simp) hmember
        · rintro rfl
          simpa using hsaid (by simp) hmember
      have hname : ("name", .text name) ∈ members := (hmembers.mem_iff (by simp)).mpr (by simp)
      have hshape : ("shape", item) ∈ members := (hmembers.mem_iff (by simp)).mpr (by simp)
      have hoptional : (if "optional" ∈ Entries.names members then some optional else none).getD
          false = optional := by
        by_cases hmem : "optional" ∈ Entries.names members
        · rw [if_pos hmem, Option.getD_some]
        · rcases hflag with rfl | ⟨rfl, _⟩
          -- Only a flag that says the default may be missing.
          · have hgiven : ("optional", .bool optional) ∈ members :=
              (hmembers.mem_iff (by simp)).mpr (by simp)
            exact absurd (Entries.mem_names_of_mem hgiven) hmem
          · rw [if_neg hmem, Option.getD_none]
      rw [ofJson, Draft.takeAll_of_agrees hagrees]
      simp only [Draft.finish, if_pos (Entries.mem_names_of_mem hname),
        if_pos (Entries.mem_names_of_mem hshape), hoptional]

end RawField

/-!
## Shapes
-/

structure FieldHeldBy (f : Field) (raw : RawField) : Prop where
  name : f.name = raw.name
  shape : f.shape.WrittenAs raw.shape
  optional : f.optional = raw.optional

/-- A node with the parts of a shape, which are still written. -/
inductive HeldBy : Shape → Node → Prop
  | literal {l : Literal} {value : Option Json} (h : literalOf value = .ok l) :
      HeldBy (.literal l) (.literal value)
  | primitive {p : Primitive} {type : String} (h : Primitive.ofName? type = some p) :
      HeldBy (.primitive p) (.primitive type)
  | any : HeldBy .any .any
  | union {members : List Shape} {items : List Json}
      (h : List.Forall₂ WrittenAs members items) : HeldBy (.union members) (.union items)
  | intersection {members : List Shape} {items : List Json}
      (h : List.Forall₂ WrittenAs members items) :
      HeldBy (.intersection members) (.intersection items)
  | tuple {elements : List Shape} {items : List Json}
      (h : List.Forall₂ WrittenAs elements items) : HeldBy (.tuple elements) (.tuple items)
  | array {element : Shape} {item : Json} (h : element.WrittenAs item) :
      HeldBy (.array element) (.array item)
  | object {fields : List Field} {raws : List RawField}
      (h : List.Forall₂ FieldHeldBy fields raws) : HeldBy (.object fields) (.object raws)

theorem exists_raws_of_fieldsWrittenAs {fields : List Field} {items : List Json}
    (h : List.Forall₂ FieldWrittenAs fields items) :
    ∃ raws, RawField.ofList items = .ok raws ∧ List.Forall₂ FieldHeldBy fields raws := by
  induction h with
  | nil => exact ⟨[], rfl, .nil⟩
  | cons hitem _ ih =>
      rcases RawField.ofJson_of_fieldWrittenAs hitem with ⟨doc, hdoc, hraw⟩
      rcases ih with ⟨raws, hraws, hheld⟩
      rw [RawField.ofList_eq_ok_iff] at hraws
      exact ⟨_, RawField.ofList_eq_ok_iff.mpr (.cons hraw hraws), .cons ⟨rfl, hdoc, rfl⟩ hheld⟩

theorem exists_heldBy_of_writtenAs {s : Shape} {j : Json} (h : s.WrittenAs j) :
    ∃ node, Node.ofJson j = .ok node ∧ s.HeldBy node := by
  cases h with
  | literal hvalue hj =>
      exact ⟨_, Node.ofJson_of_document hj rfl, .literal (Literal.literalOf_of_writtenAs hvalue)⟩
  | @primitive type _ hj =>
      exact ⟨_, Node.ofJson_of_document hj rfl, .primitive (by cases type <;> rfl)⟩
  | any hj => exact ⟨_, Node.ofJson_of_document hj rfl, .any⟩
  | union hitems hj => exact ⟨_, Node.ofJson_of_document hj rfl, .union hitems⟩
  | intersection hitems hj => exact ⟨_, Node.ofJson_of_document hj rfl, .intersection hitems⟩
  | tuple hitems hj => exact ⟨_, Node.ofJson_of_document hj rfl, .tuple hitems⟩
  | array hitem hj => exact ⟨_, Node.ofJson_of_document hj rfl, .array hitem⟩
  | @object _ items _ hitems hj =>
      rcases exists_raws_of_fieldsWrittenAs hitems with ⟨raws, hraws, hheld⟩
      have hnode : Node.ofContent? .object (some (.array items)) = .ok (.object raws) := by
        simp only [Node.ofContent?, Node.ofContent, hraws]
      exact ⟨_, Node.ofJson_of_document hj hnode, .object hheld⟩

theorem HeldBy.gives {s : Shape} {node : Node} (h : s.HeldBy node) (hsound : s.SoundHere)
    (hparts : ∀ t ∈ s.parts, ∀ j, t.WrittenAs j → Reads j t) : node.Gives s := by
  cases h with
  | literal h => exact .literal h
  | primitive h => exact .primitive h
  | any => exact .any
  | union h =>
      refine .union ?_ (forall₂_flip_of_mem h hparts)
      -- There are as many documents as members, so not none.
      intro hempty
      rw [hempty] at h
      cases h
      exact hsound.not_empty_union rfl
  | intersection h => exact .intersection (forall₂_flip_of_mem h hparts)
  | tuple h => exact .tuple (forall₂_flip_of_mem h hparts)
  | array h => exact .array (hparts _ List.mem_cons_self _ h)
  | object h =>
      refine .object (hsound.names_nodup _ rfl) (forall₂_flip_of_mem h ?_)
      intro f hf raw hheld
      exact ⟨hheld.name, hparts f.shape (List.mem_map_of_mem hf) raw.shape hheld.shape,
        hheld.optional⟩

theorem reads_of_writtenAs {s : Shape} (hsound : s.isSound = true) {j : Json}
    (h : s.WrittenAs j) : Reads j s := by
  induction s using inductParts generalizing j with
  | parts s ih =>
      rcases (isSound_iff_parts s).mp hsound with ⟨hhere, hparts⟩
      rcases exists_heldBy_of_writtenAs h with ⟨node, hnode, hheld⟩
      rw [reads_iff_gives hnode]
      apply hheld.gives hhere
      intro t ht j
      exact ih t ht (hparts t ht)

/-!
## The document of a shape
-/

theorem document_tagged (kind : Kind) (content : Option Json) :
    kind.Document content
      (tagged kind (content.toList.map (fun c => (kind.content.1, c)))) :=
  .object (Json.Spread.refl _ _)

theorem toJsonAll_eq_map (shapes : List Shape) : toJsonAll shapes = shapes.map toJson := by
  induction shapes with
  | nil => rfl
  | cons s rest ih => rw [toJsonAll, ih, List.map_cons]

theorem forall₂_writtenAs {shapes : List Shape} (h : ∀ s ∈ shapes, s.WrittenAs s.toJson) :
    List.Forall₂ WrittenAs shapes (toJsonAll shapes) := by
  rw [toJsonAll_eq_map, List.forall₂_map_right_iff, List.forall₂_same]
  exact h

theorem forall₂_fieldWrittenAs {fields : List Field}
    (h : ∀ f ∈ fields, f.shape.WrittenAs f.shape.toJson) :
    List.Forall₂ FieldWrittenAs fields (toJsonFields fields) := by
  induction fields with
  | nil => exact .nil
  | cons f rest ih =>
      cases f with
      | mk name shape optional =>
          rcases List.forall_mem_cons.mp h with ⟨hshape, hrest⟩
          rw [toJsonFields]
          exact .cons (.object hshape (Or.inl rfl) (Json.Spread.refl _ _)) (ih hrest)

theorem writtenAs_toJson {s : Shape} (h : s.isFinite = true) : s.WrittenAs s.toJson := by
  induction s with
  | literal value =>
      have hdocument := document_tagged .literal value.toJson?
      rw [toJson]
      refine .literal (Literal.writtenAs_toJson? h) ?_
      cases hcontent : value.toJson? with
      | none => rwa [hcontent] at hdocument
      | some content => rwa [hcontent] at hdocument
  | primitive type => exact .primitive (document_tagged _ _)
  | any => exact .any (document_tagged _ none)
  | union members ih =>
      rw [isFinite, areFinite_iff] at h
      exact .union (forall₂_writtenAs (fun s hs => ih s hs (h s hs))) (document_tagged _ _)
  | intersection members ih =>
      rw [isFinite, areFinite_iff] at h
      exact .intersection (forall₂_writtenAs (fun s hs => ih s hs (h s hs))) (document_tagged _ _)
  | tuple elements ih =>
      rw [isFinite, areFinite_iff] at h
      exact .tuple (forall₂_writtenAs (fun s hs => ih s hs (h s hs))) (document_tagged _ _)
  | array element ih =>
      rw [isFinite] at h
      exact .array (ih h) (document_tagged _ _)
  | object fields ih =>
      rw [isFinite, fieldsAreFinite_iff] at h
      exact .object (forall₂_fieldWrittenAs (fun f hf => ih f hf (h f hf))) (document_tagged _ _)

/-!
## Null and absence
-/

theorem literalOf_eq_undefined_iff {content : Option Json} :
    literalOf content = .ok .undefined ↔ content = none := by
  cases content with
  | none => simp [literalOf]
  | some value => cases value <;> simp [literalOf]

theorem literalOf_eq_null_iff {content : Option Json} :
    literalOf content = .ok .null ↔ content = some .null := by
  cases content with
  | none => simp [literalOf]
  | some value => cases value <;> simp [literalOf]

theorem reads_literal_iff {members : List (String × Json)} {l : Literal}
    (h : Entries.get? members "kind" = some (.text Kind.literal.name)) :
    Reads (.object members) (.literal l) ↔
      literalOf (Entries.get? members "value") = .ok l := by
  have hnode : Node.ofJson (.object members) =
      .ok (.literal (Entries.get? members "value")) :=
    Node.ofJson_object_eq_ok_iff.mpr ⟨.literal, h, rfl⟩
  rw [reads_iff_gives hnode]
  constructor
  · intro hgives
    cases hgives with
    | literal hl => exact hl
  · exact .literal

/-- A well-formed shape has a document, and all its documents are read as the shape.
Among the objects of the literal kind, those without a value are read as absence and
those with the value null as null. -/
theorem ofJson_undoes_writing {s : Shape} (hsound : s.isSound = true)
    (hfinite : s.isFinite = true) :
    s.WrittenAs s.toJson ∧ (∀ j, s.WrittenAs j → ofJson j = .ok s) ∧
      ∀ members, Entries.get? members "kind" = some (.text Kind.literal.name) →
        (ofJson (.object members) = .ok (.literal .undefined) ↔
          Entries.get? members "value" = none) ∧
        (ofJson (.object members) = .ok (.literal .null) ↔
          Entries.get? members "value" = some .null) := by
  refine ⟨writtenAs_toJson hfinite, ?_, ?_⟩
  · intro j h
    exact reads_of_writtenAs hsound h
  · intro members hkind
    constructor
    · exact (reads_literal_iff hkind).trans literalOf_eq_undefined_iff
    · exact (reads_literal_iff hkind).trans literalOf_eq_null_iff

def threshold : Shape :=
  .object [⟨"mode", .union [.literal .null, .literal .undefined], false⟩,
    ⟨"limit", .literal (.number ⟨0x4008000000000000⟩), true⟩]

/-- A document of the shape: members are out of order, one is not read, one flag is
left out, and the number is written without a fraction. -/
def thresholdDocument : Json :=
  .object [("note", .null),
    ("fields", .array
      [.object
        [("shape", .object
          [("members", .array
            [.object [("value", .null), ("kind", .text "literal")],
              .object [("values", .null), ("kind", .text "literal")]]),
            ("kind", .text "union")]),
          ("name", .text "mode")],
        .object
          [("optional", .bool true),
            ("shape", .object [("value", .number (.whole 3)), ("kind", .text "literal")]),
            ("name", .text "limit")]]),
    ("kind", .text "object")]

theorem ofJson_undoes_writing_threshold :
    threshold.isSound = true ∧ threshold.isFinite = true ∧
      threshold.WrittenAs thresholdDocument ∧ ofJson thresholdDocument = .ok threshold := by
  have hspread : ∀ {read : List String} {given members : List (String × Json)}
      (others : List (String × Json)), (∀ other ∈ others, other.1 ∉ read) →
        members = (given ++ others).reverse → Json.Spread read given members := by
    intro read given members others hothers hmembers
    rw [hmembers]
    exact ⟨others, hothers, List.reverse_perm _⟩
  have hnull : (Shape.literal .null).WrittenAs
      (.object [("value", .null), ("kind", .text "literal")]) :=
    .literal .null (.object (hspread [] (by simp) rfl))
  have habsent : (Shape.literal .undefined).WrittenAs
      (.object [("values", .null), ("kind", .text "literal")]) :=
    .literal .undefined (.object (hspread [("values", .null)] (by decide) rfl))
  have hdenotes : (Json.Number.whole 3).Denotes ⟨0x4008000000000000⟩ :=
    ⟨by decide, by decide, by decide +kernel⟩
  have hthree : (Shape.literal (.number ⟨0x4008000000000000⟩)).WrittenAs
      (.object [("value", .number (.whole 3)), ("kind", .text "literal")]) :=
    .literal (.number hdenotes) (.object (hspread [] (by simp) rfl))
  have hmode := WrittenAs.union (.cons hnull (.cons habsent .nil))
    (.object (hspread [] (by simp) rfl))
  have hwritten : threshold.WrittenAs thresholdDocument :=
    .object
      (.cons (.object hmode (Or.inr ⟨rfl, rfl⟩) (hspread [] (by simp) rfl))
        (.cons (.object hthree (Or.inl rfl) (hspread [] (by simp) rfl)) .nil))
      (.object (hspread [("note", .null)] (by decide) rfl))
  have hsound : threshold.isSound = true := by decide
  have hfinite : threshold.isFinite = true := by decide
  exact ⟨hsound, hfinite, hwritten, (ofJson_undoes_writing hsound hfinite).2.1 _ hwritten⟩

end Shape
end ShapeCheck
