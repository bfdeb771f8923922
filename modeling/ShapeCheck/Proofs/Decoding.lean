import Mathlib.Data.List.Forall2
import ShapeCheck.Proofs.Compile
import ShapeCheck.Shape.Decode

/-!
# What reading a shape gives

Reading a shape is a recursion over lists of parts that carries places and the names
seen so far.  Here its successes are described one level at a time: which node the
document has, and what the parts of the node are read as.
-/

namespace ShapeCheck

theorem map_eq_ok_iff {ε α β : Type} {x : Except ε α} {f : α → β} {b : β} :
    x.map f = .ok b ↔ ∃ a, x = .ok a ∧ f a = b := by
  cases x with
  | error e => simp [Except.map]
  | ok a => simp [Except.map]

namespace Shape

theorem within_eq_ok_iff {α : Type} {step : Step} {x : Except Error α} {a : α} :
    within step x = .ok a ↔ x = .ok a := by
  cases x with
  | error e => simp [within]
  | ok b => simp [within]

def Reads (j : Json) (s : Shape) : Prop := ofJson j = .ok s

structure RawField.Gives (raw : RawField) (f : Field) : Prop where
  name : f.name = raw.name
  shape : Reads raw.shape f.shape
  optional : f.optional = raw.optional

inductive Node.Gives : Node → Shape → Prop
  | literal {value : Option Json} {l : Literal} (h : literalOf value = .ok l) :
      Gives (.literal value) (.literal l)
  | primitive {type : String} {p : Primitive} (h : Primitive.ofName? type = some p) :
      Gives (.primitive type) (.primitive p)
  | any : Gives .any .any
  | union {members : List Json} {shapes : List Shape} (hne : members ≠ [])
      (h : List.Forall₂ Reads members shapes) : Gives (.union members) (.union shapes)
  | intersection {members : List Json} {shapes : List Shape}
      (h : List.Forall₂ Reads members shapes) :
      Gives (.intersection members) (.intersection shapes)
  | tuple {elements : List Json} {shapes : List Shape}
      (h : List.Forall₂ Reads elements shapes) : Gives (.tuple elements) (.tuple shapes)
  | array {element : Json} {s : Shape} (h : Reads element s) :
      Gives (.array element) (.array s)
  | object {raws : List RawField} {fields : List Field}
      (hnodup : (fieldNames fields).Nodup)
      (h : List.Forall₂ RawField.Gives raws fields) : Gives (.object raws) (.object fields)

/-!
## One level
-/

def Node.ofContent? (kind : Kind) (content : Option Json) : Except Json.Mismatch Node :=
  match kind with
  | .any => .ok .any
  | .literal => .ok (.literal content)
  | _ =>
      match content with
      | some content => ofContent kind content
      | none => .error (.missingField kind.content.1)

theorem Node.ofMembers_eq (kind : Kind) (members : List (String × Json)) :
    ofMembers kind members = ofContent? kind (Entries.get? members kind.content.1) := by
  cases kind <;> rfl

theorem Node.ofMismatch_eq_ok_iff {x : Except Json.Mismatch Node} {node : Node} :
    ofMismatch x = .ok node ↔ x = .ok node := by
  cases x <;> simp [ofMismatch]

theorem Node.ofJson_object_eq_ok_iff {members : List (String × Json)} {node : Node} :
    ofJson (.object members) = .ok node ↔
      ∃ kind : Kind, Entries.get? members "kind" = some (.text kind.name) ∧
        ofContent? kind (Entries.get? members kind.content.1) = .ok node := by
  constructor
  · intro h
    rw [ofJson] at h
    split at h
    · cases h
    · rename_i name hkind
      split at h
      · rename_i kind hname
        rw [ofMismatch_eq_ok_iff, ofMembers_eq] at h
        rw [← Kind.name_of_ofName? hname] at hkind
        exact ⟨kind, hkind, h⟩
      · cases h
    · cases h
  · rintro ⟨kind, hkind, h⟩
    rw [ofJson, hkind]
    simp only [Kind.ofName?_name]
    rw [ofMismatch_eq_ok_iff, ofMembers_eq, h]

theorem RawField.ofList_eq_ok_iff {items : List Json} {raws : List RawField} :
    ofList items = .ok raws ↔ List.Forall₂ (fun item raw => ofJson item = .ok raw) items raws := by
  induction items generalizing raws with
  | nil =>
      rw [ofList, List.forall₂_nil_left_iff, Except.ok.injEq]
      exact eq_comm
  | cons item rest ih =>
      rw [ofList]
      constructor
      · intro h
        split at h
        · cases h
        · rename_i field hfield
          split at h
          · cases h
          · rename_i others hothers
            cases h
            exact .cons hfield (ih.mp hothers)
      · intro h
        cases h with
        | cons hfield hothers =>
            rw [hfield, ih.mpr hothers]

/-!
## Lists of parts
-/

theorem ofItems_eq_ok_iff {step : Nat → Step} {i : Nat} {items : List Json}
    {shapes : List Shape} :
    ofItems step i items = .ok shapes ↔ List.Forall₂ Reads items shapes := by
  induction items generalizing i shapes with
  | nil =>
      rw [ofItems, List.forall₂_nil_left_iff, Except.ok.injEq]
      exact eq_comm
  | cons item rest ih =>
      rw [ofItems]
      cases hitem : ofJson item with
      | error e =>
          constructor
          · intro h
            cases h
          · intro h
            cases h with
            | cons hread _ => cases hitem.symm.trans hread
      | ok s =>
          simp only [within, map_eq_ok_iff, ih]
          constructor
          · rintro ⟨others, hothers, rfl⟩
            exact .cons hitem hothers
          · intro h
            cases h with
            | cons hread hothers =>
                cases hitem.symm.trans hread
                exact ⟨_, hothers, rfl⟩

theorem ofFields_eq_ok_iff {i : Nat} {seen : List String} {raws : List RawField}
    {fields : List Field} :
    ofFields i seen raws = .ok fields ↔
      List.Forall₂ RawField.Gives raws fields ∧
        (fieldNames fields).Nodup ∧ ∀ name ∈ fieldNames fields, name ∉ seen := by
  -- The names seen grow by one name for each field, as in lowering.
  induction raws generalizing i seen fields with
  | nil =>
      rw [ofFields, List.forall₂_nil_left_iff, Except.ok.injEq]
      constructor
      · rintro rfl
        exact ⟨rfl, List.nodup_nil, List.forall_mem_nil _⟩
      · rintro ⟨rfl, _⟩
        rfl
  | cons raw rest ih =>
      rw [ofFields]
      cases hshape : ofJson raw.shape with
      | error e =>
          constructor
          · intro h
            cases h
          · rintro ⟨h, _⟩
            cases h with
            | cons hgives _ => cases hshape.symm.trans hgives.shape
      | ok s =>
          simp only [within]
          by_cases hseen : raw.name ∈ seen
          · rw [if_pos hseen]
            constructor
            · intro h
              cases h
            · rintro ⟨h, _, hnew⟩
              cases h with
              | @cons _ f _ others hgives _ =>
                  rw [fieldNames_cons, List.forall_mem_cons, hgives.name] at hnew
                  exact absurd hseen hnew.1
          · simp only [if_neg hseen, map_eq_ok_iff, ih]
            constructor
            · rintro ⟨others, ⟨hothers, hfresh⟩, rfl⟩
              refine ⟨.cons ⟨rfl, hshape, rfl⟩ hothers, ?_⟩
              rw [fieldNames_cons, ← fresh_cons_iff]
              exact ⟨hseen, hfresh⟩
            · rintro ⟨h, hfresh⟩
              cases h with
              | @cons _ f _ others hgives hothers =>
                  rw [fieldNames_cons, ← fresh_cons_iff, hgives.name] at hfresh
                  refine ⟨others, ⟨hothers, hfresh.2⟩, ?_⟩
                  cases hshape.symm.trans hgives.shape
                  cases f with
                  | mk name shape optional => rw [← hgives.name, ← hgives.optional]

/-!
## Documents
-/

def Node.read : Node → Except Error Shape
  | .literal value => (literalOf value).map Shape.literal
  | .primitive type =>
      match Primitive.ofName? type with
      | some p => .ok (.primitive p)
      | none => .error (.here (.unsupported (.primitiveType type)))
  | .any => .ok .any
  | .union members =>
      if members.isEmpty then .error (.here .emptyUnion)
      else (Shape.ofItems .member 0 members).map Shape.union
  | .intersection members => (Shape.ofItems .member 0 members).map Shape.intersection
  | .tuple elements => (Shape.ofItems .element 0 elements).map Shape.tuple
  | .array element => (within .item (Shape.ofJson element)).map Shape.array
  | .object raws => (ofFields 0 [] raws).map Shape.object

theorem ofJson_of_node {j : Json} {node : Node} (h : Node.ofJson j = .ok node) :
    ofJson j = node.read := by
  rw [ofJson]
  split
  case h_1 other hother => cases h.symm.trans hother
  all_goals
    rename_i hother
    cases h.symm.trans hother
    rfl

theorem ofJson_of_node_error {j : Json} {cause : Cause} (h : Node.ofJson j = .error cause) :
    ofJson j = .error (.here cause) := by
  rw [ofJson]
  split
  case h_1 other hother =>
    cases h.symm.trans hother
    rfl
  all_goals
    rename_i hother
    cases h.symm.trans hother

theorem Node.read_eq_ok_iff {node : Node} {s : Shape} : node.read = .ok s ↔ node.Gives s := by
  cases node with
  | literal value =>
      rw [read, map_eq_ok_iff]
      constructor
      · rintro ⟨l, hl, rfl⟩
        exact .literal hl
      · intro hgives
        cases hgives with
        | literal hl => exact ⟨_, hl, rfl⟩
  | primitive type =>
      rw [read]
      constructor
      · intro hs
        split at hs
        · rename_i p hp
          cases hs
          exact .primitive hp
        · cases hs
      · intro hgives
        cases hgives with
        | primitive hp => rw [hp]
  | any =>
      rw [read, Except.ok.injEq]
      constructor
      · rintro rfl
        exact .any
      · intro hgives
        cases hgives
        rfl
  | union members =>
      rw [read]
      by_cases hempty : members.isEmpty = true
      · rw [if_pos hempty]
        constructor
        · intro hs
          cases hs
        · intro hgives
          cases hgives with
          | union hne _ => exact absurd (List.isEmpty_iff.mp hempty) hne
      · rw [if_neg hempty, map_eq_ok_iff]
        constructor
        · rintro ⟨shapes, hshapes, rfl⟩
          exact .union (fun hnil => hempty (List.isEmpty_iff.mpr hnil))
            (ofItems_eq_ok_iff.mp hshapes)
        · intro hgives
          cases hgives with
          | union _ hshapes => exact ⟨_, ofItems_eq_ok_iff.mpr hshapes, rfl⟩
  | intersection members =>
      rw [read, map_eq_ok_iff]
      constructor
      · rintro ⟨shapes, hshapes, rfl⟩
        exact .intersection (ofItems_eq_ok_iff.mp hshapes)
      · intro hgives
        cases hgives with
        | intersection hshapes => exact ⟨_, ofItems_eq_ok_iff.mpr hshapes, rfl⟩
  | tuple elements =>
      rw [read, map_eq_ok_iff]
      constructor
      · rintro ⟨shapes, hshapes, rfl⟩
        exact .tuple (ofItems_eq_ok_iff.mp hshapes)
      · intro hgives
        cases hgives with
        | tuple hshapes => exact ⟨_, ofItems_eq_ok_iff.mpr hshapes, rfl⟩
  | array element =>
      rw [read, map_eq_ok_iff]
      constructor
      · rintro ⟨shape, hshape, rfl⟩
        exact .array (within_eq_ok_iff.mp hshape)
      · intro hgives
        cases hgives with
        | array hshape => exact ⟨_, within_eq_ok_iff.mpr hshape, rfl⟩
  | object raws =>
      rw [read, map_eq_ok_iff]
      constructor
      · rintro ⟨fields, hfields, rfl⟩
        rcases ofFields_eq_ok_iff.mp hfields with ⟨hgives, hnodup, _⟩
        exact .object hnodup hgives
      · intro hgives
        cases hgives with
        | object hnodup hfields =>
            exact ⟨_, ofFields_eq_ok_iff.mpr ⟨hfields, hnodup, by simp⟩, rfl⟩

theorem reads_iff_gives {j : Json} {node : Node} (hnode : Node.ofJson j = .ok node) {s : Shape} :
    Reads j s ↔ node.Gives s := by
  rw [Reads, ofJson_of_node hnode, Node.read_eq_ok_iff]

theorem reads_iff {j : Json} {s : Shape} :
    Reads j s ↔ ∃ node, Node.ofJson j = .ok node ∧ node.Gives s := by
  cases hnode : Node.ofJson j with
  | error cause =>
      rw [Reads, ofJson_of_node_error hnode]
      simp
  | ok node =>
      rw [reads_iff_gives hnode]
      simp

end Shape
end ShapeCheck
