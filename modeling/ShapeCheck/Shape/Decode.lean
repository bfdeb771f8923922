import ShapeCheck.Shape.Node

/-!
# Reading shapes from documents

The parts of a shape are read left to right; the first fault is reported with the
path of the shape that it lies in.  The document of a part weighs less than that
of the whole, so reading comes to an end.
-/

namespace ShapeCheck
namespace Shape

/-! ## Parts weigh less than the whole -/

def RawField.weights : List RawField → Nat
  | [] => 0
  | field :: rest => field.shape.weight + weights rest

def Node.weight : Node → Nat
  | .union members => Json.weightItems members
  | .intersection members => Json.weightItems members
  | .tuple elements => Json.weightItems elements
  | .array element => element.weight
  | .object fields => RawField.weights fields
  | _ => 0

namespace RawField

theorem Draft.shape_of_take {draft next : Draft} {member : String × Json}
    {shape : Json} (h : draft.take member = .ok next)
    (hs : next.shape = some shape) :
    draft.shape = some shape ∨ shape = member.2 := by
  obtain ⟨key, content⟩ := member
  simp only [Draft.take] at h
  repeat' split at h
  all_goals cases h
  all_goals first
    | exact Or.inl hs
    | exact Or.inr (Option.some.inj hs).symm

theorem Draft.weight_le_of_takeAll {members : List (String × Json)}
    {draft final : Draft} {shape : Json}
    (h : draft.takeAll members = .ok final) (hs : final.shape = some shape) :
    draft.shape = some shape ∨ shape.weight ≤ Json.weightMembers members := by
  induction members generalizing draft with
  | nil =>
      cases h
      exact Or.inl hs
  | cons member rest ih =>
      rw [Draft.takeAll] at h
      split at h
      · rename_i next hnext
        rw [Json.weightMembers]
        cases ih h with
        | inr hle => exact Or.inr (Nat.le_trans hle (Nat.le_add_left _ _))
        | inl hshape =>
            cases Draft.shape_of_take hnext hshape with
            | inl hl => exact Or.inl hl
            | inr hr =>
                subst hr
                exact Or.inr (Nat.le_add_right _ _)
      · cases h

theorem weight_le_of_ofItems {items : List Json} {field : RawField}
    (h : ofItems items = .ok field) :
    field.shape.weight ≤ Json.weightItems items := by
  unfold ofItems at h
  repeat' split at h
  all_goals cases h
  all_goals simp only [Json.weightItems]
  all_goals omega

theorem weight_lt_of_ofJson {j : Json} {field : RawField}
    (h : ofJson j = .ok field) : field.shape.weight < j.weight := by
  cases j with
  | object members =>
      simp only [ofJson] at h
      rw [Json.weight]
      split at h
      · rename_i draft hdraft
        unfold Draft.finish at h
        split at h
        · cases h
        · cases h
        · rename_i name shape _ hshape
          cases h
          cases Draft.weight_le_of_takeAll hdraft hshape with
          | inl hnone => cases hnone
          | inr hle => exact Nat.lt_succ_of_le hle
      · cases h
  | array items =>
      simp only [ofJson] at h
      rw [Json.weight]
      exact Nat.lt_succ_of_le (weight_le_of_ofItems h)
  | null => cases h
  | bool b => cases h
  | number n => cases h
  | text s => cases h

theorem weights_le_of_ofList {items : List Json} {fields : List RawField}
    (h : ofList items = .ok fields) : weights fields ≤ Json.weightItems items := by
  induction items generalizing fields with
  | nil =>
      cases h
      exact Nat.le_refl _
  | cons item rest ih =>
      rw [ofList] at h
      split at h
      · cases h
      · rename_i field hfield
        split at h
        · cases h
        · rename_i others hothers
          cases h
          rw [weights, Json.weightItems]
          exact Nat.add_le_add (Nat.le_of_lt (weight_lt_of_ofJson hfield)) (ih hothers)

end RawField

namespace Node

theorem weight_le_of_ofContent {kind : Kind} {content : Json} {node : Node}
    (h : ofContent kind content = .ok node) : node.weight ≤ content.weight := by
  unfold ofContent at h
  repeat' split at h
  all_goals cases h
  all_goals simp only [weight, Json.weight]
  all_goals first
    | omega
    | exact Nat.le_succ_of_le (RawField.weights_le_of_ofList ‹_›)

theorem weight_lt_of_ofJson {j : Json} {node : Node} (h : ofJson j = .ok node) :
    node.weight < j.weight := by
  have hmembers : ∀ {kind : Kind} {members : List (String × Json)},
      ofMismatch (ofMembers kind members) = .ok node →
        node.weight ≤ Json.weightMembers members := by
    intro kind members hm
    unfold ofMismatch at hm
    split at hm
    · rename_i n hn
      cases hm
      unfold ofMembers at hn
      repeat' split at hn
      · cases hn; exact Nat.zero_le _
      · cases hn; exact Nat.zero_le _
      · rename_i content hget
        exact Nat.le_trans (weight_le_of_ofContent hn) (Json.weight_le_of_get? hget)
      · cases hn
    · cases hm
  have hitems : ∀ {kind : Kind} {items : List Json},
      ofMismatch (ofItems kind items) = .ok node →
        node.weight ≤ Json.weightItems items := by
    intro kind items hi
    unfold ofMismatch at hi
    split at hi
    · rename_i n hn
      cases hi
      unfold ofItems at hn
      split at hn
      · cases hn; exact Nat.zero_le _
      · cases hn
      · cases hn; exact Nat.zero_le _
      · cases hn
      · split at hn
        · cases hn
        · rename_i hc
          split at hn
          · cases hn
            rw [Json.weightItems]
            exact Nat.le_trans (weight_le_of_ofContent hc) (Nat.le_add_right _ _)
          · cases hn
    · cases hi
  unfold ofJson at h
  split at h
  · rw [Json.weight]
    split at h
    · cases h
    · split at h
      · exact Nat.lt_succ_of_le (hmembers h)
      · cases h
    · cases h
  · cases h
  · simp only [Json.weight, Json.weightItems]
    split at h
    · have := hitems h
      omega
    · split at h <;> cases h
  · cases h
  · cases h

end Node

/-! ## Reading -/

/-- The literal of a document: a scalar, or absence. -/
def literalOf : Option Json → Except Error Literal
  | none => .ok .undefined
  | some .null => .ok .null
  | some (.bool b) => .ok (.bool b)
  | some (.number n) => .ok (.number n.toDouble)
  | some (.text s) => .ok (.text s)
  | some (.array _) => .error ⟨.unsupported .arrayLiteral, [.content]⟩
  | some (.object _) => .error ⟨.unsupported .objectLiteral, [.content]⟩

def within {α : Type} (step : Step) : Except Error α → Except Error α
  | .ok a => .ok a
  | .error e => .error (e.under step)

mutual
def ofJson (j : Json) : Except Error Shape :=
  match h : Node.ofJson j with
  | .error cause => .error (.here cause)
  | .ok (.literal value) => (literalOf value).map Shape.literal
  | .ok (.primitive type) =>
      match Primitive.ofName? type with
      | some p => .ok (.primitive p)
      | none => .error (.here (.unsupported (.primitiveType type)))
  | .ok .any => .ok .any
  | .ok (.union members) =>
      have := Node.weight_lt_of_ofJson h
      if members.isEmpty then .error (.here .emptyUnion)
      else (ofItems .member 0 members).map Shape.union
  | .ok (.intersection members) =>
      have := Node.weight_lt_of_ofJson h
      (ofItems .member 0 members).map Shape.intersection
  | .ok (.tuple elements) =>
      have := Node.weight_lt_of_ofJson h
      (ofItems .element 0 elements).map Shape.tuple
  | .ok (.array element) =>
      have := Node.weight_lt_of_ofJson h
      (within .item (ofJson element)).map Shape.array
  | .ok (.object fields) =>
      have := Node.weight_lt_of_ofJson h
      (ofFields 0 [] fields).map Shape.object
termination_by 2 * j.weight
decreasing_by all_goals (simp only [Node.weight] at this; omega)

def ofItems (step : Nat → Step) (i : Nat) (items : List Json) :
    Except Error (List Shape) :=
  match items with
  | [] => .ok []
  | item :: rest =>
      match within (step i) (ofJson item) with
      | .error e => .error e
      | .ok shape => (ofItems step (i + 1) rest).map (shape :: ·)
termination_by 2 * Json.weightItems items + 1
decreasing_by
  all_goals
    have hpos := Json.weight_pos item
    simp only [Json.weightItems]
    omega

/-- Read the shapes of fields, the first of them `i` places from the start and
after fields of the names `seen`.  A name may not come twice. -/
def ofFields (i : Nat) (seen : List String) (fields : List RawField) :
    Except Error (List Field) :=
  match fields with
  | [] => .ok []
  | field :: rest =>
      match within (.field i) (ofJson field.shape) with
      | .error e => .error e
      | .ok shape =>
          if field.name ∈ seen then .error (.here (.duplicateField field.name))
          else
            (ofFields (i + 1) (field.name :: seen) rest).map
              (⟨field.name, shape, field.optional⟩ :: ·)
termination_by 2 * RawField.weights fields + 1
decreasing_by
  all_goals
    have hpos := Json.weight_pos field.shape
    simp only [RawField.weights]
    omega
end

end Shape
end ShapeCheck
