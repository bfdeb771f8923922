import ShapeCheck.Proofs.Decoding
import ShapeCheck.Proofs.Violation

/-!
# Where reading a shape fails

Reading stops at the first fault.  One level of it is described here: the document is no
node, or the node itself is at fault, or the first of its parts that cannot be read is.  A
field is looked at in two steps, first its shape and then its name.
-/

namespace ShapeCheck
namespace Shape

def Readable (j : Json) : Prop := ∃ s, Reads j s

def Node.part? : Node → Step → Option Json
  | .union members, .member i => members[i]?
  | .intersection members, .member i => members[i]?
  | .tuple elements, .element i => elements[i]?
  | .array element, .item => some element
  | .object raws, .field i => raws[i]?.map RawField.shape
  | _, _ => none

def RawField.names (raws : List RawField) : List String := raws.map RawField.name

/-- How reading the parts of a node fails. -/
inductive Node.Fails : Node → Error → Prop
  | literal {value : Option Json} {e : Error} (h : literalOf value = .error e) :
      Fails (.literal value) e
  | primitive {type : String} (h : Primitive.ofName? type = none) :
      Fails (.primitive type) (.here (.unsupported (.primitiveType type)))
  | emptyUnion : Fails (.union []) (.here .emptyUnion)
  | duplicateField {raws : List RawField} {k : Nat} {raw : RawField}
      (hfirst : FirstAt (fun r => Readable r.shape) raws k raw) (hread : Readable raw.shape)
      (hnodup : (RawField.names (raws.take k)).Nodup)
      (hseen : raw.name ∈ RawField.names (raws.take k)) :
      Fails (.object raws) (.here (.duplicateField raw.name))
  | part {node : Node} {step : Step} {part : Json} {inner : Error}
      (hpart : node.part? step = some part)
      (hearlier : ∀ earlier other, Step.Before earlier step → node.part? earlier = some other →
        Readable other)
      (hnames : ∀ raws k, node = .object raws → step = .field k →
        (RawField.names (raws.take k)).Nodup)
      (h : Shape.ofJson part = .error inner) : Fails node (inner.under step)

/-!
## Lists of parts
-/

theorem ofItems_eq_error {step : Nat → Step} {i : Nat} {items : List Json} {e : Error}
    (h : ofItems step i items = .error e) :
    ∃ k item inner, FirstAt Readable items k item ∧ ofJson item = .error inner ∧
      e = inner.under (step (i + k)) := by
  induction items generalizing i with
  | nil =>
      rw [ofItems] at h
      cases h
  | cons item rest ih =>
      rw [ofItems] at h
      cases hitem : ofJson item with
      | error inner =>
          rw [hitem] at h
          cases h
          exact ⟨0, item, inner, .head item rest, hitem, rfl⟩
      | ok s =>
          rw [hitem] at h
          rcases ih (map_eq_error_iff.mp h) with ⟨k, part, inner, hfirst, hpart, he⟩
          refine ⟨k + 1, part, inner, hfirst.tail ⟨s, hitem⟩, hpart, ?_⟩
          rw [he, Nat.add_right_comm, Nat.add_assoc]

theorem ofFields_eq_error {i : Nat} {seen : List String} {raws : List RawField} {e : Error}
    (h : ofFields i seen raws = .error e) :
    ∃ k raw, FirstAt (fun r => Readable r.shape) raws k raw ∧
      ((RawField.names (raws.take k)).Nodup ∧
        ∀ name ∈ RawField.names (raws.take k), name ∉ seen) ∧
      ((∃ inner, ofJson raw.shape = .error inner ∧ e = inner.under (.field (i + k))) ∨
        Readable raw.shape ∧ raw.name ∈ RawField.names (raws.take k) ++ seen ∧
          e = .here (.duplicateField raw.name)) := by
  induction raws generalizing i seen with
  | nil =>
      rw [ofFields] at h
      cases h
  | cons raw rest ih =>
      rw [ofFields] at h
      cases hshape : ofJson raw.shape with
      | error inner =>
          rw [hshape] at h
          cases h
          exact ⟨0, raw, .head raw rest, by simp [RawField.names], Or.inl ⟨inner, hshape, rfl⟩⟩
      | ok s =>
          rw [hshape] at h
          simp only [within] at h
          by_cases hname : raw.name ∈ seen
          · rw [if_pos hname] at h
            cases h
            exact ⟨0, raw, .head raw rest, by simp [RawField.names],
              Or.inr ⟨⟨s, hshape⟩, hname, rfl⟩⟩
          · rw [if_neg hname] at h
            rcases ih (map_eq_error_iff.mp h) with ⟨k, other, hfirst, hfresh, hstop⟩
            have hcons : RawField.names (List.take (k + 1) (raw :: rest)) =
                raw.name :: RawField.names (rest.take k) := rfl
            have hseen : other.name ∈ RawField.names (rest.take k) ++ raw.name :: seen ↔
                other.name ∈ raw.name :: RawField.names (rest.take k) ++ seen :=
              List.perm_middle.mem_iff
            refine ⟨k + 1, other, hfirst.tail ⟨s, hshape⟩, ?_, ?_⟩
            · rw [hcons, ← fresh_cons_iff]
              exact ⟨hname, hfresh⟩
            · rw [hcons, ← hseen, Nat.add_comm k 1, ← Nat.add_assoc]
              exact hstop

/-!
## One level
-/

theorem Node.fails_of_ofItems {node : Node} {step : Nat → Step} {items : List Json} {e : Error}
    (h : Shape.ofItems step 0 items = .error e) (hpart : ∀ k, node.part? (step k) = items[k]?)
    (hbefore : ∀ earlier k, Step.Before earlier (step k) → ∃ i < k, earlier = step i)
    (hobject : ∀ raws, node ≠ .object raws) : node.Fails e := by
  rcases ofItems_eq_error h with ⟨k, item, inner, hfirst, hitem, rfl⟩
  rw [Nat.zero_add]
  refine .part ((hpart k).trans hfirst.place) ?_ ?_ hitem
  · intro earlier other hearlier hother
    rcases hbefore earlier k hearlier with ⟨i, hi, rfl⟩
    exact hfirst.good_of_lt hi ((hpart i).symm.trans hother)
  · intro raws _ hnode
    exact absurd hnode (hobject raws)

theorem Node.fails_of_ofFields {raws : List RawField} {e : Error}
    (h : ofFields 0 [] raws = .error e) : (Node.object raws).Fails e := by
  rcases ofFields_eq_error h with ⟨k, raw, hfirst, hfresh, hstop⟩
  rw [List.append_nil] at hstop
  rcases hstop with ⟨inner, hshape, rfl⟩ | ⟨hread, hseen, rfl⟩
  · rw [Nat.zero_add]
    refine .part (by rw [part?, hfirst.place]; rfl) ?_ ?_ hshape
    · intro earlier other hearlier hother
      cases hearlier with
      | field hi =>
          rcases Option.map_eq_some_iff.mp hother with ⟨r, hr, rfl⟩
          exact hfirst.good_of_lt hi hr
    · intro _ _ hnode hstep
      cases hnode
      cases hstep
      exact hfresh.1
  · exact .duplicateField hfirst hread hfresh.1 hseen

theorem Node.fails_of_read_eq_error {node : Node} {e : Error} (h : node.read = .error e) :
    node.Fails e := by
  cases node with
  | literal value => exact .literal (map_eq_error_iff.mp h)
  | primitive type =>
      rw [read] at h
      cases hp : Primitive.ofName? type with
      | some p =>
          rw [hp] at h
          cases h
      | none =>
          rw [hp] at h
          cases h
          exact .primitive hp
  | any => cases h
  | union members =>
      cases members with
      | nil =>
          cases h
          exact .emptyUnion
      | cons item rest =>
          exact fails_of_ofItems (map_eq_error_iff.mp h) (fun k => rfl) Step.before_member (by simp)
  | intersection members =>
      exact fails_of_ofItems (map_eq_error_iff.mp h) (fun k => rfl) Step.before_member (by simp)
  | tuple elements =>
      exact fails_of_ofItems (map_eq_error_iff.mp h) (fun k => rfl) Step.before_element (by simp)
  | array element =>
      rw [read, map_eq_error_iff] at h
      cases helement : Shape.ofJson element with
      | ok s =>
          rw [helement] at h
          cases h
      | error inner =>
          rw [helement] at h
          cases h
          refine .part rfl ?_ (by simp) helement
          intro earlier other hearlier
          cases hearlier
  | object raws => exact fails_of_ofFields (map_eq_error_iff.mp h)

theorem Node.Fails.of_duplicateField {node : Node} {name : String}
    (h : node.Fails ⟨.duplicateField name, []⟩) :
    ∃ raws k raw, node = .object raws ∧ raw.name = name ∧
      FirstAt (fun r => Readable r.shape) raws k raw ∧ Readable raw.shape ∧
      (RawField.names (raws.take k)).Nodup ∧ raw.name ∈ RawField.names (raws.take k) := by
  generalize he : (⟨.duplicateField name, []⟩ : Error) = e at h
  cases h with
  | literal hvalue =>
      subst he
      unfold literalOf at hvalue
      split at hvalue <;> cases hvalue
  | primitive _ => cases he
  | emptyUnion => cases he
  | duplicateField hfirst hread hnodup hseen =>
      cases he
      exact ⟨_, _, _, rfl, rfl, hfirst, hread, hnodup, hseen⟩
  | @part _ _ _ inner _ _ _ _ =>
      cases inner
      cases he

theorem fails_of_ofJson_eq_error {j : Json} {node : Node} {e : Error}
    (hnode : Node.ofJson j = .ok node) (h : ofJson j = .error e) : node.Fails e := by
  rw [ofJson_of_node hnode] at h
  exact Node.fails_of_read_eq_error h

end Shape
end ShapeCheck
