import ShapeCheck.Proofs.Misreading
import ShapeCheck.Proofs.Nesting
import ShapeCheck.Proofs.Pointer

/-!
# Faults point at their documents

The path of a fault is a pointer into the document that was read.  It selects the document
of the shape at fault, or the content of a literal in it, as long as every shape and every
field is written as an object.  Reading that document alone fails in the same way, and
everything that is looked at before it is in order.
-/

namespace ShapeCheck
namespace Shape

/-- Where a cause lies, seen from the shape that has it: only what is no literal lies in the
content. -/
def Cause.place : Cause → Path
  | .unsupported .arrayLiteral => [.content]
  | .unsupported .objectLiteral => [.content]
  | _ => []

def fieldName? (j : Json) (i : Nat) : Option Json :=
  ((j.member? "fields").bind (Json.item? i)).bind (Json.member? "name")

def NamesDifferBefore (j : Json) (k : Nat) : Prop :=
  ∀ i m, i < m → m < k → fieldName? j i ≠ fieldName? j m

/-- A name stands at a field and at one before it, and no name before that field stands twice. -/
structure RepeatsAt (j : Json) (name : String) (m : Nat) : Prop where
  place : fieldName? j m = some (.text name)
  earlier : ∃ i < m, fieldName? j i = some (.text name)
  names : NamesDifferBefore j m

def ReadableAt (j : Json) (path : Path) : Prop :=
  ∃ k, Pointer.select path.text j = some k ∧ Readable k

/-- A document whose objects name each member once and that has no list in the place of a
shape or of a field. -/
structure Proper (j : Json) : Prop where
  names : j.namesDiffer = true
  objects : ¬ ListInside j

/-!
## Documents of parts
-/

theorem Node.mem_parts_of_part? {node : Node} {step : Step} {part : Json}
    (h : node.part? step = some part) : part ∈ node.parts := by
  cases node <;> cases step <;> simp only [part?, reduceCtorEq] at h
  case union.member => exact List.mem_of_getElem? h
  case intersection.member => exact List.mem_of_getElem? h
  case tuple.element => exact List.mem_of_getElem? h
  case array.item =>
    cases h
    exact List.mem_singleton.mpr rfl
  case object.field =>
    rcases Option.map_eq_some_iff.mp h with ⟨raw, hraw, rfl⟩
    exact List.mem_map_of_mem (List.mem_of_getElem? hraw)

theorem Node.exists_part?_of_before {node : Node} {step earlier : Step} {part : Json}
    (h : node.part? step = some part) (hearlier : earlier.Before step) :
    ∃ other, node.part? earlier = some other := by
  have hlist : ∀ {items : List Json} {i k : Nat} {item : Json}, items[k]? = some item → i < k →
      ∃ other, items[i]? = some other := by
    intro items i k item hitem hlt
    have hk : k < items.length := (List.getElem?_eq_some_iff.mp hitem).1
    exact ⟨_, List.getElem?_eq_getElem (Nat.lt_trans hlt hk)⟩
  cases hearlier <;> cases node <;> simp only [part?, reduceCtorEq] at h
  case member.union hlt _ => exact hlist h hlt
  case member.intersection hlt _ => exact hlist h hlt
  case element.tuple hlt _ => exact hlist h hlt
  case field.object hlt raws =>
    rw [← List.getElem?_map] at h
    rcases hlist h hlt with ⟨other, hother⟩
    exact ⟨other, by rw [part?, ← List.getElem?_map, hother]⟩

theorem Proper.part {j part : Json} {node : Node} {step : Step} (h : Proper j)
    (hnode : Node.ofJson j = .ok node) (hpart : node.part? step = some part) : Proper part := by
  have hmem := Node.mem_parts_of_part? hpart
  constructor
  · exact Json.namesDiffer_of_inside h.names (Node.inside_of_mem_parts hnode hmem)
  · intro hinside
    exact h.objects (.part hnode hmem hinside)

theorem Proper.exists_members {j : Json} {node : Node} (h : Proper j)
    (hnode : Node.ofJson j = .ok node) : ∃ members, j = .object members := by
  cases j with
  | object members => exact ⟨members, rfl⟩
  | array items => exact absurd (.shape items) h.objects
  | _ => cases hnode

theorem Proper.exists_entry {members : List (String × Json)} {raws : List RawField} {i : Nat}
    {raw : RawField} (h : Proper (.object members))
    (hnode : Node.ofJson (.object members) = .ok (.object raws)) (hraw : raws[i]? = some raw) :
    ∃ items entry, Entries.get? members "fields" = some (.array items) ∧
      items[i]? = some (.object entry) ∧ Entries.get? entry "name" = some (.text raw.name) ∧
      Entries.get? entry "shape" = some raw.shape := by
  rcases Node.ofJson_object_eq_ok_iff.mp hnode with ⟨kind, hkind, hcontent⟩
  have hmade := Node.madeOf_of_ofContent? hcontent
  generalize hget : Entries.get? members kind.content.1 = content at hmade
  cases hmade with
  | @object items _ hraws =>
      rcases exists_getElem?_of_forall₂ (RawField.ofList_eq_ok_iff.mp hraws) hraw with
        ⟨item, hitem, hread⟩
      have hmem : item ∈ items := List.mem_of_getElem? hitem
      cases item with
      | array entry => exact absurd (.entry hkind hget hmem) h.objects
      | object entry =>
          have hlist : Json.Inside (.array items) (.object members) :=
            .single (List.mem_map_of_mem (Entries.mem_of_get? hget))
          have hinside : Json.Inside (.object entry) (.object members) :=
            .trans (Json.inside_array hmem) hlist
          have hdistinct := Json.distinct_of_namesDiffer (Json.namesDiffer_of_inside h.names hinside)
          rcases RawField.mem_of_ofJson hread with ⟨hname, hshape⟩
          exact ⟨items, entry, hget, hitem, Entries.get?_of_mem hdistinct hname,
            Entries.get?_of_mem hdistinct hshape⟩
      | _ => cases hread

theorem Proper.fieldName?_eq {j : Json} {raws : List RawField} {i : Nat} {raw : RawField}
    (h : Proper j) (hnode : Node.ofJson j = .ok (.object raws)) (hraw : raws[i]? = some raw) :
    fieldName? j i = some (.text raw.name) := by
  rcases h.exists_members hnode with ⟨members, rfl⟩
  rcases h.exists_entry hnode hraw with ⟨items, entry, hfields, hentry, hname, _⟩
  simp only [fieldName?, Json.member?, hfields, Option.bind_some, Json.item?, hentry, hname]

theorem Proper.namesDifferBefore {j : Json} {raws : List RawField} {k : Nat} (h : Proper j)
    (hnode : Node.ofJson j = .ok (.object raws)) (hk : k ≤ raws.length)
    (hnodup : (RawField.names (raws.take k)).Nodup) : NamesDifferBefore j k := by
  intro i m him hmk heq
  have hm : m < raws.length := Nat.lt_of_lt_of_le hmk hk
  have hi : i < raws.length := Nat.lt_trans him hm
  rw [h.fieldName?_eq hnode (List.getElem?_eq_getElem hi),
    h.fieldName?_eq hnode (List.getElem?_eq_getElem hm), Option.some.injEq, Json.text.injEq] at heq
  have hname : ∀ n (hn : n < raws.length), (RawField.names raws)[n]? = some raws[n].name := by
    intro n hn
    rw [RawField.names, List.getElem?_map, List.getElem?_eq_getElem hn]
    rfl
  rw [RawField.names, List.map_take] at hnodup
  apply not_mem_take_of_nodup hnodup hmk (hname m hm)
  rw [← heq]
  apply List.mem_of_getElem? (i := i)
  rw [List.getElem?_take_of_lt him]
  exact hname i hi

/-!
## Following one step
-/

theorem follow_item {members : List (String × Json)} {name : String} {items : List Json}
    {i : Nat} {item : Json} (hitems : Entries.get? members name = some (.array items))
    (hitem : items[i]? = some item) (rest : List String) :
    Pointer.follow (name :: Double.digitText i :: rest) (.object members) =
      Pointer.follow rest item := by
  simp only [Pointer.follow, hitems, Pointer.index?_digitText, Option.bind_some, hitem]

/-- The tokens of a step lead from the document of a shape to the document of the part. -/
theorem Proper.follow_step {j part : Json} {node : Node} {step : Step} (h : Proper j)
    (hnode : Node.ofJson j = .ok node) (hpart : node.part? step = some part)
    (rest : List String) :
    Pointer.follow (step.tokens ++ rest) j = Pointer.follow rest part := by
  rcases h.exists_members hnode with ⟨members, rfl⟩
  rcases Node.ofJson_object_eq_ok_iff.mp hnode with ⟨kind, hkind, hcontent⟩
  have hmade := Node.madeOf_of_ofContent? hcontent
  generalize hget : Entries.get? members kind.content.1 = content at hmade
  cases hmade with
  | union items =>
      cases step <;> simp only [Node.part?, reduceCtorEq] at hpart
      exact follow_item hget hpart rest
  | intersection items =>
      cases step <;> simp only [Node.part?, reduceCtorEq] at hpart
      exact follow_item hget hpart rest
  | tuple items =>
      cases step <;> simp only [Node.part?, reduceCtorEq] at hpart
      exact follow_item hget hpart rest
  | array item =>
      cases step <;> simp only [Node.part?, reduceCtorEq] at hpart
      cases hpart
      have helement : Entries.get? members "element" = some part := hget
      simp only [Step.tokens, List.cons_append, List.nil_append, Pointer.follow, helement]
  | object hraws =>
      cases step <;> simp only [Node.part?, reduceCtorEq] at hpart
      rcases Option.map_eq_some_iff.mp hpart with ⟨raw, hraw, rfl⟩
      rcases h.exists_entry hnode hraw with ⟨items, entry, hfields, hentry, _, hshape⟩
      show Pointer.follow ("fields" :: Double.digitText _ :: ("shape" :: rest)) _ = _
      rw [follow_item hfields hentry]
      simp only [Pointer.follow, hshape]
  | _ => cases step <;> cases hpart

/-!
## The origin of a fault
-/

/-- Reading a document fails because reading the document at the end of a path does.  All
parts before the path can be read and all names before it differ. -/
inductive Origin (cause : Cause) : Json → Path → Json → Prop
  | here {j : Json} (h : ofJson j = .error ⟨cause, cause.place⟩) : Origin cause j [] j
  | part {j part k : Json} {node : Node} {step : Step} {rest : Path}
      (hnode : Node.ofJson j = .ok node) (hpart : node.part? step = some part)
      (hearlier : ∀ earlier other, Step.Before earlier step → node.part? earlier = some other →
        Readable other)
      (hnames : ∀ raws k, node = .object raws → step = .field k →
        (RawField.names (raws.take k)).Nodup)
      (h : Origin cause part rest k) : Origin cause j (step :: rest) k

/-- What is wrong with one level lies in the shape itself and is no repeated name. -/
theorem Node.cause_of_ofJson {j : Json} {cause : Cause} (h : Node.ofJson j = .error cause) :
    cause.place = [] ∧ ∀ name, cause ≠ .duplicateField name := by
  have hmismatch : ∀ {x : Except Json.Mismatch Node}, ofMismatch x = .error cause →
      cause.place = [] ∧ ∀ name, cause ≠ .duplicateField name := by
    intro x hx
    cases x with
    | ok node => cases hx
    | error e =>
        cases hx
        exact ⟨rfl, by simp⟩
  unfold ofJson at h
  repeat' split at h
  all_goals first
    | exact hmismatch h
    | (cases h; exact ⟨rfl, by simp⟩)

theorem place_or_part {j : Json} {e : Error} (h : ofJson j = .error e) :
    e.path = e.cause.place ∨ ∃ node step part inner, Node.ofJson j = .ok node ∧
      node.part? step = some part ∧
      (∀ earlier other, Step.Before earlier step → node.part? earlier = some other →
        Readable other) ∧
      (∀ raws k, node = .object raws → step = .field k →
        (RawField.names (raws.take k)).Nodup) ∧
      ofJson part = .error inner ∧ e = inner.under step := by
  cases hnode : Node.ofJson j with
  | error cause =>
      cases h.symm.trans (ofJson_of_node_error hnode)
      exact Or.inl (Node.cause_of_ofJson hnode).1.symm
  | ok node =>
      cases fails_of_ofJson_eq_error hnode h with
      | @literal value _ hvalue =>
          unfold literalOf at hvalue
          split at hvalue <;> cases hvalue <;> exact Or.inl rfl
      | primitive _ => exact Or.inl rfl
      | emptyUnion => exact Or.inl rfl
      | duplicateField _ _ _ _ => exact Or.inl rfl
      | part hpart hearlier hnames hinner =>
          exact Or.inr ⟨node, _, _, _, rfl, hpart, hearlier, hnames, hinner, rfl⟩

theorem exists_origin {j : Json} {cause : Cause} {path : Path}
    (h : ofJson j = .error ⟨cause, path⟩) :
    ∃ q k, path = q ++ cause.place ∧ Origin cause j q k := by
  -- Seen from the part that a fault lies in, its path is one step shorter.
  induction path generalizing j with
  | nil =>
      rcases place_or_part h with hplace | ⟨_, _, _, _, _, _, _, _, _, hunder⟩
      · exact ⟨[], j, hplace, .here (hplace ▸ h)⟩
      · cases hunder
  | cons step rest ih =>
      rcases place_or_part h with hplace |
        ⟨node, _, part, inner, hnode, hpart, hearlier, hnames, hinner, hunder⟩
      · exact ⟨[], j, hplace, .here (hplace ▸ h)⟩
      · cases inner
        cases hunder
        rcases ih hinner with ⟨q, k, hq, horigin⟩
        refine ⟨step :: q, k, ?_, .part hnode hpart hearlier hnames horigin⟩
        rw [hq, List.cons_append]

namespace Origin

variable {cause : Cause} {j k : Json} {q : Path}

theorem fails (h : Origin cause j q k) : ofJson k = .error ⟨cause, cause.place⟩ := by
  induction h with
  | here h => exact h
  | part _ _ _ _ _ ih => exact ih

theorem proper (h : Origin cause j q k) (hj : Proper j) : Proper k := by
  induction h with
  | here h => exact hj
  | part hnode hpart _ _ _ ih => exact ih (hj.part hnode hpart)

theorem follow_append (h : Origin cause j q k) (hj : Proper j) (rest : List String) :
    Pointer.follow (q.tokens ++ rest) j = Pointer.follow rest k := by
  induction h with
  | here h => rfl
  | @part j part k node step path hnode hpart _ _ _ ih =>
      show Pointer.follow (step.tokens ++ path.tokens ++ rest) j = _
      rw [List.append_assoc, hj.follow_step hnode hpart]
      exact ih (hj.part hnode hpart)

/-- Wherever the path goes on, it does so from the document of a node, and what comes before
the next step there is in order. -/
theorem exists_owner (h : Origin cause j q k) (hj : Proper j) {above below : Path} {step : Step}
    (hq : q = above ++ step :: below) :
    ∃ owner node, (∀ rest, Pointer.follow (above.tokens ++ rest) j = Pointer.follow rest owner) ∧
      Proper owner ∧ Node.ofJson owner = .ok node ∧ (∃ part, node.part? step = some part) ∧
      (∀ earlier other, Step.Before earlier step → node.part? earlier = some other →
        Readable other) ∧
      ∀ raws i, node = .object raws → step = .field i →
        (RawField.names (raws.take i)).Nodup := by
  induction h generalizing above with
  | here h => simp at hq
  | @part j part k node other rest hnode hpart hearlier hnames _ ih =>
      cases above with
      | nil =>
          cases hq
          exact ⟨j, node, fun rest => rfl, hj, hnode, ⟨part, hpart⟩, hearlier, hnames⟩
      | cons first above =>
          cases hq
          rcases ih (hj.part hnode hpart) rfl with ⟨owner, inner, hfollow, howner⟩
          refine ⟨owner, inner, ?_, howner⟩
          intro rest
          show Pointer.follow (other.tokens ++ Path.tokens above ++ rest) j = _
          rw [List.append_assoc, hj.follow_step hnode hpart, hfollow]

theorem readableAt_of_before (h : Origin cause j q k) (hj : Proper j) {above below : Path}
    {step earlier : Step} (hq : q = above ++ step :: below) (hearlier : earlier.Before step) :
    ReadableAt j (above ++ [earlier]) := by
  rcases h.exists_owner hj hq with ⟨owner, node, hfollow, howner, hnode, ⟨part, hpart⟩, hread, _⟩
  rcases Node.exists_part?_of_before hpart hearlier with ⟨other, hother⟩
  refine ⟨other, ?_, hread earlier other hearlier hother⟩
  rw [select_text, Path.tokens_append, hfollow]
  exact howner.follow_step hnode hother []

theorem namesDifferBefore (h : Origin cause j q k) (hj : Proper j) {above below : Path} {i : Nat}
    (hq : q = above ++ .field i :: below) :
    ∃ owner, Pointer.select above.text j = some owner ∧ NamesDifferBefore owner i := by
  rcases h.exists_owner hj hq with ⟨owner, node, hfollow, howner, hnode, ⟨part, hpart⟩, _, hnames⟩
  refine ⟨owner, ?_, ?_⟩
  · rw [select_text, ← List.append_nil above.tokens, hfollow]
    rfl
  · cases node with
    | object raws =>
        rcases Option.map_eq_some_iff.mp hpart with ⟨raw, hraw, _⟩
        have hi : i < raws.length := (List.getElem?_eq_some_iff.mp hraw).1
        exact howner.namesDifferBefore hnode (Nat.le_of_lt hi) (hnames raws i rfl rfl)
    | _ => cases hpart

theorem readableAt_part {node : Node} {step : Step} {part : Json} (h : Origin cause j q k)
    (hj : Proper j) (hnode : Node.ofJson k = .ok node) (hpart : node.part? step = some part)
    (hread : Readable part) : ReadableAt j (q ++ [step]) := by
  refine ⟨part, ?_, hread⟩
  rw [select_text, Path.tokens_append, h.follow_append hj]
  exact (h.proper hj).follow_step hnode hpart []

/-- A name is reported at the first field that repeats it, after the shape of that field has
been read. -/
theorem repeatsAt {name : String} (h : Origin (.duplicateField name) j q k) (hj : Proper j) :
    ∃ m, RepeatsAt k name m ∧ ∀ i ≤ m, ReadableAt j (q ++ [.field i]) := by
  have hk : Proper k := h.proper hj
  cases hnode : Node.ofJson k with
  | error cause =>
      cases h.fails.symm.trans (ofJson_of_node_error hnode)
      exact absurd rfl ((Node.cause_of_ofJson hnode).2 name)
  | ok node =>
      rcases Node.Fails.of_duplicateField (fails_of_ofJson_eq_error hnode h.fails) with
        ⟨raws, m, raw, rfl, rfl, hfirst, hread, hnodup, hseen⟩
      have hm : m < raws.length := (List.getElem?_eq_some_iff.mp hfirst.place).1
      refine ⟨m, ⟨?_, ?_, ?_⟩, ?_⟩
      · exact hk.fieldName?_eq hnode hfirst.place
      · rcases List.mem_map.mp hseen with ⟨other, hother, hname⟩
        rcases List.mem_take_iff_getElem.mp hother with ⟨i, hi, rfl⟩
        have hlt : i < m := Nat.lt_of_lt_of_le hi (Nat.min_le_left m raws.length)
        refine ⟨i, hlt, ?_⟩
        rw [hk.fieldName?_eq hnode (List.getElem?_eq_getElem (Nat.lt_trans hlt hm)), hname]
      · exact hk.namesDifferBefore hnode (Nat.le_of_lt hm) hnodup
      · intro i hi
        rcases Nat.lt_or_eq_of_le hi with hlt | rfl
        · have hother := List.getElem?_eq_getElem (Nat.lt_trans hlt hm)
          exact h.readableAt_part hj hnode (by rw [Node.part?, hother]; rfl)
            (hfirst.good_of_lt hlt hother)
        · exact h.readableAt_part hj hnode (by rw [Node.part?, hfirst.place]; rfl) hread

end Origin

/-!
## Where faults point
-/

/-- Reading `j` fails with `e` at `k`, the document at the path `q`. -/
structure PointsAt (j : Json) (e : Error) (q : Path) (k : Json) : Prop where
  text : e.path.text = q.text ++ e.cause.place.text
  node : Pointer.select q.text j = some k
  fails : ofJson k = .error ⟨e.cause, e.cause.place⟩
  siblings : ∀ above step below earlier, q = above ++ step :: below → Step.Before earlier step →
    ReadableAt j (above ++ [earlier])
  names : ∀ above i below, q = above ++ .field i :: below →
    ∃ owner, Pointer.select (Path.text above) j = some owner ∧ NamesDifferBefore owner i
  duplicate : ∀ name, e.cause = .duplicateField name →
    ∃ m, RepeatsAt k name m ∧ ∀ i ≤ m, ReadableAt j (q ++ [.field i])

/-- Reading a document fails at a document that the path of the fault selects, for the reason
that reading this document alone fails for, and at no place that is looked at before it. -/
theorem ofJson_points_at_fault {j : Json} {e : Error} (hnames : j.namesDiffer = true)
    (hlists : ¬ ListInside j) (h : ofJson j = .error e) : ∃ q k, PointsAt j e q k := by
  have hj : Proper j := ⟨hnames, hlists⟩
  cases e with
  | mk cause path =>
      rcases exists_origin h with ⟨q, k, hpath, horigin⟩
      refine ⟨q, k, ?_, ?_, horigin.fails, ?_, ?_, ?_⟩
      · rw [hpath, Path.text_append]
      · rw [select_text, ← List.append_nil q.tokens, horigin.follow_append hj]
        rfl
      · intro above step below earlier hq hearlier
        exact horigin.readableAt_of_before hj hq hearlier
      · intro above i below hq
        exact horigin.namesDifferBefore hj hq
      · intro name hcause
        cases hcause
        exact horigin.repeatsAt hj

/-- A list in the place of a literal, in the second element of a tuple. -/
theorem ofJson_points_at_fault_element :
    let first := Json.object [("kind", .text "any")]
    let second := Json.object [("kind", .text "literal"), ("value", .array [])]
    let j := Json.object [("kind", .text "tuple"), ("elements", .array [first, second])]
    let e : Error := ⟨.unsupported .arrayLiteral, [.element 1, .content]⟩
    ofJson j = .error e ∧ ∃ q k, PointsAt j e q k := by
  intro first second j e
  have hfirst : ofJson first = .ok .any :=
    ofJson_of_node (show Node.ofJson first = .ok .any from rfl)
  have hsecond : ofJson second = .error ⟨.unsupported .arrayLiteral, [.content]⟩ :=
    ofJson_of_node (show Node.ofJson second = .ok (.literal (some (.array []))) from rfl)
  have hread : ofJson j = .error e := by
    rw [ofJson_of_node (show Node.ofJson j = .ok (.tuple [first, second]) from rfl)]
    simp only [Node.read, ofItems, hfirst, hsecond]
    rfl
  have hnames : j.namesDiffer = true := by decide
  have hlists : ¬ ListInside j := by
    intro h
    dsimp only [j] at h
    cases h with
    | entry hkind _ _ => exact absurd (Json.text.inj (Option.some.inj hkind)) (by decide)
    | part hnode hpart hinside =>
        cases hnode
        rcases List.mem_pair.mp hpart with rfl | rfl
        all_goals
          dsimp only [first, second] at hinside
          cases hinside with
          | entry hkind _ _ => exact absurd (Json.text.inj (Option.some.inj hkind)) (by decide)
          | part hnode hpart _ =>
              cases hnode
              cases hpart
  exact ⟨hread, ofJson_points_at_fault hnames hlists hread⟩

end Shape
end ShapeCheck
