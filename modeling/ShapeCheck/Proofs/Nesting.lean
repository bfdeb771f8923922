import Mathlib.Logic.Relation
import ShapeCheck.Proofs.Grammar

/-!
# What lies inside a document

Arrays and objects hold documents.  A document that lies inside another nests less
deep, has no number that the other does not have, and repeats no name if the other does
not.  The parts of a shape are read from documents inside the document of the shape, so a
shape nests no deeper than its document.
-/

namespace ShapeCheck
namespace Json

def parts : Json → List Json
  | .array items => items
  | .object members => members.map Prod.snd
  | _ => []

def Inside : Json → Json → Prop := Relation.TransGen (fun part j => part ∈ j.parts)

mutual
def numbers : Json → List Number
  | .number n => [n]
  | .array items => numbersOfItems items
  | .object members => numbersOfMembers members
  | _ => []
termination_by structural j => j

def numbersOfItems : List Json → List Number
  | [] => []
  | item :: rest => item.numbers ++ numbersOfItems rest
termination_by structural items => items

def numbersOfMembers : List (String × Json) → List Number
  | [] => []
  | (_, content) :: rest => content.numbers ++ numbersOfMembers rest
termination_by structural members => members
end

/-- A number that a document can hold: whole ones have 64 bits, others are finite. -/
def Number.Fits : Number → Prop
  | .whole n => InRange n
  | .decimal x => x.isFinite = true

instance : (n : Number) → Decidable n.Fits
  | .whole n => inferInstanceAs (Decidable (Number.InRange n))
  | .decimal x => inferInstanceAs (Decidable (x.isFinite = true))

def NumbersFit (j : Json) : Prop := ∀ n ∈ j.numbers, n.Fits

instance (j : Json) : Decidable j.NumbersFit :=
  inferInstanceAs (Decidable (∀ n ∈ j.numbers, n.Fits))

theorem inside_array {item : Json} {items : List Json} (h : item ∈ items) :
    item.Inside (.array items) :=
  Relation.TransGen.single h

/-!
## Depth
-/

theorem depthItems_le_iff {items : List Json} {n : Nat} :
    depthItems items ≤ n ↔ ∀ item ∈ items, item.depth ≤ n := by
  induction items with
  | nil => simp [depthItems]
  | cons item rest ih => rw [depthItems, Nat.max_le, ih, List.forall_mem_cons]

theorem depthMembers_le_iff {members : List (String × Json)} {n : Nat} :
    depthMembers members ≤ n ↔ ∀ m ∈ members, m.2.depth ≤ n := by
  induction members with
  | nil => simp [depthMembers]
  | cons m rest ih =>
      cases m with
      | mk name content => rw [depthMembers, Nat.max_le, ih, List.forall_mem_cons]

theorem depth_le_succ_iff {j : Json} {n : Nat} :
    j.depth ≤ n + 1 ↔ ∀ part ∈ j.parts, part.depth ≤ n := by
  cases j with
  | array items => rw [depth, Nat.add_le_add_iff_right, depthItems_le_iff, parts]
  | object members =>
      rw [depth, Nat.add_le_add_iff_right, depthMembers_le_iff, parts, List.forall_mem_map]
  | _ => simp [depth, parts]

theorem depth_lt_of_mem_parts {part j : Json} (h : part ∈ j.parts) :
    part.depth < j.depth := by
  cases hdepth : j.depth with
  | zero => cases j <;> simp [depth, parts] at h hdepth
  | succ n =>
      apply Nat.lt_succ_of_le
      exact depth_le_succ_iff.mp (Nat.le_of_eq hdepth) part h

theorem depth_lt_of_inside {part j : Json} (h : part.Inside j) : part.depth < j.depth := by
  induction h with
  | single hpart => exact depth_lt_of_mem_parts hpart
  | tail _ hpart ih => exact Nat.lt_trans ih (depth_lt_of_mem_parts hpart)

/-!
## Numbers
-/

theorem mem_numbersOfItems {items : List Json} {n : Number} :
    n ∈ numbersOfItems items ↔ ∃ item ∈ items, n ∈ item.numbers := by
  induction items with
  | nil => simp [numbersOfItems]
  | cons item rest ih => simp [numbersOfItems, ih]

theorem mem_numbersOfMembers {members : List (String × Json)} {n : Number} :
    n ∈ numbersOfMembers members ↔ ∃ m ∈ members, n ∈ m.2.numbers := by
  induction members with
  | nil => simp [numbersOfMembers]
  | cons m rest ih =>
      cases m with
      | mk name content => simp [numbersOfMembers, ih]

theorem numbers_subset_of_mem_parts {part j : Json} (h : part ∈ j.parts) :
    part.numbers ⊆ j.numbers := by
  intro n hn
  cases j with
  | array items => exact mem_numbersOfItems.mpr ⟨part, h, hn⟩
  | object members =>
      rcases List.mem_map.mp h with ⟨m, hm, rfl⟩
      exact mem_numbersOfMembers.mpr ⟨m, hm, hn⟩
  | _ => cases h

theorem numbers_subset_of_inside {part j : Json} (h : part.Inside j) :
    part.numbers ⊆ j.numbers := by
  induction h with
  | single hpart => exact numbers_subset_of_mem_parts hpart
  | tail _ hpart ih => exact List.Subset.trans ih (numbers_subset_of_mem_parts hpart)

theorem numbersFit_of_parts {j : Json} (hnumber : ∀ n, j ≠ .number n)
    (h : ∀ part ∈ j.parts, part.NumbersFit) : j.NumbersFit := by
  intro n hn
  cases j with
  | array items =>
      rcases mem_numbersOfItems.mp hn with ⟨item, hitem, hmem⟩
      exact h item hitem n hmem
  | object members =>
      rcases mem_numbersOfMembers.mp hn with ⟨m, hm, hmem⟩
      exact h m.2 (List.mem_map_of_mem hm) n hmem
  | number m => exact absurd rfl (hnumber m)
  | _ => cases hn

/-!
## Names
-/

mutual
/-- Whether no object of a document has two members of one name. -/
def namesDiffer : Json → Bool
  | .array items => namesDifferInItems items
  | .object members =>
      decide (Entries.names members).Nodup && namesDifferInMembers members
  | _ => true
termination_by structural j => j

def namesDifferInItems : List Json → Bool
  | [] => true
  | item :: rest => item.namesDiffer && namesDifferInItems rest
termination_by structural items => items

def namesDifferInMembers : List (String × Json) → Bool
  | [] => true
  | (_, content) :: rest => content.namesDiffer && namesDifferInMembers rest
termination_by structural members => members
end

theorem namesDifferInItems_iff {items : List Json} :
    namesDifferInItems items = true ↔ ∀ item ∈ items, item.namesDiffer = true := by
  induction items with
  | nil => simp [namesDifferInItems]
  | cons item rest ih => simp [namesDifferInItems, ih]

theorem namesDifferInMembers_iff {members : List (String × Json)} :
    namesDifferInMembers members = true ↔ ∀ m ∈ members, m.2.namesDiffer = true := by
  induction members with
  | nil => simp [namesDifferInMembers]
  | cons m rest ih =>
      cases m with
      | mk name content => simp [namesDifferInMembers, ih]

theorem namesDiffer_iff {j : Json} :
    j.namesDiffer = true ↔ (∀ members, j = .object members → Entries.Distinct members) ∧
      ∀ part ∈ j.parts, part.namesDiffer = true := by
  cases j with
  | array items =>
      rw [namesDiffer, namesDifferInItems_iff]
      simp [parts]
  | object members =>
      rw [namesDiffer, Bool.and_eq_true, decide_eq_true_iff, namesDifferInMembers_iff, parts,
        List.forall_mem_map]
      simp [Entries.Distinct]
  | _ => simp [namesDiffer, parts]

theorem namesDiffer_of_depth_eq_zero {j : Json} (h : j.depth = 0) : j.namesDiffer = true := by
  cases j with
  | array items => cases h
  | object members => cases h
  | _ => rfl

theorem distinct_of_namesDiffer {members : List (String × Json)}
    (h : (Json.object members).namesDiffer = true) : Entries.Distinct members :=
  (namesDiffer_iff.mp h).1 members rfl

theorem namesDiffer_of_inside {part j : Json} (hj : j.namesDiffer = true)
    (h : part.Inside j) : part.namesDiffer = true := by
  induction h with
  | single hpart => exact (namesDiffer_iff.mp hj).2 _ hpart
  | tail _ hpart ih => exact ih ((namesDiffer_iff.mp hj).2 _ hpart)

end Json

namespace Shape

/-!
## The documents of parts
-/

theorem Kind.Holds.inside {lists : Bool} {kind : Kind} {j : Json} {content : Option Json}
    (h : kind.Holds lists j content) {value : Json} (hvalue : content = some value) :
    value.Inside j := by
  apply Relation.TransGen.single
  cases h with
  | object hkind => exact List.mem_map_of_mem (Entries.mem_of_get? hvalue)
  | list hlists =>
      rw [hvalue]
      exact List.mem_cons_of_mem _ List.mem_cons_self

namespace RawField

theorem shape_mem_of_ofItems {items : List Json} {raw : RawField}
    (h : ofItems items = .ok raw) : raw.shape ∈ items := by
  unfold ofItems at h
  repeat' split at h
  all_goals cases h
  all_goals exact List.mem_cons_of_mem _ List.mem_cons_self

theorem inside_of_ofJson {j : Json} {raw : RawField} (h : ofJson j = .ok raw) :
    raw.shape.Inside j := by
  apply Relation.TransGen.single
  cases j with
  | object members => exact List.mem_map_of_mem (mem_of_ofJson h).2
  | array items => exact shape_mem_of_ofItems h
  | _ => cases h

end RawField

theorem Node.MadeOf.inside {lists : Bool} {node : Node} {kind : Kind} {j part : Json}
    {content : Option Json} (hmade : node.MadeOf kind content)
    (hholds : kind.Holds lists j content) (hpart : part ∈ node.parts) : part.Inside j := by
  cases hmade with
  | literal content => cases hpart
  | primitive type => cases hpart
  | any content => cases hpart
  | union items => exact .trans (Json.inside_array hpart) (hholds.inside rfl)
  | intersection items => exact .trans (Json.inside_array hpart) (hholds.inside rfl)
  | tuple items => exact .trans (Json.inside_array hpart) (hholds.inside rfl)
  | array item =>
      rw [List.mem_singleton.mp hpart]
      exact hholds.inside rfl
  | @object items raws hraws =>
      rcases List.mem_map.mp hpart with ⟨raw, hraw, rfl⟩
      have hentries := RawField.ofList_eq_ok_iff.mp hraws
      rcases exists_of_forall₂_of_mem hentries.flip hraw with ⟨entry, hentry, hread⟩
      -- The shape lies in the entry of the field, which lies in the list of fields.
      have hlist : entry.Inside j := .trans (Json.inside_array hentry) (hholds.inside rfl)
      exact .trans (RawField.inside_of_ofJson hread) hlist

theorem Node.inside_of_mem_parts {j part : Json} {node : Node} (hnode : Node.ofJson j = .ok node)
    (hpart : part ∈ node.parts) : part.Inside j := by
  rcases Node.holds_of_ofJson hnode with ⟨kind, content, hholds, hmade⟩
  exact hmade.inside hholds hpart

theorem exists_inside_of_mem_parts {j : Json} {s t : Shape} (h : Reads j s)
    (ht : t ∈ s.parts) : ∃ part, part.Inside j ∧ Reads part t := by
  rcases reads_iff.mp h with ⟨node, hnode, hgives⟩
  rcases exists_of_forall₂_of_mem hgives.reads_parts.flip ht with ⟨part, hpart, hread⟩
  exact ⟨part, Node.inside_of_mem_parts hnode hpart, hread⟩

theorem depth_pos_of_reads {j : Json} {s : Shape} (h : Reads j s) : 0 < j.depth := by
  rcases reads_iff.mp h with ⟨node, hnode, _⟩
  rcases Node.holds_of_ofJson hnode with ⟨kind, content, hholds, _⟩
  cases hholds with
  | object hkind => exact Nat.succ_pos _
  | list hlists => exact Nat.succ_pos _

/-- Each level of a shape costs at least one level of its document. -/
theorem depth_le_of_reads {j : Json} {s : Shape} (h : Reads j s) : s.depth ≤ j.depth := by
  induction s using inductParts generalizing j with
  | parts s ih =>
      cases hdepth : j.depth with
      | zero =>
          have hpos := depth_pos_of_reads h
          rw [hdepth] at hpos
          cases hpos
      | succ n =>
          apply depth_le_succ_iff.mpr
          intro t ht
          rcases exists_inside_of_mem_parts h ht with ⟨part, hinside, hread⟩
          have hlt : part.depth < j.depth := Json.depth_lt_of_inside hinside
          rw [hdepth] at hlt
          exact Nat.le_trans (ih t ht hread) (Nat.le_of_lt_succ hlt)

end Shape
end ShapeCheck
