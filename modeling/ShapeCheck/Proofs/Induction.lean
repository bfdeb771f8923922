import ShapeCheck.Json.Basic
import ShapeCheck.Predicate.Basic

/-!
# Induction over shapes, checks, predicates, values and documents

All of these hold their parts in lists.  The principles below give, in one case for
each constructor, the hypothesis for every part in the list.
-/

set_option linter.unusedSectionVars false

namespace ShapeCheck

namespace Shape

section

variable {motive : Shape → Prop}
  (literal : ∀ value, motive (.literal value))
  (primitive : ∀ type, motive (.primitive type))
  (any : motive .any)
  (union : ∀ members, (∀ s ∈ members, motive s) → motive (.union members))
  (intersection : ∀ members, (∀ s ∈ members, motive s) → motive (.intersection members))
  (tuple : ∀ elements, (∀ s ∈ elements, motive s) → motive (.tuple elements))
  (array : ∀ element, motive element → motive (.array element))
  (object : ∀ fields, (∀ f ∈ fields, motive f.shape) → motive (.object fields))

include literal primitive any union intersection tuple array object

mutual
@[elab_as_elim, induction_eliminator]
theorem induct : ∀ s : Shape, motive s
  | .literal value => literal value
  | .primitive type => primitive type
  | .any => any
  | .union members => union members (inductList members)
  | .intersection members => intersection members (inductList members)
  | .tuple elements => tuple elements (inductList elements)
  | .array element => array element (induct element)
  | .object fields => object fields (inductFields fields)
termination_by structural s => s

private theorem inductList : ∀ shapes : List Shape, ∀ s ∈ shapes, motive s
  | [] => List.forall_mem_nil _
  | s :: rest => List.forall_mem_cons.mpr ⟨induct s, inductList rest⟩
termination_by structural shapes => shapes

private theorem inductFields : ∀ fields : List Field, ∀ f ∈ fields, motive f.shape
  | [] => List.forall_mem_nil _
  | ⟨_, shape, _⟩ :: rest => List.forall_mem_cons.mpr ⟨induct shape, inductFields rest⟩
termination_by structural fields => fields
end

end

end Shape

namespace Check

section

variable {motive : Check → Prop}
  (const : ∀ value, motive (.const value))
  (primitive : ∀ type, motive (.primitive type))
  (noop : motive .noop)
  (optional : ∀ inner, motive inner → motive (.optional inner))
  (union : ∀ members, (∀ c ∈ members, motive c) → motive (.union members))
  (intersection : ∀ members, (∀ c ∈ members, motive c) → motive (.intersection members))
  (tuple : ∀ elements, (∀ c ∈ elements, motive c) → motive (.tuple elements))
  (array : ∀ element, motive element → motive (.array element))
  (object : ∀ entries, (∀ e ∈ entries, motive e.2) → motive (.object entries))

include const primitive noop optional union intersection tuple array object

mutual
@[elab_as_elim, induction_eliminator]
theorem induct : ∀ c : Check, motive c
  | .const value => const value
  | .primitive type => primitive type
  | .noop => noop
  | .optional inner => optional inner (induct inner)
  | .union members => union members (inductList members)
  | .intersection members => intersection members (inductList members)
  | .tuple elements => tuple elements (inductList elements)
  | .array element => array element (induct element)
  | .object entries => object entries (inductEntries entries)
termination_by structural c => c

private theorem inductList : ∀ checks : List Check, ∀ c ∈ checks, motive c
  | [] => List.forall_mem_nil _
  | c :: rest => List.forall_mem_cons.mpr ⟨induct c, inductList rest⟩
termination_by structural checks => checks

private theorem inductEntries :
    ∀ entries : List (String × Check), ∀ e ∈ entries, motive e.2
  | [] => List.forall_mem_nil _
  | (_, c) :: rest => List.forall_mem_cons.mpr ⟨induct c, inductEntries rest⟩
termination_by structural entries => entries
end

end

end Check

namespace Predicate

section

variable {motive : Predicate → Prop}
  (const : ∀ value, motive (.const value))
  (primitive : ∀ type, motive (.primitive type))
  (noop : motive .noop)
  (probe : ∀ label answer, motive (.probe label answer))
  (optional : ∀ inner, motive inner → motive (.optional inner))
  (union : ∀ members, (∀ p ∈ members, motive p) → motive (.union members))
  (intersection : ∀ members, (∀ p ∈ members, motive p) → motive (.intersection members))
  (tuple : ∀ elements, (∀ p ∈ elements, motive p) → motive (.tuple elements))
  (array : ∀ element, motive element → motive (.array element))
  (object : ∀ entries, (∀ e ∈ entries, motive e.2) → motive (.object entries))

include const primitive noop probe optional union intersection tuple array object

mutual
@[elab_as_elim, induction_eliminator]
theorem induct : ∀ p : Predicate, motive p
  | .const value => const value
  | .primitive type => primitive type
  | .noop => noop
  | .probe label answer => probe label answer
  | .optional inner => optional inner (induct inner)
  | .union members => union members (inductList members)
  | .intersection members => intersection members (inductList members)
  | .tuple elements => tuple elements (inductList elements)
  | .array element => array element (induct element)
  | .object entries => object entries (inductEntries entries)
termination_by structural p => p

private theorem inductList : ∀ predicates : List Predicate, ∀ p ∈ predicates, motive p
  | [] => List.forall_mem_nil _
  | p :: rest => List.forall_mem_cons.mpr ⟨induct p, inductList rest⟩
termination_by structural predicates => predicates

private theorem inductEntries :
    ∀ entries : List (String × Predicate), ∀ e ∈ entries, motive e.2
  | [] => List.forall_mem_nil _
  | (_, p) :: rest => List.forall_mem_cons.mpr ⟨induct p, inductEntries rest⟩
termination_by structural entries => entries
end

end

end Predicate

namespace Value

section

variable {motive : Value → Prop}
  (undefined : motive .undefined)
  (null : motive .null)
  (bool : ∀ b, motive (.bool b))
  (number : ∀ x, motive (.number x))
  (text : ∀ s, motive (.text s))
  (array : ∀ items, (∀ item ∈ items, motive item) → motive (.array items))
  (object : ∀ members, (∀ m ∈ members, motive m.2) → motive (.object members))

include undefined null bool number text array object

mutual
@[elab_as_elim, induction_eliminator]
theorem induct : ∀ v : Value, motive v
  | .undefined => undefined
  | .null => null
  | .bool b => bool b
  | .number x => number x
  | .text s => text s
  | .array items => array items (inductItems items)
  | .object members => object members (inductMembers members)
termination_by structural v => v

private theorem inductItems : ∀ items : List Value, ∀ item ∈ items, motive item
  | [] => List.forall_mem_nil _
  | item :: rest => List.forall_mem_cons.mpr ⟨induct item, inductItems rest⟩
termination_by structural items => items

private theorem inductMembers :
    ∀ members : List (String × Value), ∀ m ∈ members, motive m.2
  | [] => List.forall_mem_nil _
  | (_, content) :: rest => List.forall_mem_cons.mpr ⟨induct content, inductMembers rest⟩
termination_by structural members => members
end

end

end Value

namespace Json

section

variable {motive : Json → Prop}
  (null : motive .null)
  (bool : ∀ b, motive (.bool b))
  (number : ∀ n, motive (.number n))
  (text : ∀ s, motive (.text s))
  (array : ∀ items, (∀ item ∈ items, motive item) → motive (.array items))
  (object : ∀ members, (∀ m ∈ members, motive m.2) → motive (.object members))

include null bool number text array object

mutual
@[elab_as_elim, induction_eliminator]
theorem induct : ∀ j : Json, motive j
  | .null => null
  | .bool b => bool b
  | .number n => number n
  | .text s => text s
  | .array items => array items (inductItems items)
  | .object members => object members (inductMembers members)
termination_by structural j => j

private theorem inductItems : ∀ items : List Json, ∀ item ∈ items, motive item
  | [] => List.forall_mem_nil _
  | item :: rest => List.forall_mem_cons.mpr ⟨induct item, inductItems rest⟩
termination_by structural items => items

private theorem inductMembers :
    ∀ members : List (String × Json), ∀ m ∈ members, motive m.2
  | [] => List.forall_mem_nil _
  | (_, content) :: rest => List.forall_mem_cons.mpr ⟨induct content, inductMembers rest⟩
termination_by structural members => members
end

end

end Json

end ShapeCheck
