import ShapeCheck.Proofs.Occurrence
import ShapeCheck.Proofs.Places
import ShapeCheck.Proofs.Recursion
import ShapeCheck.Validator

/-!
# Accepted values stay accepted

A value that a document can express, undefined members apart, is judged again after it
went through the document.  A member that was undefined is missing then, and looks the same
to the predicate of its key.  So whatever was accepted is accepted again.  What was
rejected can be accepted only if an object was rejected for an undefined member that is not
declared.
-/

namespace ShapeCheck
namespace Value

mutual
/-- Whether a document can express a value: all numbers are finite, and nothing is undefined
but members. -/
def isExpressible : Value → Bool
  | .undefined => false
  | .number x => x.isFinite
  | .array items => itemsExpressible items
  | .object members => membersExpressible members
  | _ => true
termination_by structural v => v

def itemsExpressible : List Value → Bool
  | [] => true
  | item :: rest => item.isExpressible && itemsExpressible rest
termination_by structural items => items

def membersExpressible : List (String × Value) → Bool
  | [] => true
  | (_, content) :: rest =>
      (content.isUndefined || content.isExpressible) && membersExpressible rest
termination_by structural members => members
end

theorem isExpressible_array_iff {items : List Value} :
    (array items).isExpressible = true ↔ ∀ item ∈ items, item.isExpressible = true := by
  rw [isExpressible]
  induction items with
  | nil => simp [itemsExpressible]
  | cons item rest ih => rw [itemsExpressible, Bool.and_eq_true, ih, List.forall_mem_cons]

theorem isExpressible_object_iff {members : List (String × Value)} :
    (object members).isExpressible = true ↔
      ∀ m ∈ members, m.2.isUndefined = true ∨ m.2.isExpressible = true := by
  rw [isExpressible]
  induction members with
  | nil => simp [membersExpressible]
  | cons m rest ih =>
      cases m with
      | mk name content =>
          rw [membersExpressible, Bool.and_eq_true, Bool.or_eq_true, ih, List.forall_mem_cons]

theorem isUndefined_of_isExpressible {v : Value} (h : v.isExpressible = true) :
    v.isUndefined = false := by
  cases v with
  | undefined => cases h
  | _ => rfl

/-!
## What comes back

What is undefined in a value that can be expressed is a member, and comes back as a missing
one.
-/

/-- A value, or what is missing, after it went through a document. -/
def returned (v : Value) : Value := if v.isUndefined then .undefined else ofJson v.toJson

structure Passes (v : Value) : Prop where
  names : v.namesDiffer = true
  content : v.isUndefined = true ∨ v.isExpressible = true

theorem returned_of_defined {v : Value} (h : v.isUndefined = false) :
    v.returned = ofJson v.toJson := by
  rw [returned, h, if_neg Bool.false_ne_true]

theorem isUndefined_returned (v : Value) : v.returned.isUndefined = v.isUndefined := by
  cases h : v.isUndefined with
  | true =>
      rw [returned, h, if_pos rfl]
      rfl
  | false => rw [returned_of_defined h, isUndefined_ofJson]

section Parts

variable {items : List Value} {members : List (String × Value)}

theorem Passes.isExpressible_of_defined {v : Value} (h : v.Passes) (hv : v.isUndefined = false) :
    v.isExpressible = true := by
  rcases h.content with hundefined | hexpressible
  · rw [hv] at hundefined
    cases hundefined
  · exact hexpressible

theorem Passes.item (h : (array items).Passes) {item : Value} (hitem : item ∈ items) :
    item.Passes := by
  constructor
  · exact namesDiffer_array_iff.mp h.names item hitem
  · right
    exact isExpressible_array_iff.mp (h.isExpressible_of_defined rfl) item hitem

theorem Passes.member (h : (object members).Passes) (name : String) :
    (memberOrUndefined members name).Passes := by
  constructor
  · exact namesDiffer_memberOrUndefined (namesDiffer_object_iff.mp h.names).2 name
  · rw [memberOrUndefined]
    cases hget : Entries.get? members name with
    | none => exact Or.inl rfl
    | some v =>
        have hmember := Entries.mem_of_get? hget
        exact isExpressible_object_iff.mp (h.isExpressible_of_defined rfl) _ hmember

theorem returned_number {x : Double} (h : (number x).Passes) :
    (number x).returned = .number x.unsignZero := by
  rw [returned_of_defined rfl, toJson]
  exact x.written_toJson.ofJson (h.isExpressible_of_defined rfl)

theorem returned_array (h : (array items).Passes) :
    (array items).returned = .array (items.map returned) := by
  rw [returned_of_defined rfl, toJson_array, ofJson_array, List.map_map]
  apply congrArg array
  apply List.map_congr_left
  intro item hitem
  have hexpressible := isExpressible_array_iff.mp (h.isExpressible_of_defined rfl) item hitem
  exact (returned_of_defined (isUndefined_of_isExpressible hexpressible)).symm

theorem returned_object (members : List (String × Value)) :
    (object members).returned =
      .object ((definedMembers members).map (fun m => (m.1, m.2.returned))) := by
  rw [returned_of_defined rfl, toJson_object, ofJson_object, List.map_map]
  apply congrArg object
  apply List.map_congr_left
  intro m hm
  have hdefined := isUndefined_of_mem_definedMembers hm
  exact congrArg (Prod.mk m.1) (returned_of_defined hdefined).symm

theorem memberOrUndefined_returned (h : Entries.Distinct members) (name : String) :
    memberOrUndefined ((definedMembers members).map (fun m => (m.1, m.2.returned))) name =
      (memberOrUndefined members name).returned := by
  rw [memberOrUndefined, memberOrUndefined, Entries.get?_map, get?_definedMembers h]
  cases hget : Entries.get? members name with
  | none => rfl
  | some v =>
      cases hundefined : v.isUndefined with
      | true =>
          rw [Option.filter_some_neg (by rw [hundefined, Bool.not_true])]
          cases v with
          | undefined => rfl
          | _ => cases hundefined
      | false =>
          rw [Option.filter_some_pos (by rw [hundefined, Bool.not_false])]
          rfl

end Parts

theorem kind_returned {v : Value} (h : v.Passes) : v.returned.kind = v.kind := by
  cases v with
  | number x => rw [returned_number h, kind, kind]
  | _ => rfl

theorem accepts_returned (a : Literal) {v : Value} (h : v.Passes) :
    a.accepts v.returned = a.accepts v := by
  cases v with
  | number x =>
      have hnan : x.isNaN = false := by
        rw [Double.isNaN, show x.isFinite = true from h.isExpressible_of_defined rfl]
        rfl
      rw [returned_number h]
      exact a.accepts_eq_of_same (Double.same_unsignZero hnan)
  | array items => cases a <;> rfl
  | object members => cases a <;> rfl
  | _ => rfl

end Value

/-!
## Runs on what comes back
-/

namespace Predicate

/-- An object has an undefined member that the predicate does not declare. -/
inductive MeetsUndeclared : Predicate → Value → Prop
  | member {entries : List (String × Predicate)} {members : List (String × Value)} {name : String}
      (hmember : Entries.get? members name = some .undefined)
      (hkey : Entries.has entries name = false) :
      MeetsUndeclared (.object entries) (.object members)

theorem MeetsUndeclared.test_eq_false {p : Predicate} {v : Value} (h : p.MeetsUndeclared v) :
    p.test v = false := by
  cases h with
  | @member entries members name hmember hkey =>
      have hall : members.all (fun m => Entries.has entries m.1) = false := by
        rw [List.all_eq_false]
        exact ⟨_, Entries.mem_of_get? hmember, by rw [hkey]; exact Bool.false_ne_true⟩
      rw [test_object, hall, Bool.false_and]

section Returned

variable {p : Predicate} {v : Value} (hv : v.Passes)

include hv

theorem passes_of_mem_tasks {task : Predicate × Value} (h : task ∈ p.tasks v) :
    task.2.Passes := by
  cases p with
  | optional inner =>
      rw [tasks] at h
      split at h
      · cases h
      · rw [List.mem_singleton.mp h]
        exact hv
  | union members =>
      rcases List.mem_map.mp h with ⟨q, _, rfl⟩
      exact hv
  | intersection members =>
      rcases List.mem_map.mp h with ⟨q, _, rfl⟩
      exact hv
  | tuple elements =>
      cases v with
      | array items =>
          rw [tasks] at h
          split at h
          · exact hv.item (List.of_mem_zip h).2
          · cases h
      | _ => cases h
  | array element =>
      cases v with
      | array items =>
          rcases List.mem_map.mp h with ⟨item, hitem, rfl⟩
          exact hv.item hitem
      | _ => cases h
  | object entries =>
      cases v with
      | object members =>
          rw [tasks] at h
          split at h
          · rcases List.mem_map.mp h with ⟨e, _, rfl⟩
            exact hv.member e.1
          · cases h
      | _ => cases h
  | _ => cases h

variable (hmeets : ¬ p.MeetsUndeclared v)

include hmeets

theorem suits_returned : p.suits v.returned = p.suits v := by
  cases p with
  | const value => exact Value.accepts_returned value hv
  | primitive type =>
      rcases type.exists_kind with ⟨kind, hkind⟩
      rw [suits, suits, hkind, hkind, Value.kind_returned hv]
  | tuple elements =>
      cases v with
      | array items => rw [Value.returned_array hv, suits, suits, List.length_map]
      | number x =>
          rw [Value.returned_number hv]
          rfl
      | _ => rfl
  | array element =>
      cases v with
      | number x =>
          rw [Value.returned_number hv]
          rfl
      | _ => rfl
  | object entries =>
      cases v with
      | object members =>
          rw [Value.returned_object, suits, suits, List.all_map, Bool.eq_iff_iff,
            List.all_eq_true, List.all_eq_true]
          constructor
          · intro h m hm
            cases hundefined : m.2.isUndefined with
            | false => exact h m (List.mem_filter.mpr ⟨hm, by rw [hundefined, Bool.not_false]⟩)
            | true =>
                -- An undefined member is declared, or the predicate would meet it.
                by_contra hkey
                apply hmeets
                have hdistinct := (Value.namesDiffer_object_iff.mp hv.names).1
                have hget := Entries.get?_of_mem hdistinct hm
                cases hcontent : m.2 with
                | undefined =>
                    rw [hcontent] at hget
                    exact .member hget (Bool.eq_false_iff.mpr hkey)
                | _ =>
                    rw [hcontent] at hundefined
                    cases hundefined
          · intro h m hm
            exact h m (Value.mem_of_mem_definedMembers hm)
      | number x =>
          rw [Value.returned_number hv]
          rfl
      | _ => rfl
  | _ => rfl

theorem tasks_returned :
    p.tasks v.returned = (p.tasks v).map (fun task => (task.1, task.2.returned)) := by
  cases p with
  | optional inner =>
      rw [tasks, tasks, Value.isUndefined_returned]
      cases v.isUndefined <;> rfl
  | union members =>
      rw [tasks, tasks, List.map_map]
      rfl
  | intersection members =>
      rw [tasks, tasks, List.map_map]
      rfl
  | tuple elements =>
      cases v with
      | array items =>
          rw [Value.returned_array hv, tasks, tasks, List.length_map]
          by_cases hlength : items.length = elements.length
          · rw [if_pos hlength, if_pos hlength, List.zip_map_right]
            rfl
          · rw [if_neg hlength, if_neg hlength]
            rfl
      | number x =>
          rw [Value.returned_number hv]
          rfl
      | _ => rfl
  | array element =>
      cases v with
      | array items =>
          rw [Value.returned_array hv, tasks, tasks, List.map_map, List.map_map]
          rfl
      | number x =>
          rw [Value.returned_number hv]
          rfl
      | _ => rfl
  | object entries =>
      cases v with
      | object members =>
          have hsuits := suits_returned hv hmeets
          have hdistinct := (Value.namesDiffer_object_iff.mp hv.names).1
          rw [Value.returned_object] at hsuits ⊢
          rw [suits, suits] at hsuits
          rw [tasks, tasks, hsuits]
          split
          · rw [List.map_map]
            apply List.map_congr_left
            intro e _
            exact congrArg (Prod.mk e.2) (Value.memberOrUndefined_returned hdistinct e.1)
          · rfl
      | number x =>
          rw [Value.returned_number hv]
          rfl
      | _ => rfl
  | _ => rfl

end Returned

/-!
## Verdicts on what comes back
-/

/-- What is accepted is accepted again, and what is accepted only then has met an undeclared
member. -/
structure Persists (p : Predicate) (v : Value) : Prop where
  accepted : p.test v = true → p.test v.returned = true
  rejected : p.test v.returned = true →
    p.test v = true ∨ ∃ q w, p.Reaches v q w ∧ q.MeetsUndeclared w

section Tasks

variable {p : Predicate} {tasks : List (Predicate × Value)}
  {change : Predicate × Value → Predicate × Value}

theorem verdictOn_map
    (h : ∀ task ∈ tasks, task.1.test task.2 = true → (change task).1.test (change task).2 = true)
    (hverdict : p.verdictOn tasks = true) : p.verdictOn (tasks.map change) = true := by
  rw [verdictOn] at hverdict ⊢
  split
  · rename_i hsettling
    rw [if_pos hsettling, List.any_eq_true] at hverdict
    rcases hverdict with ⟨task, htask, haccepted⟩
    exact List.any_eq_true.mpr ⟨change task, List.mem_map_of_mem htask, h task htask haccepted⟩
  · rename_i hsettling
    rw [if_neg hsettling, List.all_eq_true] at hverdict
    rw [List.all_eq_true, List.forall_mem_map]
    exact fun task htask => h task htask (hverdict task htask)

/-- If tasks are rejected and accepted when they are changed, then one of those that are looked
at is so, too. -/
theorem exists_first_changed (hverdict : p.verdictOn tasks = false)
    (hchanged : p.verdictOn (tasks.map change) = true) :
    ∃ k task, FirstAt (fun t => t.1.test t.2 ≠ p.settling) tasks k task ∧
      task.1.test task.2 = false ∧ (change task).1.test (change task).2 = true := by
  rw [verdictOn] at hverdict hchanged
  cases hsettling : p.settling with
  | true =>
      rw [hsettling, if_pos rfl, List.any_eq_false] at hverdict
      rw [hsettling, if_pos rfl, List.any_eq_true] at hchanged
      rcases hchanged with ⟨other, hother, haccepted⟩
      rcases List.mem_map.mp hother with ⟨task, htask, rfl⟩
      rcases FirstAt.exists_of_mem hverdict htask with ⟨k, hfirst⟩
      exact ⟨k, task, hfirst, Bool.eq_false_iff.mpr (hverdict task htask), haccepted⟩
  | false =>
      rw [hsettling, if_neg Bool.false_ne_true] at hverdict hchanged
      rw [List.all_eq_true, List.forall_mem_map] at hchanged
      have hbad : ¬ ∀ task ∈ tasks, task.1.test task.2 ≠ false := by
        intro hgood
        rw [List.all_eq_false] at hverdict
        rcases hverdict with ⟨task, htask, hrejected⟩
        exact hgood task htask (Bool.eq_false_iff.mpr hrejected)
      rcases FirstAt.exists_bad hbad with ⟨k, task, hfirst, hrejected⟩
      exact ⟨k, task, hfirst, Decidable.not_not.mp hrejected,
        hchanged task (List.mem_of_getElem? hfirst.place)⟩

end Tasks

theorem persists_of_tasks {p : Predicate} {v : Value} (hv : v.Passes)
    (htasks : ∀ task ∈ p.tasks v, Persists task.1 task.2) : Persists p v := by
  by_cases hmeets : p.MeetsUndeclared v
  · constructor
    · intro haccepted
      rw [hmeets.test_eq_false] at haccepted
      cases haccepted
    · exact fun _ => Or.inr ⟨p, v, .refl, hmeets⟩
  · have hreturned : p.test v.returned = (p.suits v &&
        p.verdictOn ((p.tasks v).map (fun task => (task.1, task.2.returned)))) := by
      rw [test_eq_suits_and_verdictOn, suits_returned hv hmeets, tasks_returned hv hmeets]
    constructor
    · intro haccepted
      rw [test_eq_suits_and_verdictOn, Bool.and_eq_true] at haccepted
      rw [hreturned, haccepted.1, Bool.true_and]
      exact verdictOn_map (fun task htask => (htasks task htask).accepted) haccepted.2
    · intro hagain
      rw [hreturned, Bool.and_eq_true] at hagain
      cases hverdict : p.verdictOn (p.tasks v) with
      | true =>
          left
          rw [test_eq_suits_and_verdictOn, hagain.1, hverdict, Bool.and_self]
      | false =>
          right
          rcases exists_first_changed hverdict hagain.2 with
            ⟨k, task, hfirst, hrejected, haccepted⟩
          have htask := htasks task (List.mem_of_getElem? hfirst.place)
          rcases htask.rejected haccepted with hcontra | ⟨q, w, hreaches, hundeclared⟩
          · rw [hrejected] at hcontra
            cases hcontra
          · exact ⟨q, w, Relation.ReflTransGen.head ⟨k, hfirst⟩ hreaches, hundeclared⟩

end Predicate

theorem Check.persists (c : Check) {v : Value} (hv : v.Passes) :
    Predicate.Persists c.bind v := by
  induction c using Check.inductChildren generalizing v with
  | children c ih =>
      apply Predicate.persists_of_tasks hv
      intro task htask
      rcases Check.exists_child_of_mem_tasks htask with ⟨d, hd, hbind⟩
      rw [← hbind]
      exact ih d hd (Predicate.passes_of_mem_tasks hv htask)

namespace Validator

/-- A value with finite numbers, in which only members are undefined, is accepted as a document
if it is accepted.  If it is accepted as a document only, then its own run has met an undefined
member that is not declared. -/
theorem accepted_as_document (c : Check) {v : Value} (hnames : v.namesDiffer = true)
    (hexpressible : v.isExpressible = true) :
    ((∃ w, (ofCheck c).validate v = .ok w) →
      (ofCheck c).validateJson v.toJson = .ok v.toJson) ∧
    ((∃ k, (ofCheck c).validateJson v.toJson = .ok k) →
      (∃ w, (ofCheck c).validate v = .ok w) ∨
        ∃ p w, c.bind.Reaches v p w ∧ p.MeetsUndeclared w) := by
  have hpersists := c.persists ⟨hnames, Or.inr hexpressible⟩
  have hreturned := Value.returned_of_defined (Value.isUndefined_of_isExpressible hexpressible)
  constructor
  · rintro ⟨w, hw⟩
    have haccepted := hpersists.accepted (validate_eq_ok_iff.mp hw).1
    rw [hreturned] at haccepted
    exact validateJson_eq_ok_iff.mpr ⟨haccepted, rfl⟩
  · rintro ⟨k, hk⟩
    have haccepted := (validateJson_eq_ok_iff.mp hk).1
    rw [← hreturned] at haccepted
    rcases hpersists.rejected haccepted with htest | hmeets
    · exact Or.inl ⟨v, validate_eq_ok_iff.mpr ⟨htest, rfl⟩⟩
    · exact Or.inr hmeets

/-- Undefined members of an object and of an object inside it, all declared, and a zero of the
other sign than the literal has.  With one more undefined member, which is not declared, the
same document is accepted, but not the value. -/
theorem accepted_as_document_nested :
    let c := Check.union
      [.primitive .text,
        .object
          [("a", .optional (.primitive .number)),
            ("b", .array (.object [("m", .const .undefined), ("n", .const (.number (.zero false)))]))]]
    let members :=
      [("a", Value.undefined),
        ("b", .array [.object [("n", .number (.zero true)), ("m", .undefined)]])]
    let v := Value.object members
    let more := Value.object (("z", .undefined) :: members)
    v.namesDiffer = true ∧ v.isExpressible = true ∧ (ofCheck c).validate v = .ok v ∧
      (ofCheck c).validateJson v.toJson = .ok v.toJson ∧ more.toJson = v.toJson ∧
      (ofCheck c).validate more = .error rejection ∧
      ∃ p w, c.bind.Reaches more p w ∧ p.MeetsUndeclared w := by
  intro c members v more
  have hnames : v.namesDiffer = true := by decide
  have hexpressible : v.isExpressible = true := by decide
  have haccepted : (ofCheck c).validate v = .ok v :=
    validate_eq_ok_iff.mpr ⟨by decide, rfl⟩
  have hdocument := (accepted_as_document c hnames hexpressible).1 ⟨v, haccepted⟩
  have hrejected : (ofCheck c).isValid more = false := by decide
  have hmore : (ofCheck c).validate more = .error rejection := by
    rw [validate, hrejected, if_neg Bool.false_ne_true]
  refine ⟨hnames, hexpressible, haccepted, hdocument, rfl, hmore, ?_⟩
  rcases (accepted_as_document c (show more.namesDiffer = true by decide)
    (show more.isExpressible = true by decide)).2 ⟨v.toJson, hdocument⟩ with ⟨w, hw⟩ | hmeets
  · rw [hmore] at hw
    cases hw
  · exact hmeets

end Validator
end ShapeCheck
