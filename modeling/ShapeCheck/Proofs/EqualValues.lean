import Mathlib.Data.List.Perm.Subperm
import ShapeCheck.Proofs.Alike

/-!
# Equal values

Equality of values ignores the order of the members of objects, at every depth, and the
sign of zero.  Checks walk through members in their own order and look them up by name, so
none of them tells equal values apart.
-/

namespace ShapeCheck

theorem all_eq_of_forall_mem {α : Type} {l : List α} {p q : α → Bool}
    (h : ∀ a ∈ l, p a = q a) : l.all p = l.all q := by
  rw [Bool.eq_iff_iff, List.all_eq_true, List.all_eq_true]
  exact forall₂_congr fun a ha => by rw [h a ha]

namespace Value

mutual
/-- Whether no object in a value has two members of one name. -/
def namesDiffer : Value → Bool
  | .array items => namesDifferInItems items
  | .object members =>
      decide (Entries.names members).Nodup && namesDifferInMembers members
  | _ => true
termination_by structural v => v

def namesDifferInItems : List Value → Bool
  | [] => true
  | item :: rest => item.namesDiffer && namesDifferInItems rest
termination_by structural items => items

def namesDifferInMembers : List (String × Value) → Bool
  | [] => true
  | (_, content) :: rest => content.namesDiffer && namesDifferInMembers rest
termination_by structural members => members
end

theorem namesDiffer_array_iff {items : List Value} :
    (Value.array items).namesDiffer = true ↔ ∀ item ∈ items, item.namesDiffer = true := by
  rw [namesDiffer]
  induction items with
  | nil => simp [namesDifferInItems]
  | cons item rest ih => rw [namesDifferInItems, Bool.and_eq_true, ih, List.forall_mem_cons]

theorem namesDiffer_object_iff {members : List (String × Value)} :
    (Value.object members).namesDiffer = true ↔
      Entries.Distinct members ∧ ∀ m ∈ members, m.2.namesDiffer = true := by
  have hmembers : namesDifferInMembers members = true ↔
      ∀ m ∈ members, m.2.namesDiffer = true := by
    induction members with
    | nil => simp [namesDifferInMembers]
    | cons m rest ih =>
        cases m with
        | mk name content =>
            rw [namesDifferInMembers, Bool.and_eq_true, ih, List.forall_mem_cons]
  rw [namesDiffer, Bool.and_eq_true, decide_eq_true_iff, hmembers]
  rfl

/-!
## What equality says
-/

theorem kind_eq_of_same {v w : Value} (h : v.same w = true) : v.kind = w.kind := by
  cases v <;> cases w <;> first | rfl | cases h

theorem exists_items_of_same {items : List Value} {w : Value}
    (h : (Value.array items).same w = true) :
    ∃ others, w = .array others ∧ List.Forall₂ (fun v w => v.same w = true) items others := by
  have hitems : ∀ {others : List Value}, sameItems items others = true →
      List.Forall₂ (fun v w => v.same w = true) items others := by
    intro others hsame
    clear h
    induction items generalizing others with
    | nil =>
        cases others with
        | nil => exact .nil
        | cons other others => cases hsame
    | cons item rest ih =>
        cases others with
        | nil => cases hsame
        | cons other others =>
            rw [sameItems, Bool.and_eq_true] at hsame
            exact .cons hsame.1 (ih hsame.2)
  cases w with
  | array others => exact ⟨others, rfl, hitems h⟩
  | _ => cases h

theorem exists_members_of_same {members : List (String × Value)} {w : Value}
    (h : (Value.object members).same w = true) :
    ∃ others, w = .object others ∧ members.length = others.length ∧
      ∀ m ∈ members, ∃ content, Entries.get? others m.1 = some content ∧
        m.2.same content = true := by
  have hmembers : ∀ {others : List (String × Value)}, sameMembers members others = true →
      ∀ m ∈ members, ∃ content, Entries.get? others m.1 = some content ∧
        m.2.same content = true := by
    intro others hsame
    clear h
    induction members with
    | nil => exact List.forall_mem_nil _
    | cons m rest ih =>
        cases m with
        | mk name v =>
            rw [sameMembers, Bool.and_eq_true] at hsame
            refine List.forall_mem_cons.mpr ⟨?_, ih hsame.2⟩
            cases hget : Entries.get? others name with
            | none =>
                rw [hget] at hsame
                cases hsame.1
            | some content =>
                rw [hget] at hsame
                exact ⟨content, rfl, hsame.1⟩
  cases w with
  | object others =>
      rw [same, Bool.and_eq_true, beq_iff_eq] at h
      exact ⟨others, rfl, h.1, hmembers h.2⟩
  | _ => cases h

/-- Equal objects have the same names: as many as each other, and those of the first, which
differ, are among those of the second. -/
theorem names_perm_of_same {members others : List (String × Value)}
    (hdistinct : Entries.Distinct members)
    (h : (Value.object members).same (.object others) = true) :
    (Entries.names members).Perm (Entries.names others) := by
  rcases exists_members_of_same h with ⟨_, heq, hlength, hcontent⟩
  cases heq
  have hsub : Entries.names members ⊆ Entries.names others := by
    intro name hname
    rcases List.mem_map.mp hname with ⟨m, hm, rfl⟩
    rcases hcontent m hm with ⟨content, hget, _⟩
    exact Entries.mem_names_of_mem (Entries.mem_of_get? hget)
  have hle : (Entries.names others).length ≤ (Entries.names members).length := by
    rw [Entries.names, Entries.names, List.length_map, List.length_map]
    exact Nat.le_of_eq hlength.symm
  exact (List.subperm_of_subset hdistinct hsub).perm_of_length_le hle

theorem same_memberOrUndefined {members others : List (String × Value)}
    (hdistinct : Entries.Distinct members)
    (h : (Value.object members).same (.object others) = true) (name : String) :
    (memberOrUndefined members name).same (memberOrUndefined others name) = true := by
  rw [memberOrUndefined, memberOrUndefined]
  cases hget : Entries.get? members name with
  | some v =>
      rcases exists_members_of_same h with ⟨_, heq, _, hcontent⟩
      cases heq
      rcases hcontent _ (Entries.mem_of_get? hget) with ⟨w, hother, hsame⟩
      rw [hother]
      exact hsame
  | none =>
      have hnone : Entries.get? others name = none := by
        rw [Entries.get?_eq_none_iff_not_mem_names] at hget ⊢
        rw [← (names_perm_of_same hdistinct h).mem_iff]
        exact hget
      rw [hnone]
      rfl

theorem namesDiffer_memberOrUndefined {members : List (String × Value)}
    (h : ∀ m ∈ members, m.2.namesDiffer = true) (name : String) :
    (memberOrUndefined members name).namesDiffer = true := by
  rw [memberOrUndefined]
  cases hget : Entries.get? members name with
  | none => rfl
  | some v => exact h _ (Entries.mem_of_get? hget)

end Value

/-!
## Scalars
-/

theorem Double.same_comm (x y : Double) : x.same y = y.same x := by
  have hbits : decide (x.bits = y.bits) = decide (y.bits = x.bits) :=
    decide_eq_decide.mpr eq_comm
  rw [Double.same, Double.same, hbits, Bool.and_comm (!x.isNaN), Bool.and_comm x.isZero]

theorem Double.same_eq_of_same (x : Double) {y z : Double} (h : y.same z = true) :
    x.same y = x.same z := by
  rw [Double.same_comm x y, Double.same_comm x z]
  apply Double.same_eq_of_alike
  rw [Double.alike, h, Bool.or_true]

theorem Literal.accepts_eq_of_same (a : Literal) {v w : Value} (h : v.same w = true) :
    a.accepts v = a.accepts w := by
  cases v with
  | undefined =>
      cases w with
      | undefined => rfl
      | _ => cases h
  | null =>
      cases w with
      | null => rfl
      | _ => cases h
  | bool b =>
      cases w with
      | bool b' => rw [eq_of_beq h]
      | _ => cases h
  | number y =>
      cases w with
      | number z =>
          cases a with
          | number x => exact x.same_eq_of_same h
          | _ => rfl
      | _ => cases h
  | text s =>
      cases w with
      | text s' => rw [eq_of_beq h]
      | _ => cases h
  | array items =>
      cases w with
      | array others => cases a <;> rfl
      | _ => cases h
  | object members =>
      cases w with
      | object others => cases a <;> rfl
      | _ => cases h

theorem Primitive.exists_kind (type : Primitive) :
    ∃ kind, ∀ v, type.accepts v = decide (v.kind = kind) := by
  cases type with
  | text => exact ⟨.string, fun v => by cases v <;> rfl⟩
  | number => exact ⟨.number, fun v => by cases v <;> rfl⟩
  | boolean => exact ⟨.boolean, fun v => by cases v <;> rfl⟩

/-!
## Predicates
-/

namespace Predicate

def RespectsEquality (p : Predicate) : Prop :=
  ∀ v w : Value, v.namesDiffer = true → v.same w = true → p.test v = p.test w

theorem respects_const (a : Literal) : RespectsEquality (const a) := by
  intro v w _ h
  exact a.accepts_eq_of_same h

theorem respects_primitive (type : Primitive) : RespectsEquality (primitive type) := by
  intro v w _ h
  rcases type.exists_kind with ⟨kind, hkind⟩
  show type.accepts v = type.accepts w
  rw [hkind v, hkind w, Value.kind_eq_of_same h]

theorem respects_optional {p : Predicate} (hp : RespectsEquality p) :
    RespectsEquality (optional p) := by
  have hundefined : ∀ v : Value, v.isUndefined = decide (v.kind = .undefined) := by
    intro v
    cases v <;> rfl
  intro v w hnames h
  rw [test_optional, test_optional, hp v w hnames h, hundefined v, hundefined w,
    Value.kind_eq_of_same h]

/-!
A predicate for arrays or for objects rejects all else, so it looks at two values of its own
kind or rejects both.
-/

theorem test_eq_of_kind_ne {p : Predicate} {kind : Value.Kind}
    (hreject : ∀ v : Value, v.kind ≠ kind → p.test v = false) {v w : Value}
    (h : v.same w = true) (hkind : v.kind ≠ kind) : p.test v = p.test w := by
  rw [hreject v hkind, hreject w (Value.kind_eq_of_same h ▸ hkind)]

theorem test_tuple_of_kind_ne (ps : List Predicate) {v : Value} (h : v.kind ≠ .array) :
    (tuple ps).test v = false := by
  cases v with
  | array items => exact absurd rfl h
  | _ => rfl

theorem test_array_of_kind_ne (p : Predicate) {v : Value} (h : v.kind ≠ .array) :
    (array p).test v = false := by
  cases v with
  | array items => exact absurd rfl h
  | _ => rfl

theorem test_object_of_kind_ne (entries : List (String × Predicate)) {v : Value}
    (h : v.kind ≠ .object) : (object entries).test v = false := by
  cases v with
  | object members => exact absurd rfl h
  | _ => rfl

theorem respects_array {p : Predicate} (hp : RespectsEquality p) :
    RespectsEquality (array p) := by
  intro v w hnames h
  cases v with
  | array items =>
      rcases Value.exists_items_of_same h with ⟨others, rfl, hitems⟩
      rw [Value.namesDiffer_array_iff] at hnames
      rw [test_array, test_array]
      clear h
      induction hitems with
      | nil => rfl
      | cons hsame _ ih =>
          rcases List.forall_mem_cons.mp hnames with ⟨hitem, hrest⟩
          rw [List.all_cons, List.all_cons, hp _ _ hitem hsame, ih hrest]
  | _ => exact test_eq_of_kind_ne (fun _ => test_array_of_kind_ne p) h (by simp [Value.kind])

section Lists

variable {ps : List Predicate} (hps : ∀ p ∈ ps, RespectsEquality p)

include hps

theorem respects_union : RespectsEquality (union ps) := by
  intro v w hnames h
  rw [test_union, test_union]
  induction ps with
  | nil => rfl
  | cons p rest ih =>
      rcases List.forall_mem_cons.mp hps with ⟨hp, hrest⟩
      rw [List.any_cons, List.any_cons, hp v w hnames h, ih hrest]

theorem respects_intersection : RespectsEquality (intersection ps) := by
  intro v w hnames h
  rw [test_intersection, test_intersection]
  exact all_eq_of_forall_mem fun p hp => hps p hp v w hnames h

theorem respects_tuple : RespectsEquality (tuple ps) := by
  intro v w hnames h
  cases v with
  | array items =>
      rcases Value.exists_items_of_same h with ⟨others, rfl, hitems⟩
      rw [Value.namesDiffer_array_iff] at hnames
      rw [test_tuple, test_tuple, hitems.length_eq]
      apply congrArg
      clear h
      induction hitems generalizing ps with
      | nil => rw [List.zip_nil_right]
      | cons hsame _ ih =>
          rcases List.forall_mem_cons.mp hnames with ⟨hitem, hrest⟩
          cases ps with
          | nil => rfl
          | cons p ps =>
              rcases List.forall_mem_cons.mp hps with ⟨hp, hps⟩
              rw [List.zip_cons_cons, List.zip_cons_cons, List.all_cons, List.all_cons,
                hp _ _ hitem hsame, ih hps hrest]
  | _ => exact test_eq_of_kind_ne (fun _ => test_tuple_of_kind_ne ps) h (by simp [Value.kind])

end Lists

theorem respects_object {entries : List (String × Predicate)}
    (hentries : ∀ e ∈ entries, RespectsEquality e.2) : RespectsEquality (object entries) := by
  intro v w hnames h
  cases v with
  | object members =>
      rcases Value.exists_members_of_same h with ⟨others, rfl, _⟩
      rcases Value.namesDiffer_object_iff.mp hnames with ⟨hdistinct, hcontents⟩
      have hdeclared : members.all (fun m => Entries.has entries m.1) =
          others.all (fun m => Entries.has entries m.1) := by
        have hall : ∀ members : List (String × Value),
            members.all (fun m => Entries.has entries m.1) =
              (Entries.names members).all (Entries.has entries) := by
          intro members
          rw [Entries.names, List.all_map]
          rfl
        rw [hall members, hall others]
        exact (Value.names_perm_of_same hdistinct h).all_eq
      rw [test_object, test_object, hdeclared]
      apply congrArg
      apply all_eq_of_forall_mem
      intro e he
      exact hentries e he _ _ (Value.namesDiffer_memberOrUndefined hcontents e.1)
        (Value.same_memberOrUndefined hdistinct h e.1)
  | _ =>
      exact test_eq_of_kind_ne (fun _ => test_object_of_kind_ne entries) h (by simp [Value.kind])

end Predicate

/-!
## Checks
-/

namespace Check

theorem respects_bindAll {checks : List Check}
    (h : ∀ c ∈ checks, Predicate.RespectsEquality c.bind) :
    ∀ p ∈ bindAll checks, Predicate.RespectsEquality p := by
  rw [bindAll_eq_map]
  exact List.forall_mem_map.mpr h

/-- Of entries with one key one is kept, with the predicate of one of them. -/
theorem respects_bindEntries {entries : List (String × Check)}
    (h : ∀ e ∈ entries, Predicate.RespectsEquality e.2.bind) :
    ∀ e ∈ Entries.ofList (bindEntries entries), Predicate.RespectsEquality e.2 := by
  intro e he
  have hbound := Entries.mem_of_mem_ofList he
  rw [bindEntries_eq_map] at hbound
  rcases List.mem_map.mp hbound with ⟨entry, hentry, rfl⟩
  exact h entry hentry

/-- Equal values get the same verdict from every check.  That no object has two members of one
name is asked of the first value only. -/
theorem test_eq_of_same (c : Check) {v w : Value} (hnames : v.namesDiffer = true)
    (h : v.same w = true) : c.bind.test v = c.bind.test w := by
  have hrespects : Predicate.RespectsEquality c.bind := by
    clear hnames h
    induction c with
    | const value => exact Predicate.respects_const value
    | primitive type => exact Predicate.respects_primitive type
    | noop => exact fun _ _ _ _ => rfl
    | optional inner ih => exact Predicate.respects_optional ih
    | union members ih => exact Predicate.respects_union (respects_bindAll ih)
    | intersection members ih => exact Predicate.respects_intersection (respects_bindAll ih)
    | tuple elements ih => exact Predicate.respects_tuple (respects_bindAll ih)
    | array element ih => exact Predicate.respects_array ih
    | object entries ih => exact Predicate.respects_object (respects_bindEntries ih)
  exact hrespects v w hnames h

/-- The members in another order at both levels, a zero of the other sign, and a check with a
repeated key. -/
theorem test_eq_of_same_nested :
    let c := Check.object
      [("a", .primitive .text),
        ("b", .optional (.object [("x", .const (.number (.zero false))), ("y", .noop)])),
        ("a", .array (.primitive .boolean))]
    let v := Value.object
      [("a", .array [.bool true]), ("b", .object [("x", .number (.zero true)), ("y", .null)])]
    let w := Value.object
      [("b", .object [("y", .null), ("x", .number (.zero false))]), ("a", .array [.bool true])]
    v.namesDiffer = true ∧ v.same w = true ∧ c.bind.test v = true ∧
      c.bind.test v = c.bind.test w := by
  intro c v w
  have hnames : v.namesDiffer = true := by decide
  have hsame : v.same w = true := by decide
  exact ⟨hnames, hsame, by decide, test_eq_of_same c hnames hsame⟩

end Check
end ShapeCheck
