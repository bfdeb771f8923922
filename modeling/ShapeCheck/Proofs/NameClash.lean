import Mathlib.Data.List.Nodup
import Mathlib.Data.List.Pairwise
import ShapeCheck.Proofs.Manifest

/-!
# Which names clash

Each declaration takes two names in the module, one made from its own by a word before it
and one by a word after it.  Two names of the first kind are equal, or two of the second,
if the declarations differ in the case of their first letter only.  A name of the first
kind is one of the second if the words of both stand around the same text.  Nothing else
can clash but a name of the first kind with a combinator.
-/

namespace ShapeCheck

def EqualButInitial (a b : String) : Prop :=
  a.toList.head?.map Char.toUpper = b.toList.head?.map Char.toUpper ∧
    a.toList.tail = b.toList.tail

instance (a b : String) : Decidable (EqualButInitial a b) :=
  inferInstanceAs (Decidable (_ ∧ _))

/-- A text that is empty or starts with anything but a small letter. -/
def NotStartingSmall (text : String) : Prop :=
  ∀ c, text.toList.head? = some c → c.isLower = false

/-- What the combinators are called, without the word before it. -/
def combinatorWords : List String :=
  ["Const", "Text", "Number", "Boolean", "Optional", "Union", "Intersection", "Tuple", "Array",
    "Object"]

/-- Why the names of declarations cannot stand in one module. -/
inductive Clash (names : List String) : Prop
  | combinator {name word : String} (hname : name ∈ names) (hword : word ∈ combinatorWords)
      (h : EqualButInitial name word) : Clash names
  | initial {a b : String} (ha : a ∈ names) (hb : b ∈ names) (hne : a ≠ b)
      (h : EqualButInitial a b) : Clash names
  | words {a b : String} (ha : a ∈ names) (hb : b ∈ names) (hne : a ≠ b) {middle : String}
      (hmiddle : NotStartingSmall middle) (hbefore : EqualButInitial a (middle ++ "Schema"))
      (hafter : EqualButInitial b ("validate" ++ middle)) : Clash names

/-!
## First letters
-/

theorem toUpper_of_not_isLower {c : Char} (h : c.isLower = false) : c.toUpper = c := by
  apply dif_neg
  intro hrange
  have hlower : c.isLower = true :=
    Bool.and_eq_true_iff.mpr ⟨decide_eq_true hrange.1, decide_eq_true hrange.2⟩
  rw [h] at hlower
  cases hlower

namespace Identifier

theorem cases_cases_of_isStart {c : Char} (h : isStart c = true) :
    c.toUpper.toLower = c.toLower ∧ c.toLower.toUpper = c.toUpper ∧ c.toUpper.isLower = false := by
  have hall : ∀ n < 128, isStart (Char.ofNat n) = true →
      (Char.ofNat n).toUpper.toLower = (Char.ofNat n).toLower ∧
        (Char.ofNat n).toLower.toUpper = (Char.ofNat n).toUpper ∧
        (Char.ofNat n).toUpper.isLower = false := by
    decide +kernel
  have hchar := hall c.toNat (toNat_lt_of_isStart h)
  rw [Char.ofNat_toNat] at hchar
  exact hchar h

theorem toUpper_eq_iff_toLower_eq {c d : Char} (hc : isStart c = true) (hd : isStart d = true) :
    c.toUpper = d.toUpper ↔ c.toLower = d.toLower := by
  constructor
  · intro h
    rw [← (cases_cases_of_isStart hc).1, h, (cases_cases_of_isStart hd).1]
  · intro h
    rw [← (cases_cases_of_isStart hc).2.1, h, (cases_cases_of_isStart hd).2.1]

end Identifier

theorem equalButInitial_iff {a b : String} {first first' : Char} {rest rest' : List Char}
    (ha : a.toList = first :: rest) (hb : b.toList = first' :: rest') :
    EqualButInitial a b ↔ first.toUpper = first'.toUpper ∧ rest = rest' := by
  rw [EqualButInitial, ha, hb]
  exact and_congr_left fun _ => Option.some_inj

/-!
## Names of one kind
-/

section Names

variable {a b : String} (ha : isIdentifier a = true) (hb : isIdentifier b = true)

include ha hb

theorem functionName_eq_iff : functionName a = functionName b ↔ EqualButInitial a b := by
  rcases isIdentifier_iff.mp ha with ⟨first, rest, hlist, hfirst, _⟩
  rcases isIdentifier_iff.mp hb with ⟨first', rest', hlist', hfirst', _⟩
  rw [equalButInitial_iff hlist hlist', ← String.toList_inj, toList_functionName hlist hfirst,
    toList_functionName hlist' hfirst', List.append_cancel_left_eq, List.cons.injEq]

theorem schemaName_eq_iff : schemaName a = schemaName b ↔ EqualButInitial a b := by
  rcases isIdentifier_iff.mp ha with ⟨first, rest, hlist, hfirst, _⟩
  rcases isIdentifier_iff.mp hb with ⟨first', rest', hlist', hfirst', _⟩
  rw [equalButInitial_iff hlist hlist', Identifier.toUpper_eq_iff_toLower_eq hfirst hfirst',
    ← String.toList_inj, toList_schemaName hlist hfirst, toList_schemaName hlist' hfirst',
    List.append_cancel_right_eq, List.cons.injEq]

end Names

/-!
## Names of both kinds
-/

/-- No end of the word before is a beginning of the word after, so both words stand apart
in a text that starts with one and ends with the other. -/
theorem exists_middle {before after : List Char}
    (h : "validate".toList ++ after = before ++ "Schema".toList) :
    ∃ middle : String, before = "validate".toList ++ middle.toList ∧
      after = middle.toList ++ "Schema".toList := by
  rcases List.append_eq_append_iff.mp h with ⟨middle, hbefore, hafter⟩ | ⟨overlap, hbefore, hafter⟩
  · have hmiddle : (String.ofList middle).toList = middle := String.toList_ofList
    refine ⟨String.ofList middle, ?_, ?_⟩
    · rw [hmiddle]
      exact hbefore
    · rw [hmiddle]
      exact hafter
  · cases overlap with
    | nil =>
        rw [List.append_nil] at hbefore
        refine ⟨"", ?_, hafter.symm⟩
        rw [← hbefore]
        rfl
    | cons c overlap =>
        have hc : 'S' = c := (List.cons.inj hafter).1
        have hmem : c ∈ "validate".toList := by
          rw [hbefore]
          exact List.mem_append_right _ List.mem_cons_self
        rw [← hc] at hmem
        exact absurd hmem (by decide)

theorem equalButInitial_iff_of_notStartingSmall {name text : String} {first : Char}
    {rest : List Char} (hlist : name.toList = first :: rest) (h : NotStartingSmall text) :
    EqualButInitial name text ↔ first.toUpper :: rest = text.toList := by
  cases htext : text.toList with
  | nil =>
      rw [EqualButInitial, hlist, htext]
      constructor
      · rintro ⟨hfirst, _⟩
        cases hfirst
      · intro hlists
        cases hlists
  | cons c tail =>
      have hc : c.isLower = false := by
        apply h
        rw [htext]
        rfl
      rw [equalButInitial_iff hlist htext, toUpper_of_not_isLower hc, List.cons.injEq]

theorem equalButInitial_validate_iff {name middle : String} {first : Char} {rest : List Char}
    (hlist : name.toList = first :: rest) (hfirst : Identifier.isStart first = true) :
    EqualButInitial name ("validate" ++ middle) ↔
      first.toLower :: rest = "validate".toList ++ middle.toList := by
  have hword : ("validate" ++ middle).toList = 'v' :: ("alidate".toList ++ middle.toList) := by
    rw [String.toList_append]
    rfl
  have hlists : "validate".toList ++ middle.toList =
      'v'.toLower :: ("alidate".toList ++ middle.toList) := rfl
  rw [equalButInitial_iff hlist hword, Identifier.toUpper_eq_iff_toLower_eq hfirst (by decide),
    hlists, List.cons.injEq]

theorem NotStartingSmall.append_schema {middle : String} (h : NotStartingSmall middle) :
    NotStartingSmall (middle ++ "Schema") := by
  intro c hc
  rw [String.toList_append, List.head?_append] at hc
  cases hmiddle : middle.toList.head? with
  | none =>
      rw [hmiddle] at hc
      cases hc
      rfl
  | some d =>
      rw [hmiddle] at hc
      cases hc
      exact h c hmiddle

theorem functionName_eq_schemaName_iff {a b : String} (ha : isIdentifier a = true)
    (hb : isIdentifier b = true) :
    functionName a = schemaName b ↔ ∃ middle, NotStartingSmall middle ∧
      EqualButInitial a (middle ++ "Schema") ∧ EqualButInitial b ("validate" ++ middle) := by
  rcases isIdentifier_iff.mp ha with ⟨first, rest, hlist, hfirst, _⟩
  rcases isIdentifier_iff.mp hb with ⟨first', rest', hlist', hfirst', _⟩
  rw [← String.toList_inj, toList_functionName hlist hfirst, toList_schemaName hlist' hfirst']
  constructor
  · intro h
    rcases exists_middle h with ⟨middle, hb', ha'⟩
    have hsmall : NotStartingSmall middle := by
      intro c hc
      cases hmiddle : middle.toList with
      | nil =>
          rw [hmiddle] at hc
          cases hc
      | cons d more =>
          rw [hmiddle] at hc ha'
          cases hc
          rw [← (List.cons.inj ha').1]
          exact (Identifier.cases_cases_of_isStart hfirst).2.2
    refine ⟨middle, hsmall, ?_, ?_⟩
    · rw [equalButInitial_iff_of_notStartingSmall hlist hsmall.append_schema,
        String.toList_append]
      exact ha'
    · rw [equalButInitial_validate_iff hlist' hfirst']
      exact hb'
  · rintro ⟨middle, hsmall, ha', hb'⟩
    rw [equalButInitial_iff_of_notStartingSmall hlist hsmall.append_schema,
      String.toList_append] at ha'
    rw [equalButInitial_validate_iff hlist' hfirst'] at hb'
    rw [ha', hb', List.append_assoc]

/-!
## Names of combinators
-/

theorem names_eq_words :
    Combinator.all.map Combinator.name = combinatorWords.map functionName ++ ["noop"] := by
  decide +kernel

theorem functionName_mem_names_iff {name : String} (h : isIdentifier name = true) :
    functionName name ∈ Combinator.all.map Combinator.name ↔
      ∃ word ∈ combinatorWords, EqualButInitial name word := by
  have hwords : combinatorWords.all isIdentifier = true := by decide
  have hnoop : functionName name ≠ "noop" := by
    rcases isIdentifier_iff.mp h with ⟨first, rest, hlist, hfirst, _⟩
    intro heq
    rw [← String.toList_inj, toList_functionName hlist hfirst] at heq
    cases heq
  rw [names_eq_words, List.mem_append, List.mem_singleton, or_iff_left hnoop, List.mem_map]
  constructor
  · rintro ⟨word, hword, heq⟩
    exact ⟨word, hword, (functionName_eq_iff h (List.all_eq_true.mp hwords word hword)).mp heq.symm⟩
  · rintro ⟨word, hword, heq⟩
    exact ⟨word, hword,
      ((functionName_eq_iff h (List.all_eq_true.mp hwords word hword)).mpr heq).symm⟩

/-- No combinator has a name that ends as names with the word after do. -/
theorem schemaName_not_mem_names (name : String) :
    schemaName name ∉ Combinator.all.map Combinator.name := by
  have hnames : (Combinator.all.map Combinator.name).all
      (fun text => text.toList.getLast? != some 'a') = true := by
    decide
  have hlast : (schemaName name).toList.getLast? = some 'a' := by
    rw [schemaName, String.toList_append, List.getLast?_append]
    rfl
  intro hmem
  have hother := List.all_eq_true.mp hnames _ hmem
  rw [hlast] at hother
  cases hother

/-!
## Modules
-/

def namesOf (name : String) : List String := [functionName name, schemaName name]

theorem moduleNames_eq_append (ds : List Declaration) :
    moduleNames ds =
      Combinator.all.map Combinator.name ++ (declaredNames ds).flatMap namesOf := by
  rw [moduleNames, declaredNames, List.flatMap_map]
  rfl

theorem nodup_namesOf {name : String} (h : isIdentifier name = true) : (namesOf name).Nodup := by
  rw [namesOf, List.nodup_cons, List.mem_singleton]
  exact ⟨functionName_ne_schemaName h, List.nodup_singleton _⟩

theorem disjoint_namesOf_iff {a b : String} (ha : isIdentifier a = true)
    (hb : isIdentifier b = true) :
    List.Disjoint (namesOf a) (namesOf b) ↔ ¬ EqualButInitial a b ∧
      functionName a ≠ schemaName b ∧ functionName b ≠ schemaName a := by
  have hsplit : List.Disjoint (namesOf a) (namesOf b) ↔
      (functionName a ≠ functionName b ∧ functionName a ≠ schemaName b) ∧
        schemaName a ≠ functionName b ∧ schemaName a ≠ schemaName b := by
    rw [namesOf, namesOf, List.disjoint_cons_left, List.disjoint_cons_left, List.mem_pair,
      List.mem_pair, not_or, not_or, and_iff_left (List.disjoint_nil_left _)]
  rw [hsplit, ne_eq, ne_eq (schemaName a) (schemaName b), functionName_eq_iff ha hb,
    schemaName_eq_iff ha hb]
  constructor
  · rintro ⟨⟨hinitial, hcross⟩, hcross', _⟩
    exact ⟨hinitial, hcross, hcross'.symm⟩
  · rintro ⟨hinitial, hcross, hcross'⟩
    exact ⟨⟨hinitial, hcross⟩, hcross'.symm, hinitial⟩

section Lists

variable {names : List String}

theorem pairwise_disjoint_iff (hdistinct : names.Nodup) :
    names.Pairwise (Function.onFun List.Disjoint namesOf) ↔
      ∀ a ∈ names, ∀ b ∈ names, a ≠ b → List.Disjoint (namesOf a) (namesOf b) := by
  have hsymm : Std.Symm (Function.onFun List.Disjoint namesOf) := ⟨fun _ _ => List.disjoint_comm.mp⟩
  constructor
  · intro h a ha b hb hne
    exact h.forall ha hb hne
  · exact hdistinct.pairwise_of_forall_ne

variable (hidentifiers : ∀ name ∈ names, isIdentifier name = true)

include hidentifiers

theorem disjoint_combinators_iff :
    List.Disjoint (Combinator.all.map Combinator.name) (names.flatMap namesOf) ↔
      ∀ name ∈ names, ¬ ∃ word ∈ combinatorWords, EqualButInitial name word := by
  constructor
  · intro h name hname hword
    apply h ((functionName_mem_names_iff (hidentifiers name hname)).mpr hword)
    exact List.mem_flatMap.mpr ⟨name, hname, List.mem_cons_self⟩
  · intro h binding hcombinator hbinding
    rcases List.mem_flatMap.mp hbinding with ⟨name, hname, hmem⟩
    rcases List.mem_pair.mp hmem with rfl | rfl
    · exact h name hname ((functionName_mem_names_iff (hidentifiers name hname)).mp hcombinator)
    · exact schemaName_not_mem_names name hcombinator

theorem Clash.of_functionName_eq {a b : String} (ha : a ∈ names) (hb : b ∈ names) (hne : a ≠ b)
    (h : functionName a = schemaName b) : Clash names := by
  rcases (functionName_eq_schemaName_iff (hidentifiers a ha) (hidentifiers b hb)).mp h with
    ⟨middle, hmiddle, hbefore, hafter⟩
  exact .words ha hb hne hmiddle hbefore hafter

theorem clash_iff :
    Clash names ↔ (∃ name ∈ names, ∃ word ∈ combinatorWords, EqualButInitial name word) ∨
      ∃ a ∈ names, ∃ b ∈ names, a ≠ b ∧ ¬ List.Disjoint (namesOf a) (namesOf b) := by
  constructor
  · intro h
    cases h with
    | combinator hname hword h => exact Or.inl ⟨_, hname, _, hword, h⟩
    | initial ha hb hne h =>
        refine Or.inr ⟨_, ha, _, hb, hne, ?_⟩
        rw [disjoint_namesOf_iff (hidentifiers _ ha) (hidentifiers _ hb)]
        exact fun hdisjoint => hdisjoint.1 h
    | words ha hb hne hmiddle hbefore hafter =>
        refine Or.inr ⟨_, ha, _, hb, hne, ?_⟩
        rw [disjoint_namesOf_iff (hidentifiers _ ha) (hidentifiers _ hb)]
        intro hdisjoint
        apply hdisjoint.2.1
        rw [functionName_eq_schemaName_iff (hidentifiers _ ha) (hidentifiers _ hb)]
        exact ⟨_, hmiddle, hbefore, hafter⟩
  · rintro (⟨name, hname, word, hword, h⟩ | ⟨a, ha, b, hb, hne, hshared⟩)
    · exact .combinator hname hword h
    · rw [disjoint_namesOf_iff (hidentifiers a ha) (hidentifiers b hb)] at hshared
      by_cases hinitial : EqualButInitial a b
      · exact .initial ha hb hne hinitial
      by_cases heq : functionName a = schemaName b
      · exact .of_functionName_eq hidentifiers ha hb hne heq
      by_cases heq' : functionName b = schemaName a
      · exact .of_functionName_eq hidentifiers hb ha hne.symm heq'
      exact absurd ⟨hinitial, heq, heq'⟩ hshared

end Lists

theorem nodup_moduleNames_iff {ds : List Declaration} (hdistinct : (declaredNames ds).Nodup)
    (hidentifiers : ∀ name ∈ declaredNames ds, isIdentifier name = true) :
    (moduleNames ds).Nodup ↔ ¬ Clash (declaredNames ds) := by
  have hcombinators : (Combinator.all.map Combinator.name).Nodup := by decide
  have hown : ∀ name ∈ declaredNames ds, (namesOf name).Nodup :=
    fun name hname => nodup_namesOf (hidentifiers name hname)
  rw [moduleNames_eq_append, List.nodup_append', List.nodup_flatMap,
    and_iff_right hcombinators, and_iff_right hown, pairwise_disjoint_iff hdistinct,
    disjoint_combinators_iff hidentifiers, clash_iff hidentifiers, not_or, and_comm]
  refine and_congr ?_ ?_
  · simp only [not_exists, not_and]
  · simp only [not_exists, not_and, not_not]

/-!
## Manifests
-/

namespace Manifest

variable {limit : Nat} {m : Manifest}

/-- Whatever else a manifest has, a name that clashes belongs to another declaration, or it is
the first name of its declaration and that of a combinator. -/
theorem owner_of_nameCollision {name binding : String} {owner : Owner}
    (h : m.compile limit = .error (.nameCollision name binding owner)) :
    owner ≠ .declaration name ∧
      (owner = .runtimeImport → binding = functionName name ∧ binding ≠ schemaName name) := by
  rcases compile_eq_error_iff.mp h with ⟨earlier, d, later, _, _, hrefused⟩
  have hother : ∀ {binding : String} {owner : Owner}, d.name ∉ declaredNames earlier →
      Owns earlier binding owner → owner ≠ .declaration d.name := by
    rintro binding owner hnew howner rfl
    exact hnew howner.1
  cases hrefused with
  | functionTaken hnew hname _ howner =>
      exact ⟨hother hnew howner, fun _ => ⟨rfl, functionName_ne_schemaName hname⟩⟩
  | schemaTaken hnew _ _ _ howner =>
      refine ⟨hother hnew howner, ?_⟩
      rintro rfl
      exact absurd howner (schemaName_not_mem_names _)

section Sound

variable (hdistinct : (declaredNames m.declarations).Nodup)
  (hidentifiers : ∀ d ∈ m.declarations, isIdentifier d.name = true)
  (hshapes : ∀ d ∈ m.declarations, ∃ c, d.CompilesTo limit c)

include hdistinct hidentifiers hshapes

theorem fails_iff_clash :
    (∃ e, m.compile limit = .error e) ↔ Clash (declaredNames m.declarations) := by
  have hnames : ∀ name ∈ declaredNames m.declarations, isIdentifier name = true :=
    List.forall_mem_map.mpr hidentifiers
  have hmodule : FormModule limit m.declarations ↔ ¬ Clash (declaredNames m.declarations) := by
    rw [← nodup_moduleNames_iff hdistinct hnames]
    exact ⟨FormModule.moduleNames_nodup, fun h => ⟨hdistinct, hidentifiers, hshapes, h⟩⟩
  rw [← not_iff_not, ← hmodule, ← exists_compile_eq_ok_iff]
  cases m.compile limit with
  | error e => simp
  | ok out => simp

theorem exists_nameCollision {e : BuildError} (h : m.compile limit = .error e) :
    ∃ name binding owner, e = .nameCollision name binding owner := by
  rcases compile_eq_error_iff.mp h with ⟨earlier, d, later, hsplit, _, hrefused⟩
  have hd : d ∈ m.declarations := by
    rw [hsplit]
    exact List.mem_append_right _ List.mem_cons_self
  rcases hshapes d hd with ⟨c, _, s, hs, hcompile⟩
  cases hrefused with
  | duplicate hdup =>
      rw [hsplit, declaredNames, List.map_append, List.nodup_append'] at hdistinct
      exact absurd List.mem_cons_self (hdistinct.2.2 hdup)
  | invalidName _ hname =>
      rw [hidentifiers d hd] at hname
      cases hname
  | missingShape _ _ hshape =>
      rw [hs] at hshape
      cases hshape
  | violation _ _ hshape he =>
      rw [hs] at hshape
      cases hshape
      rw [hcompile] at he
      cases he
  | functionTaken => exact ⟨_, _, _, rfl⟩
  | schemaTaken => exact ⟨_, _, _, rfl⟩

end Sound

/-- Declarations with different identifiers as names and shapes that compile fail to compile
together exactly if names clash, and then that is what is told.  The names of a declaration do
not clash with each other, and the second does not clash with a combinator. -/
theorem compile_fails_iff_names_clash (hdistinct : (declaredNames m.declarations).Nodup)
    (hidentifiers : ∀ d ∈ m.declarations, isIdentifier d.name = true)
    (hshapes : ∀ d ∈ m.declarations, ∃ c, d.CompilesTo limit c) :
    ((∃ e, m.compile limit = .error e) ↔ Clash (declaredNames m.declarations)) ∧
    (∀ e, m.compile limit = .error e → ∃ name binding owner,
      e = .nameCollision name binding owner ∧ owner ≠ .declaration name ∧
        (owner = .runtimeImport → binding = functionName name ∧ binding ≠ schemaName name)) ∧
    ∀ d ∈ m.declarations, functionName d.name ≠ schemaName d.name ∧
      schemaName d.name ∉ Combinator.all.map Combinator.name := by
  refine ⟨fails_iff_clash hdistinct hidentifiers hshapes, ?_, ?_⟩
  · intro e h
    rcases exists_nameCollision hdistinct hidentifiers hshapes h with ⟨name, binding, owner, rfl⟩
    exact ⟨name, binding, owner, rfl, owner_of_nameCollision h⟩
  · intro d hd
    exact ⟨functionName_ne_schemaName (hidentifiers d hd), schemaName_not_mem_names d.name⟩

/-- Both words around the same text, once with a capital and once with a small letter. -/
theorem compile_fails_iff_names_clash_words :
    let anything : List String → Manifest :=
      fun names => ⟨"r", names.map (fun name => ⟨name, some .any⟩)⟩
    (∃ e, (anything ["fooSchema", "noop", "ValidateFoo"]).compile 1 = .error e) ∧
      ¬ Clash (declaredNames (anything ["fooSchema", "noop", "validatefoo"]).declarations) := by
  intro anything
  have hshapes : ∀ names, ∀ d ∈ (anything names).declarations, ∃ c, d.CompilesTo 1 c := by
    intro names
    exact List.forall_mem_map.mpr fun name _ => ⟨⟨name, .noop⟩, rfl, .any, rfl, rfl⟩
  constructor
  · have hsmall : NotStartingSmall "Foo" := by
      intro c hc
      cases hc
      rfl
    have hbefore : EqualButInitial "fooSchema" ("Foo" ++ "Schema") := by decide
    have hafter : EqualButInitial "ValidateFoo" ("validate" ++ "Foo") := by decide
    apply (compile_fails_iff_names_clash (by decide) (by decide) (hshapes _)).1.mpr
    exact .words (by decide) (by decide) (by decide) hsmall hbefore hafter
  · intro hclash
    rcases (compile_fails_iff_names_clash (by decide) (by decide) (hshapes _)).1.mpr hclash with
      ⟨e, he⟩
    have hok : (anything ["fooSchema", "noop", "validatefoo"]).compile 1 =
        .ok [⟨"fooSchema", .noop⟩, ⟨"noop", .noop⟩, ⟨"validatefoo", .noop⟩] := by
      rfl
    rw [hok] at he
    cases he

end Manifest

end ShapeCheck
