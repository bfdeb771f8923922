import Mathlib.Data.List.Forall2
import ShapeCheck.Fixture.Run
import ShapeCheck.Proofs.Validator

/-!
# Fixtures are judged by what their cases say

What a case says is read off the case: that its shape fails with some text, or that the
shape compiles, prints as told, and has some documents conform to it and others not.  The
runner ends with zero exactly if this holds for every case that is selected, names each
case for which it does not, and counts both.
-/

namespace ShapeCheck
namespace Fixture

/-!
## What a case says
-/

inductive FailsWith (j : Json) : String → Prop
  | decoding {e : Shape.Error} (he : Shape.ofJson j = .error e) : FailsWith j e.message
  | compiling {s : Shape} {e : Shape.Violation} (hs : Shape.ofJson j = .ok s)
      (he : s.compile defaultMaxDepth = .error e) : FailsWith j e.message

/-- A case that says the truth about its shape. -/
inductive Case.Holds (c : Case) : Prop
  | fails {part text : String} (hpart : c.compileError = some part)
      (htext : FailsWith c.shape text) (h : part.toList <:+: text.toList) : Holds c
  | compiles {s : Shape} {check : Check} (hnone : c.compileError = none)
      (hs : Shape.ofJson c.shape = .ok s) (hcheck : s.compile defaultMaxDepth = .ok check)
      (hprint : c.expression = none ∨ c.expression = some check.print)
      (haccept : ∀ j ∈ c.accept, s.conforms (Value.ofJson j) = true)
      (hreject : ∀ j ∈ c.reject, s.conforms (Value.ofJson j) = false) : Holds c

namespace Case

/-!
## The parts of the judgement
-/

theorem occursIn_eq_true_iff {part whole : List Char} :
    occursIn part whole = true ↔ part <:+: whole := by
  induction whole with
  | nil => rw [occursIn, List.isEmpty_iff, List.infix_nil]
  | cons c rest ih =>
      rw [occursIn, Bool.or_eq_true, List.isPrefixOf_iff_prefix, ih, List.infix_cons_iff]

theorem printsAs_eq_ok_iff {check : Check} {expression : Option String} :
    printsAs check expression = .ok () ↔ expression = none ∨ expression = some check.print := by
  cases expression with
  | none => simp [printsAs]
  | some expected =>
      rw [printsAs]
      by_cases h : check.print = expected
      · simp [h]
      · simp [h, Ne.symm h]

theorem acceptsAll_eq_ok_iff {v : Validator} {i : Nat} {documents : List Json} :
    acceptsAll v i documents = .ok () ↔ ∀ j ∈ documents, v.isValid (Value.ofJson j) = true := by
  induction documents generalizing i with
  | nil => simp [acceptsAll]
  | cons j rest ih =>
      rw [acceptsAll, List.forall_mem_cons, Validator.validateJson]
      cases v.isValid (Value.ofJson j) with
      | true => simp [ih]
      | false => simp

theorem rejectsAll_eq_ok_iff {v : Validator} {i : Nat} {documents : List Json} :
    rejectsAll v i documents = .ok () ↔ ∀ j ∈ documents, v.isValid (Value.ofJson j) = false := by
  induction documents generalizing i with
  | nil => simp [rejectsAll]
  | cons j rest ih =>
      rw [rejectsAll, List.forall_mem_cons, Validator.validateJson]
      cases v.isValid (Value.ofJson j) with
      | true => simp
      | false => simp [ih]

theorem compileShape_eq_ok_iff {limit : Nat} {j : Json} {check : Check} :
    compileShape limit j = .ok check ↔
      ∃ s, Shape.ofJson j = .ok s ∧ s.compile limit = .ok check := by
  rw [compileShape]
  cases Shape.ofJson j with
  | error e => simp
  | ok s =>
      dsimp only [Shape.compile?]
      cases hcompile : s.compile limit with
      | error e => simp [Except.mapError, hcompile]
      | ok found => simp [Except.mapError, hcompile]

theorem failsWith_iff {j : Json} {text : String} :
    FailsWith j text ↔ ∃ e, compileShape defaultMaxDepth j = .error e ∧ e.message = text := by
  rw [compileShape]
  constructor
  · intro h
    cases h with
    | decoding he =>
        rw [he]
        exact ⟨_, rfl, rfl⟩
    | compiling hs he =>
        rw [hs]
        dsimp only [Shape.compile?]
        rw [he]
        exact ⟨_, rfl, rfl⟩
  · rintro ⟨e, he, rfl⟩
    cases hs : Shape.ofJson j with
    | error found =>
        rw [hs] at he
        cases he
        exact .decoding hs
    | ok s =>
        rw [hs] at he
        dsimp only [Shape.compile?] at he
        cases hcompile : s.compile defaultMaxDepth with
        | error found =>
            rw [hcompile] at he
            cases he
            exact .compiling hs hcompile
        | ok check =>
            rw [hcompile] at he
            cases he

/-!
## The judgement
-/

variable {c : Case}

theorem judge_of_error {e : CompileError} (h : compileShape defaultMaxDepth c.shape = .error e) :
    c.judge = .ok () ↔ ∃ part, c.compileError = some part ∧
      part.toList <:+: e.message.toList := by
  rw [judge, h]
  cases c.compileError with
  | none => simp
  | some part => simp [occursIn_eq_true_iff]

theorem judge_of_ok {check : Check} (h : compileShape defaultMaxDepth c.shape = .ok check) :
    c.judge = .ok () ↔ c.compileError = none ∧ printsAs check c.expression = .ok () ∧
      acceptsAll (.ofCheck check) 0 c.accept = .ok () ∧
      rejectsAll (.ofCheck check) 0 c.reject = .ok () := by
  rw [judge, h]
  cases c.compileError with
  | some part => simp
  | none =>
      dsimp only
      cases printsAs check c.expression with
      | error reason => simp
      | ok _ =>
          dsimp only
          cases acceptsAll (.ofCheck check) 0 c.accept with
          | error reason => simp
          | ok _ => simp

theorem judge_eq_ok_iff_holds : c.judge = .ok () ↔ c.Holds := by
  cases hcompile : compileShape defaultMaxDepth c.shape with
  | error e =>
      rw [judge_of_error hcompile]
      constructor
      · rintro ⟨part, hpart, hoccurs⟩
        exact .fails hpart (failsWith_iff.mpr ⟨e, hcompile, rfl⟩) hoccurs
      · intro h
        cases h with
        | fails hpart htext hoccurs =>
            rcases failsWith_iff.mp htext with ⟨e', he', rfl⟩
            rw [hcompile] at he'
            cases he'
            exact ⟨_, hpart, hoccurs⟩
        | compiles _ hs hcheck =>
            rw [compileShape_eq_ok_iff.mpr ⟨_, hs, hcheck⟩] at hcompile
            cases hcompile
  | ok check =>
      rw [judge_of_ok hcompile, printsAs_eq_ok_iff, acceptsAll_eq_ok_iff, rejectsAll_eq_ok_iff]
      constructor
      · rintro ⟨hnone, hprint, haccept, hreject⟩
        rcases compileShape_eq_ok_iff.mp hcompile with ⟨s, hs, hcheck⟩
        have hjudges : (Validator.ofCheck check).JudgesBy s :=
          Validator.judgesBy_of_compile hcheck
        simp only [hjudges.isValid] at haccept hreject
        exact .compiles hnone hs hcheck hprint haccept hreject
      · intro h
        cases h with
        | fails _ htext _ =>
            rcases failsWith_iff.mp htext with ⟨e, he, _⟩
            rw [hcompile] at he
            cases he
        | compiles hnone hs hcheck hprint haccept hreject =>
            rw [compileShape_eq_ok_iff.mpr ⟨_, hs, hcheck⟩] at hcompile
            cases hcompile
            have hjudges : (Validator.ofCheck check).JudgesBy _ :=
              Validator.judgesBy_of_compile hcheck
            simp only [hjudges.isValid]
            exact ⟨hnone, hprint, haccept, hreject⟩

theorem holds_iff_isOk_judge : c.Holds ↔ c.judge.isOk = true := by
  rw [← judge_eq_ok_iff_holds]
  cases c.judge with
  | error reason => exact iff_of_false (by simp) Bool.false_ne_true
  | ok _ => exact iff_of_true rfl rfl

instance (c : Case) : Decidable c.Holds :=
  decidable_of_iff (c.judge.isOk = true) holds_iff_isOk_judge.symm

end Case

/-!
## The report on cases
-/

/-- A line that says of a case why it does not hold. -/
def Blames (entry : String × Case) (line : String) : Prop :=
  ∃ reason, line = "❌ " ++ entry.1 ++ " :: " ++ entry.2.name ++ ": " ++ reason ++ "\n"

theorem complaint?_of_holds {entry : String × Case} (h : entry.2.Holds) :
    complaint? entry = none := by
  rw [complaint?, Case.judge_eq_ok_iff_holds.mpr h]

theorem complaint?_of_not_holds {entry : String × Case} (h : ¬ entry.2.Holds) :
    ∃ line, complaint? entry = some line ∧ Blames entry line := by
  rw [complaint?]
  cases hjudge : entry.2.judge with
  | ok _ => exact absurd (Case.judge_eq_ok_iff_holds.mp hjudge) h
  | error reason => exact ⟨_, rfl, reason.message, rfl⟩

theorem blames_complaints (cases : List (String × Case)) :
    List.Forall₂ Blames (cases.filter (fun entry => ¬ entry.2.Holds))
      (cases.filterMap complaint?) := by
  induction cases with
  | nil => exact .nil
  | cons entry rest ih =>
      by_cases h : entry.2.Holds
      · rw [List.filterMap_cons_none (complaint?_of_holds h),
          List.filter_cons_of_neg (by simpa using h)]
        exact ih
      · rcases complaint?_of_not_holds h with ⟨line, hline, hblames⟩
        rw [List.filterMap_cons_some hline, List.filter_cons_of_pos (by simpa using h)]
        exact .cons hblames ih

theorem isEmpty_complaints_iff {cases : List (String × Case)} :
    (cases.filterMap complaint?).isEmpty = true ↔ ∀ entry ∈ cases, entry.2.Holds := by
  rw [List.isEmpty_iff_length_eq_zero, ← (blames_complaints cases).length_eq,
    List.length_eq_zero_iff, List.filter_eq_nil_iff]
  simp

theorem length_sub_complaints (cases : List (String × Case)) :
    cases.length - (cases.filterMap complaint?).length =
      cases.countP (fun entry => entry.2.Holds) := by
  have hcount := List.length_eq_countP_add_countP
    (fun entry : String × Case => decide entry.2.Holds) (l := cases)
  rw [← (blames_complaints cases).length_eq, ← List.countP_eq_length_filter]
  simp only [decide_eq_true_eq] at hcount
  omega

/-!
## The runner
-/

/-- The fixtures of a folder with their cases: all of them can be read and hold cases. -/
structure FixturesIn (disk : Disk) (folder : String) (fixtures : List (String × List Case)) :
    Prop where
  files : filesOf disk folder = .ok (fixtures.map Prod.fst)
  readable : ∀ fixture ∈ fixtures, ∃ contents, disk.read fixture.1 = .ok contents ∧
    Case.listOfBytes contents = .ok fixture.2

def selectedIn (includes : String → Bool) (fixtures : List (String × List Case)) :
    List (String × Case) :=
  fixtures.flatMap (fun fixture =>
    (fixture.2.filter (fun c => includes c.name)).map (fixture.1, ·))

theorem selectedCases_of_readable {disk : Disk} (includes : String → Bool)
    {fixtures : List (String × List Case)}
    (h : ∀ fixture ∈ fixtures, ∃ contents, disk.read fixture.1 = .ok contents ∧
      Case.listOfBytes contents = .ok fixture.2) :
    selectedCases disk includes (fixtures.map Prod.fst) = .ok (selectedIn includes fixtures) := by
  induction fixtures with
  | nil => rfl
  | cons fixture rest ih =>
      rcases List.forall_mem_cons.mp h with ⟨⟨contents, hread, hcases⟩, hrest⟩
      have hfixture : casesOf disk fixture.1 = .ok fixture.2 := by
        rw [casesOf, hread]
        dsimp only
        rw [hcases]
      rw [List.map_cons, selectedCases, hfixture, ih hrest]
      rfl

theorem runSelection_of_fixturesIn {disk : Disk} {selection : Selection}
    {fixtures : List (String × List Case)} (h : FixturesIn disk selection.folder fixtures) :
    runSelection disk selection = .ok (selectedIn selection.includes fixtures) := by
  rw [runSelection, h.files]
  exact selectedCases_of_readable selection.includes h.readable

def oneFixture (contents : Bytes) : Disk :=
  ⟨.folder [("f", .folder [("x.json", .file 0)])], fun _ => contents, [], .sound⟩

theorem fixturesIn_oneFixture {contents : Bytes} {cases : List Case}
    (h : Case.listOfBytes contents = .ok cases) :
    FixturesIn (oneFixture contents) "f" [("f/x.json", cases)] := by
  constructor
  · have hlist : (oneFixture contents).list "f" =
        .ok (Disk.sorted [("x.json", .file 0)]) := rfl
    have hextension : (Path.extension? "x.json" == some "json") = true := by decide
    have hjoin : Path.join "f" "x.json" = "f/x.json" := by decide
    rw [filesOf, hlist, Disk.sorted, List.mergeSort_singleton]
    simp [hextension, hjoin]
  · have hread : (oneFixture contents).read "f/x.json" = .ok contents := rfl
    rw [List.forall_mem_singleton]
    exact ⟨contents, hread, h⟩

end Fixture
end ShapeCheck
