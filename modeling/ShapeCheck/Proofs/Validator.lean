import ShapeCheck.Proofs.Conformance
import ShapeCheck.Proofs.Scope

/-!
# Validators of a manifest

The validator of a name is made from the first declaration of that name and from
nothing else in the manifest.  If the manifest compiles, it holds the check compiled
under that name.  It always judges documents as the declared shape does.
-/

namespace ShapeCheck

/-!
## First declarations
-/

/-- A declaration of a name with none of that name before it. -/
def FirstNamed (name : String) (ds : List Declaration) (d : Declaration) : Prop :=
  d.name = name ∧ ∃ earlier later, ds = earlier ++ d :: later ∧ name ∉ declaredNames earlier

theorem not_mem_declaredNames_iff {name : String} {ds : List Declaration} :
    name ∉ declaredNames ds ↔ ∀ d ∈ ds, d.name ≠ name := by
  rw [declaredNames, List.mem_map, not_exists]
  apply forall_congr'
  intro d
  rw [not_and]

theorem find?_eq_some_iff_firstNamed {name : String} {ds : List Declaration}
    {d : Declaration} :
    ds.find? (fun d => d.name == name) = some d ↔ FirstNamed name ds d := by
  rw [List.find?_eq_some_iff_append, FirstNamed, beq_iff_eq]
  simp only [not_mem_declaredNames_iff, Bool.not_eq_true', beq_eq_false_iff_ne]

theorem find?_eq_none_iff_not_declared {name : String} {ds : List Declaration} :
    ds.find? (fun d => d.name == name) = none ↔ name ∉ declaredNames ds := by
  simp only [List.find?_eq_none, not_mem_declaredNames_iff, beq_iff_eq, ne_eq]

theorem FirstNamed.mem {name : String} {ds : List Declaration} {d : Declaration}
    (h : FirstNamed name ds d) : d ∈ ds :=
  List.mem_of_find?_eq_some (find?_eq_some_iff_firstNamed.mpr h)

theorem exists_firstNamed_iff {name : String} {ds : List Declaration} :
    (∃ d, FirstNamed name ds d) ↔ name ∈ declaredNames ds := by
  rw [← not_iff_not, ← find?_eq_none_iff_not_declared, not_exists,
    Option.eq_none_iff_forall_ne_some]
  simp only [← find?_eq_some_iff_firstNamed, ne_eq]

/-!
## Verdicts of validators
-/

/-- A validator that accepts what conforms to a shape, and hands back a document or
tells that it is rejected accordingly. -/
structure Validator.JudgesBy (v : Validator) (s : Shape) : Prop where
  isValid : ∀ value, v.isValid value = s.conforms value
  validateJson : ∀ j, v.validateJson j =
    if s.conforms (Value.ofJson j) then .ok j else .error Validator.rejection

theorem Validator.judgesBy_of_compile {limit : Nat} {s : Shape} {v : Validator}
    (h : s.compile limit = .ok v.check) : v.JudgesBy s := by
  rcases (Shape.compile_givesIff limit s v.check).mp h with ⟨⟨_, hsound⟩, himage⟩
  have hvalid : ∀ value, v.isValid value = s.conforms value := by
    intro value
    rw [Validator.isValid, himage]
    exact Shape.judgedExactly hsound value
  constructor
  · exact hvalid
  · intro j
    rw [Validator.validateJson, hvalid]

/-!
## Validators of first declarations
-/

theorem Declaration.compilesTo_of_compile {limit : Nat} {d : Declaration} {c : Compiled}
    (h : d.compile limit = .ok c) : d.CompilesTo limit c := by
  rw [Declaration.compile] at h
  split at h
  · cases h
  cases hshape : d.shape with
  | none =>
      rw [hshape] at h
      cases h
  | some s =>
      rw [hshape] at h
      dsimp only [Shape.compile?] at h
      cases hcompile : s.compile limit with
      | error e =>
          rw [hcompile] at h
          cases h
      | ok check =>
          rw [hcompile] at h
          cases h
          exact ⟨rfl, s, hshape, hcompile⟩

namespace Manifest

variable {limit : Nat} {name : String} {m : Manifest}

theorem validator_of_firstNamed {d : Declaration} (h : FirstNamed name m.declarations d) :
    m.validator limit name =
      (d.compile limit).map (fun c => Validator.named c.name c.check) := by
  rw [validator, declaration, find?_eq_some_iff_firstNamed.mpr h]
  dsimp only
  cases d.compile limit with
  | error e => rfl
  | ok c => rfl

theorem validator_of_not_declared (h : name ∉ declaredNames m.declarations) :
    m.validator limit name = .error (.unknownDeclaration name) := by
  rw [validator, declaration, find?_eq_none_iff_not_declared.mpr h]

/-- A validator comes from the first declaration of its name, and judges by its shape. -/
theorem exists_judgesBy_of_validator {v : Validator} (h : m.validator limit name = .ok v) :
    ∃ d s, FirstNamed name m.declarations d ∧ d.shape = some s ∧ v.JudgesBy s := by
  by_cases hname : name ∈ declaredNames m.declarations
  · rcases exists_firstNamed_iff.mpr hname with ⟨d, hd⟩
    rw [validator_of_firstNamed hd] at h
    cases hc : d.compile limit with
    | error e =>
        rw [hc] at h
        cases h
    | ok c =>
        rw [hc] at h
        cases h
        rcases Declaration.compilesTo_of_compile hc with ⟨_, s, hs, hcompile⟩
        exact ⟨d, s, hd, hs, Validator.judgesBy_of_compile hcompile⟩
  · rw [validator_of_not_declared hname] at h
    cases h

theorem exists_validator_of_compile {out : List Compiled} (h : m.compile limit = .ok out)
    (hname : name ∈ declaredNames m.declarations) :
    ∃ c ∈ out, (∀ c' ∈ out, c'.name = name → c' = c) ∧ c.name = name ∧
      m.validator limit name = .ok (.named name c.check) := by
  rcases compile_eq_ok_iff.mp h with ⟨hmodule, hall⟩
  rcases exists_firstNamed_iff.mpr hname with ⟨d, hd⟩
  rcases exists_of_forall₂_of_mem hall hd.mem with ⟨c, hc, hcompiles⟩
  have hcname : c.name = name := hcompiles.1.trans hd.1
  have hnodup : (out.map Compiled.name).Nodup := by
    rw [map_name_of_compilesTo hall]
    exact hmodule.names_nodup
  refine ⟨c, hc, ?_, hcname, ?_⟩
  · intro c' hc' hname'
    exact List.inj_on_of_nodup_map hnodup hc' hc (hname'.trans hcname.symm)
  · rw [validator_of_firstNamed hd,
      Declaration.compile_of_compilesTo (hmodule.identifiers d hd.mem) hcompiles, ← hcname]
    rfl

theorem validator_congr {other : Manifest}
    (h : ∀ d, FirstNamed name m.declarations d ↔ FirstNamed name other.declarations d) :
    m.validator limit name = other.validator limit name := by
  by_cases hname : name ∈ declaredNames m.declarations
  · rcases exists_firstNamed_iff.mpr hname with ⟨d, hd⟩
    rw [validator_of_firstNamed hd, validator_of_firstNamed ((h d).mp hd)]
  · have hother : name ∉ declaredNames other.declarations := by
      rwa [← exists_firstNamed_iff, ← exists_congr h, exists_firstNamed_iff]
    rw [validator_of_not_declared hname, validator_of_not_declared hother]

/-- In a manifest that compiles, exactly the declared names have validators, and each
holds the check compiled under its name and judges by the shape declared for it.  In any
manifest, the validator of a name depends on the first declaration of that name only. -/
theorem validator_agrees_with_compile (limit : Nat) (name : String) (m : Manifest) :
    (∀ out, m.compile limit = .ok out →
      (name ∉ declaredNames m.declarations →
        m.validator limit name = .error (.unknownDeclaration name)) ∧
      (name ∈ declaredNames m.declarations →
        ∃ v, m.validator limit name = .ok v ∧ v.name = some name ∧
          (∃ c ∈ out, c.name = name ∧ (∀ c' ∈ out, c'.name = name → c' = c) ∧
            v.check = c.check ∧ v.expression = c.check.print) ∧
          ∃ d ∈ m.declarations, d.name = name ∧ ∃ s, d.shape = some s ∧ v.JudgesBy s)) ∧
    ∀ other : Manifest,
      (∀ d, FirstNamed name m.declarations d ↔ FirstNamed name other.declarations d) →
        m.validator limit name = other.validator limit name := by
  constructor
  · intro out hout
    refine ⟨validator_of_not_declared, ?_⟩
    intro hname
    rcases exists_validator_of_compile hout hname with ⟨c, hc, hunique, hcname, hv⟩
    rcases exists_judgesBy_of_validator hv with ⟨d, s, hd, hs, hjudges⟩
    exact ⟨.named name c.check, hv, rfl, ⟨c, hc, hcname, hunique, rfl, rfl⟩,
      d, hd.mem, hd.1, s, hs, hjudges⟩
  · intro other
    exact validator_congr

/-- A name declared twice keeps its validator, though the manifest does not compile. -/
theorem validator_agrees_with_compile_repeated :
    let once : Manifest := ⟨"r", [⟨"A", some .any⟩, ⟨"B", some (.array .any)⟩]⟩
    let twice : Manifest := ⟨"r", once.declarations ++ [⟨"B", none⟩]⟩
    (∃ out, once.compile 2 = .ok out ∧ ∃ v, once.validator 2 "B" = .ok v ∧
      ∃ c ∈ out, c.name = "B" ∧ v.check = c.check) ∧
    twice.compile 2 = .error (.duplicateDeclaration "B") ∧
    once.validator 2 "B" = twice.validator 2 "B" := by
  intro once twice
  have hout : once.compile 2 = .ok [⟨"A", Shape.any.image⟩, ⟨"B", (Shape.array .any).image⟩] :=
    rfl
  have hname : "B" ∈ declaredNames once.declarations := by decide
  have hfirst : ∀ d, FirstNamed "B" once.declarations d ↔
      FirstNamed "B" twice.declarations d := by
    intro d
    rw [← find?_eq_some_iff_firstNamed, ← find?_eq_some_iff_firstNamed]
    exact Iff.rfl
  have hagrees := validator_agrees_with_compile 2 "B" once
  rcases (hagrees.1 _ hout).2 hname with ⟨v, hv, _, ⟨c, hc, hcname, _, hcheck, _⟩, _⟩
  exact ⟨⟨_, hout, v, hv, c, hc, hcname, hcheck⟩, rfl, hagrees.2 twice hfirst⟩

end Manifest
end ShapeCheck
