import Mathlib.Data.List.Forall2
import Mathlib.Data.List.Induction
import Mathlib.Data.List.Nodup
import ShapeCheck.Manifest.Basic
import ShapeCheck.Proofs.Names

/-!
# Manifests that compile

A manifest compiles exactly if its declarations have different identifiers as names,
shapes that compile, and names in the module that differ from each other and from
the combinators.  Otherwise the first declaration that cannot join those before it
is at fault.
-/

namespace ShapeCheck

def declaredNames (ds : List Declaration) : List String := ds.map Declaration.name

/-- The names in the module of declarations: those of the combinators and two for
each declaration. -/
def moduleNames (ds : List Declaration) : List String :=
  Combinator.all.map Combinator.name ++
    ds.flatMap (fun d => [functionName d.name, schemaName d.name])

/-- A check under the name of a declaration that its shape compiles to. -/
def Declaration.CompilesTo (limit : Nat) (d : Declaration) (c : Compiled) : Prop :=
  c.name = d.name ∧ ∃ s, d.shape = some s ∧ s.compile limit = .ok c.check

structure FormModule (limit : Nat) (ds : List Declaration) : Prop where
  names_nodup : (declaredNames ds).Nodup
  identifiers : ∀ d ∈ ds, isIdentifier d.name = true
  shapes : ∀ d ∈ ds, ∃ c, d.CompilesTo limit c
  moduleNames_nodup : (moduleNames ds).Nodup

def Owns (ds : List Declaration) (binding : String) : Owner → Prop
  | .runtimeImport => binding ∈ Combinator.all.map Combinator.name
  | .declaration name =>
      name ∈ declaredNames ds ∧ (binding = functionName name ∨ binding = schemaName name)

/-- A declaration that can join those before it. -/
structure Joins (limit : Nat) (earlier : List Declaration) (d : Declaration) : Prop where
  new : d.name ∉ declaredNames earlier
  identifier : isIdentifier d.name = true
  shape : ∃ c, d.CompilesTo limit c
  function_free : functionName d.name ∉ moduleNames earlier
  schema_free : schemaName d.name ∉ moduleNames earlier

/-- Why a declaration cannot join those before it.  Each reason presupposes that the
ones above it do not apply. -/
inductive Refused (limit : Nat) (earlier : List Declaration) (d : Declaration) :
    BuildError → Prop
  | duplicate (hdup : d.name ∈ declaredNames earlier) :
      Refused limit earlier d (.duplicateDeclaration d.name)
  | invalidName (hnew : d.name ∉ declaredNames earlier) (hname : isIdentifier d.name = false) :
      Refused limit earlier d (.invalidName d.name)
  | missingShape (hnew : d.name ∉ declaredNames earlier) (hname : isIdentifier d.name = true)
      (hshape : d.shape = none) :
      Refused limit earlier d (.declaration d.name .missingShape)
  | violation (hnew : d.name ∉ declaredNames earlier) (hname : isIdentifier d.name = true)
      {s : Shape} (hshape : d.shape = some s) {e : Shape.Violation}
      (he : s.compile limit = .error e) :
      Refused limit earlier d (.declaration d.name (.violation e))
  | functionTaken (hnew : d.name ∉ declaredNames earlier) (hname : isIdentifier d.name = true)
      (hshape : ∃ c, d.CompilesTo limit c) {owner : Owner}
      (howner : Owns earlier (functionName d.name) owner) :
      Refused limit earlier d (.nameCollision d.name (functionName d.name) owner)
  | schemaTaken (hnew : d.name ∉ declaredNames earlier) (hname : isIdentifier d.name = true)
      (hshape : ∃ c, d.CompilesTo limit c)
      (hfree : functionName d.name ∉ moduleNames earlier) {owner : Owner}
      (howner : Owns earlier (schemaName d.name) owner) :
      Refused limit earlier d (.nameCollision d.name (schemaName d.name) owner)

/-!
## Modules grow by declarations that join
-/

theorem declaredNames_concat (ds : List Declaration) (d : Declaration) :
    declaredNames (ds ++ [d]) = declaredNames ds ++ [d.name] := by
  simp [declaredNames]

theorem moduleNames_concat (ds : List Declaration) (d : Declaration) :
    moduleNames (ds ++ [d]) = moduleNames ds ++ [functionName d.name, schemaName d.name] := by
  simp [moduleNames]

theorem exists_owns_iff {ds : List Declaration} {binding : String} :
    (∃ owner, Owns ds binding owner) ↔ binding ∈ moduleNames ds := by
  rw [moduleNames, List.mem_append, List.mem_flatMap]
  constructor
  · rintro ⟨owner, h⟩
    cases owner with
    | runtimeImport => exact Or.inl h
    | declaration name =>
        rcases List.mem_map.mp h.1 with ⟨d, hd, rfl⟩
        exact Or.inr ⟨d, hd, by simpa using h.2⟩
  · rintro (h | ⟨d, hd, h⟩)
    · exact ⟨.runtimeImport, h⟩
    · exact ⟨.declaration d.name, List.mem_map_of_mem hd, by simpa using h⟩

theorem owns_concat_iff {ds : List Declaration} {d : Declaration} {binding : String}
    {owner : Owner} :
    Owns (ds ++ [d]) binding owner ↔
      Owns ds binding owner ∨ owner = .declaration d.name ∧
        (binding = functionName d.name ∨ binding = schemaName d.name) := by
  cases owner with
  | runtimeImport => simp [Owns]
  | declaration name =>
      simp only [Owns, declaredNames_concat, List.mem_append, List.mem_singleton, or_and_right,
        Owner.declaration.injEq]
      refine or_congr Iff.rfl (and_congr_right ?_)
      intro hname
      rw [hname]

theorem formModule_nil (limit : Nat) : FormModule limit [] where
  names_nodup := List.nodup_nil
  identifiers := nofun
  shapes := nofun
  moduleNames_nodup := by decide

theorem nodup_append_two_iff {xs : List String} {x y : String} :
    (xs ++ [x, y]).Nodup ↔ xs.Nodup ∧ x ∉ xs ∧ y ∉ xs ∧ x ≠ y := by
  have hsplit : xs ++ [x, y] = (xs.concat x).concat y := by simp
  rw [hsplit, List.nodup_concat, List.nodup_concat, List.concat_eq_append, List.mem_append,
    List.mem_singleton, not_or]
  constructor
  · rintro ⟨⟨hy, hyx⟩, hx, hxs⟩
    exact ⟨hxs, hx, hy, Ne.symm hyx⟩
  · rintro ⟨hxs, hx, hy, hxy⟩
    exact ⟨⟨hy, Ne.symm hxy⟩, hx, hxs⟩

theorem formModule_concat_iff {limit : Nat} {earlier : List Declaration} {d : Declaration} :
    FormModule limit (earlier ++ [d]) ↔ FormModule limit earlier ∧ Joins limit earlier d := by
  have hnames : (declaredNames (earlier ++ [d])).Nodup ↔
      d.name ∉ declaredNames earlier ∧ (declaredNames earlier).Nodup := by
    rw [declaredNames_concat, ← List.concat_eq_append, List.nodup_concat]
  have hmodule : (moduleNames (earlier ++ [d])).Nodup ↔ (moduleNames earlier).Nodup ∧
      functionName d.name ∉ moduleNames earlier ∧ schemaName d.name ∉ moduleNames earlier ∧
        functionName d.name ≠ schemaName d.name := by
    rw [moduleNames_concat, nodup_append_two_iff]
  constructor
  · intro h
    rcases hnames.mp h.names_nodup with ⟨hnew, hnodup⟩
    rcases hmodule.mp h.moduleNames_nodup with ⟨hbindings, hfunction, hschema, _⟩
    rcases List.forall_mem_append.mp h.identifiers with ⟨hidents, hident⟩
    rcases List.forall_mem_append.mp h.shapes with ⟨hshapes, hshape⟩
    exact ⟨⟨hnodup, hidents, hshapes, hbindings⟩,
      ⟨hnew, hident d List.mem_cons_self, hshape d List.mem_cons_self, hfunction, hschema⟩⟩
  · rintro ⟨h, hd⟩
    constructor
    · exact hnames.mpr ⟨hd.new, h.names_nodup⟩
    · rw [List.forall_mem_append, List.forall_mem_singleton]
      exact ⟨h.identifiers, hd.identifier⟩
    · rw [List.forall_mem_append, List.forall_mem_singleton]
      exact ⟨h.shapes, hd.shape⟩
    · exact hmodule.mpr ⟨h.moduleNames_nodup, hd.function_free, hd.schema_free,
        functionName_ne_schemaName hd.identifier⟩

theorem FormModule.left {limit : Nat} {earlier later : List Declaration}
    (h : FormModule limit (earlier ++ later)) : FormModule limit earlier := by
  induction later using List.reverseRecOn with
  | nil => rwa [List.append_nil] at h
  | append_singleton later d ih =>
      rw [← List.append_assoc, formModule_concat_iff] at h
      exact ih h.1

/-!
## One step
-/

/-- The names seen and held stand for the declarations before. -/
structure StandFor (earlier : List Declaration) (seen : List String) (held : Bindings) :
    Prop where
  seen_iff : ∀ name, name ∈ seen ↔ name ∈ declaredNames earlier
  held_iff : ∀ binding owner, held.get? binding = some owner ↔ Owns earlier binding owner

def Bindings.withBoth (declaration : String) (held : Bindings) : Bindings :=
  (schemaName declaration, .declaration declaration) ::
    (functionName declaration, .declaration declaration) :: held

theorem get?_constant {names : List String} {owner : Owner} {binding : String} {other : Owner} :
    Entries.get? (names.map (fun name => (name, owner))) binding = some other ↔
      binding ∈ names ∧ other = owner := by
  induction names with
  | nil => simp
  | cons name names ih =>
      rw [List.map_cons, Entries.get?_cons]
      by_cases hname : name = binding
      · rw [if_pos hname, hname]
        simp [eq_comm]
      · rw [if_neg hname, ih, List.mem_cons, or_iff_right (Ne.symm hname)]

theorem standFor_initial : StandFor [] [] Bindings.initial where
  seen_iff := fun name => Iff.rfl
  held_iff := by
    intro binding owner
    have hinitial : Bindings.initial =
        (Combinator.all.map Combinator.name).map (fun name => (name, Owner.runtimeImport)) := rfl
    rw [hinitial, get?_constant]
    cases owner with
    | runtimeImport => exact and_iff_left rfl
    | declaration name =>
        constructor
        · rintro ⟨_, h⟩
          cases h
        · rintro ⟨h, _⟩
          cases h

theorem Declaration.compile_of_compilesTo {limit : Nat} {d : Declaration} {c : Compiled}
    (hname : isIdentifier d.name = true) (h : d.CompilesTo limit c) :
    d.compile limit = .ok c := by
  rcases h with ⟨hc, s, hs, hcompile⟩
  have hshape : s.compile? limit = .ok c.check := by
    rw [Shape.compile?, hcompile]
    rfl
  have hcompiled : (⟨d.name, c.check⟩ : Compiled) = c := by rw [← hc]
  simp [Declaration.compile, hname, hs, hshape, hcompiled]

theorem Declaration.compile_of_violation {limit : Nat} {d : Declaration} {s : Shape}
    {e : Shape.Violation} (hname : isIdentifier d.name = true) (hs : d.shape = some s)
    (he : s.compile limit = .error e) :
    d.compile limit = .error (.declaration d.name (.violation e)) := by
  have hshape : s.compile? limit = .error (.violation e) := by
    rw [Shape.compile?, he]
    rfl
  simp [Declaration.compile, hname, hs, hshape]

namespace StandFor

variable {limit : Nat} {earlier : List Declaration} {d : Declaration} {seen : List String}
  {held : Bindings} (h : StandFor earlier seen held)

include h

theorem not_mem_seen {name : String} (hnew : name ∉ declaredNames earlier) : name ∉ seen := by
  intro hmem
  exact hnew ((h.seen_iff name).mp hmem)

theorem get?_eq_none {binding : String} (hfree : binding ∉ moduleNames earlier) :
    held.get? binding = none := by
  cases hget : held.get? binding with
  | none => rfl
  | some owner => exact absurd (exists_owns_iff.mp ⟨owner, (h.held_iff _ _).mp hget⟩) hfree

theorem claimBoth_functionTaken {owner : Owner}
    (howner : Owns earlier (functionName d.name) owner) :
    Bindings.claimBoth d.name held =
      .error (.nameCollision d.name (functionName d.name) owner) := by
  rw [Bindings.claimBoth, Bindings.claim, (h.held_iff _ _).mpr howner]

/-- The second name is looked up among those before: it is not the first one. -/
theorem claimBoth_schemaTaken (hname : isIdentifier d.name = true)
    (hfree : functionName d.name ∉ moduleNames earlier) {owner : Owner}
    (howner : Owns earlier (schemaName d.name) owner) :
    Bindings.claimBoth d.name held =
      .error (.nameCollision d.name (schemaName d.name) owner) := by
  rw [Bindings.claimBoth, Bindings.claim, h.get?_eq_none hfree]
  simp only [Bindings.claim, Entries.get?_cons]
  rw [if_neg (functionName_ne_schemaName hname), (h.held_iff _ _).mpr howner]

theorem claimBoth_of_joins (hd : Joins limit earlier d) :
    Bindings.claimBoth d.name held =
      .ok (held.withBoth d.name) := by
  rw [Bindings.claimBoth, Bindings.claim, h.get?_eq_none hd.function_free]
  simp only [Bindings.claim, Entries.get?_cons]
  rw [if_neg (functionName_ne_schemaName hd.identifier), h.get?_eq_none hd.schema_free]
  rfl

theorem concat (hd : Joins limit earlier d) :
    StandFor (earlier ++ [d]) (d.name :: seen) (held.withBoth d.name) where
  seen_iff := by
    intro name
    rw [declaredNames_concat, List.mem_cons, List.mem_append, List.mem_singleton, h.seen_iff,
      or_comm]
  held_iff := by
    intro binding owner
    have hnone : ∀ {binding : String}, binding ∉ moduleNames earlier →
        ¬ Owns earlier binding owner := by
      intro binding hfree howner
      exact hfree (exists_owns_iff.mp ⟨owner, howner⟩)
    rw [owns_concat_iff, Bindings.withBoth, Entries.get?_cons, Entries.get?_cons]
    by_cases hschema : schemaName d.name = binding
    · subst hschema
      rw [if_pos rfl, Option.some.injEq, or_iff_right (hnone hd.schema_free)]
      exact ⟨fun howner => ⟨howner.symm, Or.inr rfl⟩, fun howner => howner.1.symm⟩
    · rw [if_neg hschema]
      by_cases hfunction : functionName d.name = binding
      · subst hfunction
        rw [if_pos rfl, Option.some.injEq, or_iff_right (hnone hd.function_free)]
        exact ⟨fun howner => ⟨howner.symm, Or.inl rfl⟩, fun howner => howner.1.symm⟩
      · rw [if_neg hfunction, h.held_iff]
        refine (or_iff_left ?_).symm
        rintro ⟨_, hbinding | hbinding⟩
        · exact hfunction hbinding.symm
        · exact hschema hbinding.symm

end StandFor

namespace Manifest

theorem compileFrom_of_refused {limit : Nat} {earlier : List Declaration} {d : Declaration}
    {seen : List String} {held : Bindings} {e : BuildError} (h : StandFor earlier seen held)
    (hd : Refused limit earlier d e) (rest : List Declaration) :
    compileFrom limit seen held (d :: rest) = .error e := by
  rw [compileFrom]
  cases hd with
  | duplicate hdup => rw [if_pos ((h.seen_iff _).mpr hdup)]
  | invalidName hnew hname =>
      rw [if_neg (h.not_mem_seen hnew)]
      simp [Declaration.compile, hname]
  | missingShape hnew hname hshape =>
      rw [if_neg (h.not_mem_seen hnew)]
      simp [Declaration.compile, hname, hshape]
  | violation hnew hname hshape he =>
      rw [if_neg (h.not_mem_seen hnew),
        Declaration.compile_of_violation hname hshape he]
  | functionTaken hnew hname hshape howner =>
      rcases hshape with ⟨c, hc⟩
      rw [if_neg (h.not_mem_seen hnew),
        Declaration.compile_of_compilesTo hname hc, h.claimBoth_functionTaken howner]
  | schemaTaken hnew hname hshape hfree howner =>
      rcases hshape with ⟨c, hc⟩
      rw [if_neg (h.not_mem_seen hnew),
        Declaration.compile_of_compilesTo hname hc, h.claimBoth_schemaTaken hname hfree howner]

theorem compileFrom_of_joins {limit : Nat} {earlier : List Declaration} {d : Declaration}
    {seen : List String} {held : Bindings} (h : StandFor earlier seen held)
    (hd : Joins limit earlier d) :
    ∃ c next, d.CompilesTo limit c ∧ StandFor (earlier ++ [d]) (d.name :: seen) next ∧
      ∀ rest, compileFrom limit seen held (d :: rest) =
        (compileFrom limit (d.name :: seen) next rest).map (c :: ·) := by
  rcases hd.shape with ⟨c, hc⟩
  refine ⟨c, _, hc, h.concat hd, ?_⟩
  intro rest
  rw [compileFrom, if_neg (h.not_mem_seen hd.new),
    Declaration.compile_of_compilesTo hd.identifier hc, h.claimBoth_of_joins hd]
  dsimp only
  cases compileFrom limit (d.name :: seen) (held.withBoth d.name) rest with
  | error e => rfl
  | ok others => rfl

/-!
## All steps
-/

theorem joins_or_refused (limit : Nat) (earlier : List Declaration) (d : Declaration) :
    Joins limit earlier d ∨ ∃ e, Refused limit earlier d e := by
  by_cases hnew : d.name ∈ declaredNames earlier
  · exact Or.inr ⟨_, .duplicate hnew⟩
  cases hname : isIdentifier d.name with
  | false => exact Or.inr ⟨_, .invalidName hnew hname⟩
  | true =>
      cases hshape : d.shape with
      | none => exact Or.inr ⟨_, .missingShape hnew hname hshape⟩
      | some s =>
          cases hcompile : s.compile limit with
          | error e => exact Or.inr ⟨_, .violation hnew hname hshape hcompile⟩
          | ok check =>
              have hc : ∃ c, d.CompilesTo limit c :=
                ⟨⟨d.name, check⟩, rfl, s, hshape, hcompile⟩
              by_cases hfunction : functionName d.name ∈ moduleNames earlier
              · rcases exists_owns_iff.mpr hfunction with ⟨owner, howner⟩
                exact Or.inr ⟨_, .functionTaken hnew hname hc howner⟩
              by_cases hschema : schemaName d.name ∈ moduleNames earlier
              · rcases exists_owns_iff.mpr hschema with ⟨owner, howner⟩
                exact Or.inr ⟨_, .schemaTaken hnew hname hc hfunction howner⟩
              exact Or.inl ⟨hnew, hname, hc, hfunction, hschema⟩

theorem formModule_or_refused (limit : Nat) (ds : List Declaration) :
    FormModule limit ds ∨
      ∃ earlier d later e, ds = earlier ++ d :: later ∧ FormModule limit earlier ∧
        Refused limit earlier d e := by
  induction ds using List.reverseRecOn with
  | nil => exact Or.inl (formModule_nil limit)
  | append_singleton ds d ih =>
      rcases ih with hds | ⟨earlier, d', later, e, hsplit, hearlier, hrefused⟩
      · rcases joins_or_refused limit ds d with hjoins | ⟨e, hrefused⟩
        · exact Or.inl (formModule_concat_iff.mpr ⟨hds, hjoins⟩)
        · exact Or.inr ⟨ds, d, [], e, rfl, hds, hrefused⟩
      · refine Or.inr ⟨earlier, d', later ++ [d], e, ?_, hearlier, hrefused⟩
        rw [hsplit, List.append_assoc, List.cons_append]

section Run

variable {limit : Nat} {earlier : List Declaration} {seen : List String} {held : Bindings}

theorem compileFrom_of_formModule {rest : List Declaration} (h : StandFor earlier seen held)
    (hmodule : FormModule limit (earlier ++ rest)) :
    ∃ out, List.Forall₂ (Declaration.CompilesTo limit) rest out ∧
      compileFrom limit seen held rest = .ok out := by
  induction rest generalizing earlier seen held with
  | nil => exact ⟨[], .nil, rfl⟩
  | cons d rest ih =>
      have hsplit : earlier ++ d :: rest = earlier ++ [d] ++ rest := by simp
      rw [hsplit] at hmodule
      rcases compileFrom_of_joins h (formModule_concat_iff.mp hmodule.left).2 with
        ⟨c, next, hc, hnext, hstep⟩
      rcases ih hnext hmodule with ⟨out, hall, hout⟩
      refine ⟨c :: out, .cons hc hall, ?_⟩
      rw [hstep, hout]
      rfl

theorem compileFrom_append_of_refused {before later : List Declaration} {d : Declaration}
    {e : BuildError} (h : StandFor earlier seen held)
    (hmodule : FormModule limit (earlier ++ before))
    (hd : Refused limit (earlier ++ before) d e) :
    compileFrom limit seen held (before ++ d :: later) = .error e := by
  -- Each declaration before `d` joins those earlier, and the names it leaves stand for
  -- it too, so the induction moves it from `before` to `earlier`.
  induction before generalizing earlier seen held with
  | nil =>
      rw [List.append_nil] at hd
      exact compileFrom_of_refused h hd later
  | cons b before ih =>
      have hsplit : earlier ++ b :: before = earlier ++ [b] ++ before := by simp
      rw [hsplit] at hmodule hd
      rcases compileFrom_of_joins h (formModule_concat_iff.mp hmodule.left).2 with
        ⟨c, next, _, hnext, hstep⟩
      rw [List.cons_append, hstep, ih hnext hmodule hd]
      rfl

end Run

/-!
## Manifests
-/

theorem compilesTo_unique {limit : Nat} {d : Declaration} {c c' : Compiled}
    (h : d.CompilesTo limit c) (h' : d.CompilesTo limit c') : c = c' := by
  rcases h with ⟨hname, s, hs, hc⟩
  rcases h' with ⟨hname', s', hs', hc'⟩
  rw [hs, Option.some.injEq] at hs'
  rw [← hs', hc, Except.ok.injEq] at hc'
  cases c with
  | mk name check =>
      cases c' with
      | mk name' check' =>
          rw [Compiled.mk.injEq]
          exact ⟨hname.trans hname'.symm, hc'⟩

theorem compile_eq_ok_iff {limit : Nat} {m : Manifest} {out : List Compiled} :
    m.compile limit = .ok out ↔ FormModule limit m.declarations ∧
      List.Forall₂ (Declaration.CompilesTo limit) m.declarations out := by
  constructor
  · intro h
    rcases formModule_or_refused limit m.declarations with
      hmodule | ⟨earlier, d, later, e, hsplit, hearlier, hrefused⟩
    · rcases compileFrom_of_formModule standFor_initial hmodule with ⟨out', hall, hout'⟩
      rw [compile, hout', Except.ok.injEq] at h
      rw [← h]
      exact ⟨hmodule, hall⟩
    · rw [compile, hsplit,
        compileFrom_append_of_refused standFor_initial hearlier hrefused] at h
      cases h
  · rintro ⟨hmodule, hall⟩
    rcases compileFrom_of_formModule standFor_initial hmodule with ⟨out', hall', hout'⟩
    have hunique : Relator.RightUnique (Declaration.CompilesTo limit) :=
      fun _ _ _ h h' => compilesTo_unique h h'
    rw [compile, hout', hunique.forall₂ hall' hall]

theorem exists_compile_eq_ok_iff {limit : Nat} {m : Manifest} :
    (∃ out, m.compile limit = .ok out) ↔ FormModule limit m.declarations := by
  constructor
  · rintro ⟨out, h⟩
    exact (compile_eq_ok_iff.mp h).1
  · intro hmodule
    rcases compileFrom_of_formModule standFor_initial hmodule with ⟨out, _, hout⟩
    exact ⟨out, hout⟩

theorem compile_eq_error_iff {limit : Nat} {m : Manifest} {e : BuildError} :
    m.compile limit = .error e ↔
      ∃ earlier d later, m.declarations = earlier ++ d :: later ∧ FormModule limit earlier ∧
        Refused limit earlier d e := by
  constructor
  · intro h
    rcases formModule_or_refused limit m.declarations with
      hmodule | ⟨earlier, d, later, e', hsplit, hearlier, hrefused⟩
    · rcases exists_compile_eq_ok_iff.mpr hmodule with ⟨out, hout⟩
      rw [hout] at h
      cases h
    · have hcompile := h
      rw [compile, hsplit,
        compileFrom_append_of_refused standFor_initial hearlier hrefused] at hcompile
      cases hcompile
      exact ⟨earlier, d, later, hsplit, hearlier, hrefused⟩
  · rintro ⟨earlier, d, later, hsplit, hearlier, hrefused⟩
    rw [compile, hsplit]
    exact compileFrom_append_of_refused standFor_initial hearlier hrefused

def cut (n : Nat) (m : Manifest) : Manifest := { m with declarations := m.declarations.take n }

/-- The least place after which the cut manifest does not compile. -/
def FirstFault (limit : Nat) (m : Manifest) (i : Nat) : Prop :=
  (¬ ∃ out, (m.cut (i + 1)).compile limit = .ok out) ∧
    ∀ j < i, ∃ out, (m.cut (j + 1)).compile limit = .ok out

theorem firstFault_length {limit : Nat} {m : Manifest} {earlier later : List Declaration}
    {d : Declaration} {e : BuildError} (hsplit : m.declarations = earlier ++ d :: later)
    (hearlier : FormModule limit earlier) (hd : Refused limit earlier d e) :
    m.FirstFault limit earlier.length := by
  constructor
  · have hcut : (m.cut (earlier.length + 1)).declarations = earlier ++ d :: [] := by
      rw [cut, hsplit, List.take_length_add_append]
      rfl
    rw [compile_eq_error_iff.mpr ⟨earlier, d, [], hcut, hearlier, hd⟩]
    rintro ⟨out, hout⟩
    cases hout
  · intro j hj
    rw [exists_compile_eq_ok_iff, cut, hsplit, List.take_append_of_le_length hj]
    rw [← List.take_append_drop (j + 1) earlier] at hearlier
    exact hearlier.left

theorem FirstFault.formModule_take {limit : Nat} {m : Manifest} {i : Nat}
    (h : m.FirstFault limit i) : FormModule limit (m.declarations.take i) := by
  cases i with
  | zero => exact formModule_nil limit
  | succ j => exact exists_compile_eq_ok_iff.mp (h.2 j (Nat.lt_succ_self j))

/-- A manifest compiles exactly if its declarations form a module, to their checks in
order; otherwise the declaration after which it first fails to compile is at fault,
with the first reason that applies to it. -/
theorem compile_outcome_exactly (limit : Nat) (m : Manifest) :
    (∀ out, m.compile limit = .ok out ↔ FormModule limit m.declarations ∧
      List.Forall₂ (Declaration.CompilesTo limit) m.declarations out) ∧
    ∀ e, m.compile limit = .error e ↔
      ∃ i d, m.FirstFault limit i ∧ m.declarations[i]? = some d ∧
        Refused limit (m.declarations.take i) d e := by
  refine ⟨fun out => compile_eq_ok_iff, ?_⟩
  intro e
  rw [compile_eq_error_iff]
  constructor
  · rintro ⟨earlier, d, later, hsplit, hearlier, hd⟩
    refine ⟨earlier.length, d, firstFault_length hsplit hearlier hd, ?_, ?_⟩
    · rw [hsplit, List.getElem?_append_right (Nat.le_refl _), Nat.sub_self]
      rfl
    · rw [hsplit, List.take_left]
      exact hd
  · rintro ⟨i, d, hfirst, hget, hd⟩
    rcases List.getElem?_eq_some_iff.mp hget with ⟨hi, rfl⟩
    refine ⟨m.declarations.take i, _, m.declarations.drop (i + 1), ?_,
      hfirst.formModule_take, hd⟩
    rw [← List.drop_eq_getElem_cons hi, List.take_append_drop]

end Manifest

end ShapeCheck
