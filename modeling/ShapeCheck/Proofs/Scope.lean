import Mathlib.Data.List.Perm.Basic
import ShapeCheck.Proofs.Manifest
import ShapeCheck.Proofs.ModuleText

/-!
# Every name of a module is bound once

A module binds the names that it imports and two names for each declaration.  In the
module of a manifest they all differ, and the imported ones are those that the checks
refer to.
-/

namespace ShapeCheck

namespace Module

def boundNames (imported : List String) (decls : List Compiled) : List String :=
  imported ++ (decls.map (fun d => schemaName d.name) ++ decls.map (fun d => functionName d.name))

/-- Names of the target language that printed literals refer to. -/
def globalNames : List String := ["undefined", "NaN", "Infinity"]

/-- Names are imported in ascending order, exactly those of the combinators in the
checks; all names that the module binds are different identifiers.  So the name that
each printed check starts with is bound once, and the global ones are not bound. -/
structure WellScoped (imported : List String) (decls : List Compiled) : Prop where
  ascending : imported.Pairwise (· < ·)
  used_iff : ∀ name, name ∈ imported ↔
    ∃ d ∈ decls, ∃ e, Check.Occurs e d.check ∧ e.combinator.name = name
  distinct : (boundNames imported decls).Nodup
  identifiers : ∀ name ∈ boundNames imported decls, isIdentifier name = true
  bound_once : ∀ d ∈ decls, ∀ e, Check.Occurs e d.check →
    (∃ rest, e.print.toList = e.combinator.name.toList ++ rest) ∧
      (boundNames imported decls).count e.combinator.name = 1
  globals_free : ∀ name ∈ globalNames, name ∉ boundNames imported decls

theorem mem_names_of_mem_importedNames {decls : List Compiled} {name : String}
    (h : name ∈ importedNames decls) : name ∈ Combinator.all.map Combinator.name := by
  rcases mem_importedNames_iff.mp h with ⟨_, _, e, _, rfl⟩
  exact List.mem_map_of_mem (Combinator.mem_all e.combinator)

/-!
## Identifiers
-/

theorem isIdentifier_of_mem_names {name : String}
    (h : name ∈ Combinator.all.map Combinator.name) : isIdentifier name = true := by
  have hall : (Combinator.all.map Combinator.name).all isIdentifier = true := by decide
  exact List.all_eq_true.mp hall name h

theorem isIdentifier_of_mem_boundNames {decls : List Compiled}
    (h : ∀ d ∈ decls, isIdentifier d.name = true) {name : String}
    (hname : name ∈ boundNames (importedNames decls) decls) : isIdentifier name = true := by
  rw [boundNames, List.mem_append, List.mem_append, List.mem_map, List.mem_map] at hname
  rcases hname with hname | ⟨d, hd, rfl⟩ | ⟨d, hd, rfl⟩
  · exact isIdentifier_of_mem_names (mem_names_of_mem_importedNames hname)
  · exact isIdentifier_schemaName (h d hd)
  · exact isIdentifier_functionName (h d hd)

/-!
## Global names
-/

/-- Functions are named with a `v` in front and checks with an `a` at the end. -/
theorem not_mem_globalNames {name : String} (h : isIdentifier name = true) :
    schemaName name ∉ globalNames ∧ functionName name ∉ globalNames := by
  rcases isIdentifier_iff.mp h with ⟨first, rest, hlist, hfirst, _⟩
  have hlast : ∀ global ∈ globalNames, global.toList.getLast? ≠ some 'a' := by decide
  have hhead : ∀ global ∈ globalNames, global.toList.head? ≠ some 'v' := by decide
  constructor
  · intro hmem
    apply hlast _ hmem
    rw [toList_schemaName hlist hfirst, List.getLast?_append]
    rfl
  · intro hmem
    apply hhead _ hmem
    rw [toList_functionName hlist hfirst]
    rfl

theorem globals_not_mem_boundNames {decls : List Compiled}
    (h : ∀ d ∈ decls, isIdentifier d.name = true) {name : String} (hname : name ∈ globalNames) :
    name ∉ boundNames (importedNames decls) decls := by
  rw [boundNames, List.mem_append, List.mem_append, List.mem_map, List.mem_map]
  rintro (hmem | ⟨d, hd, rfl⟩ | ⟨d, hd, rfl⟩)
  · have hall : ∀ global ∈ globalNames, global ∉ Combinator.all.map Combinator.name := by decide
    exact hall name hname (mem_names_of_mem_importedNames hmem)
  · exact (not_mem_globalNames (h d hd)).1 hname
  · exact (not_mem_globalNames (h d hd)).2 hname

end Module

/-!
## Modules of manifests
-/

theorem map_name_of_compilesTo {limit : Nat} {ds : List Declaration} {decls : List Compiled}
    (h : List.Forall₂ (Declaration.CompilesTo limit) ds decls) :
    decls.map Compiled.name = declaredNames ds := by
  induction h with
  | nil => rfl
  | cons hd _ ih => rw [List.map_cons, declaredNames, List.map_cons, hd.1, ih, declaredNames]

theorem isEmpty_of_compilesTo {limit : Nat} {ds : List Declaration} {decls : List Compiled}
    (h : List.Forall₂ (Declaration.CompilesTo limit) ds decls) :
    decls.isEmpty = ds.isEmpty := by
  cases h <;> rfl

theorem FormModule.identifiers_compiled {limit : Nat} {ds : List Declaration}
    {decls : List Compiled} (h : FormModule limit ds)
    (hdecls : List.Forall₂ (Declaration.CompilesTo limit) ds decls) :
    ∀ d ∈ decls, isIdentifier d.name = true := by
  intro d hd
  have hname : d.name ∈ declaredNames ds := by
    rw [← map_name_of_compilesTo hdecls]
    exact List.mem_map_of_mem hd
  rcases List.mem_map.mp hname with ⟨declared, hdeclared, heq⟩
  rw [← heq]
  exact h.identifiers declared hdeclared

theorem moduleNames_perm (ds : List Declaration) :
    (Combinator.all.map Combinator.name ++
      ((declaredNames ds).map functionName ++ (declaredNames ds).map schemaName)).Perm
        (moduleNames ds) := by
  have hsorted : ((declaredNames ds).map functionName ++ (declaredNames ds).map schemaName).Perm
      (ds.flatMap (fun d => [functionName d.name] ++ [schemaName d.name])) := by
    rw [declaredNames, List.map_map, List.map_map, List.map_eq_flatMap, List.map_eq_flatMap]
    exact List.flatMap_append_perm ds _ _
  exact hsorted.append_left _

theorem FormModule.boundNames_nodup {limit : Nat} {ds : List Declaration}
    {decls : List Compiled} (h : FormModule limit ds)
    (hnames : decls.map Compiled.name = declaredNames ds) :
    (Module.boundNames (Module.importedNames decls) decls).Nodup := by
  have hmodule := (moduleNames_perm ds).nodup_iff.mpr h.moduleNames_nodup
  have hschemas : decls.map (fun d => schemaName d.name) = (declaredNames ds).map schemaName := by
    rw [← hnames, List.map_map]
    rfl
  have hfunctions : decls.map (fun d => functionName d.name) =
      (declaredNames ds).map functionName := by
    rw [← hnames, List.map_map]
    rfl
  rw [List.nodup_append] at hmodule
  rcases hmodule with ⟨_, hpairs, hapart⟩
  rw [Module.boundNames, hschemas, hfunctions, List.nodup_append]
  refine ⟨?_, List.nodup_append_comm.mp hpairs, ?_⟩
  · refine List.Pairwise.imp ?_ (Module.importedNames_ascending decls)
    rintro name _ hlt rfl
    exact String.lt_irrefl name hlt
  -- Imported names are names of combinators, which no declaration takes.
  · intro name hname other hother
    apply hapart name (Module.mem_names_of_mem_importedNames hname) other
    rw [List.mem_append] at hother ⊢
    exact hother.symm

theorem FormModule.wellScoped {limit : Nat} {ds : List Declaration} {decls : List Compiled}
    (h : FormModule limit ds) (hdecls : List.Forall₂ (Declaration.CompilesTo limit) ds decls) :
    Module.WellScoped (Module.importedNames decls) decls where
  ascending := Module.importedNames_ascending decls
  used_iff := fun _ => Module.mem_importedNames_iff
  distinct := h.boundNames_nodup (map_name_of_compilesTo hdecls)
  identifiers := fun _ => Module.isIdentifier_of_mem_boundNames (h.identifiers_compiled hdecls)
  bound_once := by
    intro d hd e he
    refine ⟨e.exists_toList_print, ?_⟩
    apply List.count_eq_one_of_mem (h.boundNames_nodup (map_name_of_compilesTo hdecls))
    exact List.mem_append_left _ (Module.mem_importedNames_iff.mpr ⟨d, hd, e, he, rfl⟩)
  globals_free := fun _ => Module.globals_not_mem_boundNames (h.identifiers_compiled hdecls)

namespace Manifest

/-- The module of a manifest has one import line exactly if something is declared, and
its names are well scoped. -/
theorem render_wellScoped {limit : Nat} {m : Manifest} {text : String}
    (h : m.render limit = .ok text) :
    ∃ decls imported, m.compile limit = .ok decls ∧
      text.toList.splitOn '\n' =
        (Module.headerLine ::
          ((if m.declarations.isEmpty then [] else [Module.importText m.runtime imported]) ++
            decls.flatMap Module.declarationLines)).map String.toList ++ [[]] ∧
      Module.WellScoped imported decls := by
  rw [render] at h
  cases hcompile : m.compile limit with
  | error e =>
      rw [hcompile] at h
      cases h
  | ok decls =>
      rw [hcompile] at h
      cases h
      rcases compile_eq_ok_iff.mp hcompile with ⟨hmodule, hdecls⟩
      refine ⟨decls, Module.importedNames decls, rfl, ?_, hmodule.wellScoped hdecls⟩
      rw [Module.splitOn_render (hmodule.identifiers_compiled hdecls), Module.lines,
        isEmpty_of_compilesTo hdecls]

def sample : Manifest where
  runtime := "shape-guard/runtime"
  declarations :=
    [⟨"user", some (.object [⟨"id", .primitive .number, false⟩, ⟨"note", .any, true⟩])⟩,
      ⟨"_user", some (.union [.primitive .number, .literal .null])⟩]

theorem render_wellScoped_sample : ∃ text, sample.render 4 = .ok text ∧
    ∃ decls imported, sample.compile 4 = .ok decls ∧
      text.toList.splitOn '\n' =
        (Module.headerLine ::
          ((if sample.declarations.isEmpty then [] else
              [Module.importText sample.runtime imported]) ++
            decls.flatMap Module.declarationLines)).map String.toList ++ [[]] ∧
      Module.WellScoped imported decls :=
  ⟨_, rfl, render_wellScoped (show sample.render 4 = .ok _ from rfl)⟩

end Manifest

end ShapeCheck
