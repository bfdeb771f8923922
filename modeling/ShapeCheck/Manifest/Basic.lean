import ShapeCheck.Compile
import ShapeCheck.Module
import ShapeCheck.Validator

/-!
# Manifests

A manifest names the runtime that generated code imports and lists declarations.
Compiling it stops at the first declaration that is at fault.
-/

namespace ShapeCheck

/-- A named shape; the shape may be missing. -/
structure Declaration where
  name : String
  shape : Option Shape

structure Manifest where
  runtime : String
  declarations : List Declaration

def defaultRuntime : String := "shape-guard/runtime"

inductive Owner where
  | runtimeImport
  | declaration (name : String)
deriving DecidableEq

def Owner.message : Owner → String
  | .runtimeImport => "the runtime import"
  | .declaration name => "declaration `" ++ name ++ "`"

inductive BuildError where
  | declaration (name : String) (source : CompileError)
  | duplicateDeclaration (name : String)
  | nameCollision (name binding : String) (other : Owner)
  | invalidName (name : String)
  | unknownDeclaration (name : String)

def BuildError.message : BuildError → String
  | .declaration name source => "declaration `" ++ name ++ "`: " ++ source.message
  | .duplicateDeclaration name =>
      "declaration `" ++ name ++ "` is declared more than once"
  | .nameCollision name binding other =>
      "declaration `" ++ name ++ "` generates `" ++ binding ++
        "`, which clashes with " ++ other.message
  | .invalidName name =>
      "declaration name `" ++ name ++ "` is not a valid identifier"
  | .unknownDeclaration name => "no declaration named `" ++ name ++ "`"

def Declaration.compile (limit : Nat) (d : Declaration) : Except BuildError Compiled :=
  if !isIdentifier d.name then .error (.invalidName d.name)
  else
    match d.shape with
    | none => .error (.declaration d.name .missingShape)
    | some shape =>
        match shape.compile? limit with
        | .error e => .error (.declaration d.name e)
        | .ok check => .ok ⟨d.name, check⟩

abbrev Bindings := Entries Owner

namespace Bindings

/-- The names of the combinators, which belong to the runtime. -/
def initial : Bindings := Combinator.all.map (fun k => (k.name, Owner.runtimeImport))

def claim (declaration binding : String) (held : Bindings) : Except BuildError Bindings :=
  match held.get? binding with
  | some other => .error (.nameCollision declaration binding other)
  | none => .ok ((binding, .declaration declaration) :: held)

def claimBoth (declaration : String) (held : Bindings) : Except BuildError Bindings :=
  match claim declaration (functionName declaration) held with
  | .error e => .error e
  | .ok next => claim declaration (schemaName declaration) next

end Bindings

namespace Manifest

/-- Compile declarations after those of the names `seen`, which hold `held`. -/
def compileFrom (limit : Nat) (seen : List String) (held : Bindings) :
    List Declaration → Except BuildError (List Compiled)
  | [] => .ok []
  | d :: rest =>
      if d.name ∈ seen then .error (.duplicateDeclaration d.name)
      else
        match d.compile limit with
        | .error e => .error e
        | .ok compiled =>
            match Bindings.claimBoth d.name held with
            | .error e => .error e
            | .ok next =>
                match compileFrom limit (d.name :: seen) next rest with
                | .error e => .error e
                | .ok others => .ok (compiled :: others)

def compile (limit : Nat) (m : Manifest) : Except BuildError (List Compiled) :=
  compileFrom limit [] Bindings.initial m.declarations

/-- The first declaration of a name. -/
def declaration (name : String) (m : Manifest) : Except BuildError Declaration :=
  match m.declarations.find? (fun d => d.name == name) with
  | some d => .ok d
  | none => .error (.unknownDeclaration name)

def validator (limit : Nat) (name : String) (m : Manifest) :
    Except BuildError Validator :=
  match m.declaration name with
  | .error e => .error e
  | .ok d =>
      match d.compile limit with
      | .error e => .error e
      | .ok compiled => .ok (.named compiled.name compiled.check)

def render (limit : Nat) (m : Manifest) : Except BuildError String :=
  (m.compile limit).map (Module.render m.runtime)

end Manifest

/-! ## Reports -/

structure DeclarationReport where
  name : String
  expression : String
  combinators : List String

def Compiled.report (c : Compiled) : DeclarationReport :=
  ⟨c.name, c.check.print, c.check.combinators.map Combinator.name⟩

def DeclarationReport.toJson (r : DeclarationReport) : Json :=
  .object [("name", .text r.name), ("expression", .text r.expression),
    ("combinators", .array (r.combinators.map Json.text))]

def Manifest.report (limit : Nat) (m : Manifest) :
    Except BuildError (List DeclarationReport) :=
  (m.compile limit).map (fun cs => cs.map Compiled.report)

end ShapeCheck
