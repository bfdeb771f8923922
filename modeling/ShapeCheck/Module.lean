import ShapeCheck.Check.Printer
import ShapeCheck.Text.Case

/-!
# Generated modules

A module imports the combinators that its checks use and defines, for each
declaration, a check and a function that judges by it.
-/

namespace ShapeCheck

structure Compiled where
  name : String
  check : Check

/-- The text with its first character replaced by the characters of `f`. -/
def mapFirst (f : Char → List Char) (text : String) : String :=
  match text.toList with
  | [] => ""
  | first :: rest => String.ofList (f first ++ rest)

def functionName (name : String) : String := "validate" ++ mapFirst upperCase name

def schemaName (name : String) : String := mapFirst lowerCase name ++ "Schema"

namespace Module

def header : String := "// @generated by shape-guard. Do not edit.\n"

/-- The names of the combinators in some checks, ascending. -/
def importedNames (decls : List Compiled) : List String :=
  let used := Combinator.setOf (decls.flatMap (fun d => d.check.combinators))
  (used.map Combinator.name).mergeSort (fun a b => decide (a ≤ b))

def importLine (runtime : String) (decls : List Compiled) : String :=
  match importedNames decls with
  | [] => ""
  | names =>
      "import \x7b " ++ ", ".intercalate names ++ " \x7d from " ++ quote runtime ++ ";\n"

def declaration (d : Compiled) : String :=
  let schema := schemaName d.name
  "\nconst " ++ schema ++ " = " ++ d.check.print ++ ";\n" ++
    "export function " ++ functionName d.name ++ "(value) \x7b\n" ++
    "  return " ++ schema ++ "(value)\n" ++
    "    ? \x7b ok: true, value \x7d\n" ++
    "    : \x7b ok: false, error: new Error(\"validation failed\") \x7d;\n" ++
    "\x7d\n"

def render (runtime : String) (decls : List Compiled) : String :=
  header ++ importLine runtime decls ++ String.join (decls.map declaration)

end Module

end ShapeCheck
