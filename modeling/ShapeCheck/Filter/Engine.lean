import ShapeCheck.Reading.Document

/-!
# Engines that run filters

A filter is a text that an engine understands.  The engine is given a document and makes
texts of it, one after the other, until one fails.  Here these texts are read back as
documents, and whatever goes wrong is told in words.
-/

namespace ShapeCheck
namespace Filter

/-- Why an engine does not run a text.  Each reason comes with the part of the program that
it is about. -/
inductive Refusal where
  | malformed (reasons : List (String × String))
  /-- names without a meaning, each with what it should be -/
  | unknown (names : List (String × String × String))

def Refusal.message : Refusal → String
  | .malformed reasons =>
      String.join (reasons.map (fun r => "parse error: " ++ r.1 ++ " in `" ++ r.2 ++ "`\n"))
  | .unknown names =>
      String.join (names.map (fun n =>
        "undefined `" ++ n.1 ++ "`: " ++ n.2.1 ++ " in `" ++ n.2.2 ++ "`\n"))

/-- What runs filters: given a filter and a document, the outputs up to the first fault. -/
abbrev Engine := String → Json → Except Refusal (List (Except String String))

inductive Error where
  | refused (reason : Refusal)
  | failed (fault : String)
  | notJson (text : String) (report : Reading.Report)

def Error.message : Error → String
  | .refused reason => reason.message
  | .failed fault => fault
  | .notJson text report => "jq output is not JSON: " ++ text ++ ": " ++ report.reasonText

/-- The documents that outputs spell, unless one of them is a fault or spells none. -/
def documents : List (Except String String) → Except Error (List Json)
  | [] => .ok []
  | .error fault :: _ => .error (.failed fault)
  | .ok text :: rest =>
      match Json.ofText text with
      | .error report => .error (.notJson text report)
      | .ok j => (documents rest).map (j :: ·)

def Engine.apply (engine : Engine) (source : String) (input : Json) : Except Error (List Json) :=
  match engine source input with
  | .error reason => .error (.refused reason)
  | .ok outputs => documents outputs

end Filter
end ShapeCheck
