import ShapeCheck.Command.Program
import ShapeCheck.Proofs.EntryPoints
import ShapeCheck.Proofs.LoadedDocuments
import ShapeCheck.Proofs.Validator

/-!
# What a check tells

A check of documents against a declaration tells, document by document, which of them
conform to the declared shape, and its exit code tells whether all of them do.  Which
documents there are may depend on tools from outside, what is told about them does not.
-/

namespace ShapeCheck
namespace Command

/-!
## Lines about conformance
-/

def Document.conforms (s : Shape) (d : Document) : Bool := s.conforms (Value.ofJson d.value)

/-- A word in a colour of the terminal, or as it is. -/
def paint (color : Bool) (code word : String) : String :=
  if color then "\x1b[" ++ code ++ "m" ++ word ++ "\x1b[0m" else word

/-- The line that tells whether a document conforms to a shape. -/
def conformanceLine (color : Bool) (s : Shape) (d : Document) : String :=
  (if d.conforms s then paint color "32" "ok " else paint color "31" "err") ++ " " ++ d.label

def ofLines (lines : List String) : String := String.join (lines.map (fun line => line ++ "\n"))

theorem verdictLine_conforms (color : Bool) (s : Shape) (d : Document) :
    verdictLine color d.label (d.conforms s) = conformanceLine color s d ++ "\n" := by
  have hword : verdictWord color (d.conforms s) =
      if d.conforms s then paint color "32" "ok " else paint color "31" "err" := by
    cases color with
    | false =>
        cases d.conforms s with
        | false => rfl
        | true => rfl
    | true =>
        cases d.conforms s with
        | false => decide
        | true => decide
  rw [verdictLine, hword, conformanceLine]

/-!
## Verdicts of a validator that judges by a shape
-/

section Verdicts

variable {v : Validator} {s : Shape} (h : v.JudgesBy s) {documents : List Document}
  (hnames : ∀ d ∈ documents, d.NamesDiffer)

include h hnames

/-- A document is used up for its value, which is the value of the document as names do not
repeat. -/
theorem verdictsOf_eq_map :
    verdictsOf v documents = documents.map (fun d => (d.label, d.conforms s)) := by
  apply List.map_congr_left
  intro d hd
  rw [h.isValid, Value.gather_eq_ofJson (hnames d hd), Document.conforms]

theorem verdictCode_verdictsOf :
    verdictCode (verdictsOf v documents) =
      if documents.all (Document.conforms s) then 0 else 1 := by
  rw [verdictCode, verdictsOf_eq_map h hnames, List.all_map]
  rfl

theorem verdictLines_verdictsOf (color quiet : Bool) :
    verdictLines color quiet (verdictsOf v documents) =
      ofLines ((if quiet then documents.filter (fun d => !d.conforms s) else documents).map
        (conformanceLine color s)) := by
  have hlines : ∀ told : List Document,
      String.join ((told.map (fun d => (d.label, d.conforms s))).map
        (fun verdict => verdictLine color verdict.1 verdict.2)) =
      ofLines (told.map (conformanceLine color s)) := by
    intro told
    rw [ofLines, List.map_map, List.map_map]
    apply congrArg String.join
    apply List.map_congr_left
    intro d _
    exact verdictLine_conforms color s d
  rw [verdictLines, verdictsOf_eq_map h hnames]
  cases quiet with
  | false => exact hlines documents
  | true =>
      rw [if_pos rfl, if_pos rfl, List.filter_map]
      exact hlines _

end Verdicts

/-!
## Runs
-/

theorem runCheck_of_loaded {tools : Tools} {color : Bool} {disk : Disk} {options : CheckOptions}
    {m : Manifest} {v : Validator} {documents : List Document}
    (hm : loadManifest disk options.manifest = .ok m)
    (hv : m.validator options.maxDepth options.declaration = .ok v)
    (hdocuments : loadDocuments tools disk options.input = .ok documents)
    (hsome : documents ≠ []) :
    runCheck tools color disk options = .printed disk (verdictCode (verdictsOf v documents))
      (verdictLines color options.quiet (verdictsOf v documents)) := by
  rw [runCheck, hm]
  dsimp only
  rw [hv]
  dsimp only
  rw [hdocuments]
  cases documents with
  | nil => exact absurd rfl hsome
  | cons d rest => rfl

/-- Once the manifest, a validator of the declaration and some documents are at hand, a
check ends with zero exactly if every document conforms to the shape of the declaration,
else with one.  It prints a line on every document in order, or, if it is to be quiet, on
every document that does not conform.  This holds for all tools. -/
theorem check_tells_conformance (tools : Tools) (color : Bool) {disk : Disk}
    {options : CheckOptions} {m : Manifest} {v : Validator} {documents : List Document}
    (hm : loadManifest disk options.manifest = .ok m)
    (hv : m.validator options.maxDepth options.declaration = .ok v)
    (hdocuments : loadDocuments tools disk options.input = .ok documents)
    (hsome : documents ≠ []) :
    ∃ d s, FirstNamed options.declaration m.declarations d ∧ d.shape = some s ∧
      ∃ code output, run tools color disk (.check options) = ⟨.ok code, output, disk⟩ ∧
        (∀ words, ofWords words = .ok (.check options) →
          program tools color words disk = ⟨code, output, "", disk⟩) ∧
        ((∀ j ∈ documents, s.conforms (Value.ofJson j.value) = true) → code = 0) ∧
        ((∃ j ∈ documents, s.conforms (Value.ofJson j.value) = false) → code = 1) ∧
        (options.quiet = false → output = ofLines (documents.map (conformanceLine color s))) ∧
        (options.quiet = true → output =
          ofLines ((documents.filter (fun j => !j.conforms s)).map (conformanceLine color s))) := by
  rcases Manifest.exists_judgesBy_of_validator hv with ⟨d, s, hd, hs, hjudges⟩
  have hnames := namesDiffer_of_loadDocuments hdocuments
  have hrun : run tools color disk (.check options) = _ :=
    runCheck_of_loaded hm hv hdocuments hsome
  rw [verdictCode_verdictsOf hjudges hnames, verdictLines_verdictsOf hjudges hnames] at hrun
  refine ⟨d, s, hd, hs, _, _, hrun, ?_, ?_, ?_, ?_, ?_⟩
  · intro words hwords
    rw [program, hwords]
    dsimp only
    rw [hrun]
    rfl
  · intro hall
    exact if_pos (List.all_eq_true.mpr hall)
  · intro hsome
    apply if_neg
    rcases hsome with ⟨j, hj, hrejected⟩
    intro hall
    have haccepted : s.conforms (Value.ofJson j.value) = true := List.all_eq_true.mp hall j hj
    rw [hrejected] at haccepted
    cases haccepted
  · intro hloud
    rw [hloud]
    rfl
  · intro hquiet
    rw [hquiet]
    rfl

/-- Two documents that a filter makes of the first of two lines with text, and one of the
other, which does not conform. -/
theorem check_tells_conformance_filtered :
    let disk := Disk.holding
      [("m", Utf8.encode "[\"r\",[[\"A\",[\"array\",[\"any\"]]]]]"),
        ("d", Utf8.encode "[[],[0]]\n\n[7]")]
    let options : CheckOptions := ⟨"m", "A", ⟨true, none, some ".[]", ["d"]⟩, 2, false⟩
    let words := ["check", "-m", "m", "-d", "A", "--ndjson", "--jq-expr", ".[]", "-i", "d",
      "--max-depth", "2"]
    ∃ m v documents, loadManifest disk options.manifest = .ok m ∧
      m.validator options.maxDepth options.declaration = .ok v ∧
      loadDocuments .builtin disk options.input = .ok documents ∧ documents ≠ [] ∧
      ∃ s, program .builtin false words disk =
          ⟨1, ofLines (documents.map (conformanceLine false s)), "", disk⟩ ∧
        ofLines (documents.map (conformanceLine false s)) =
          "ok  d:1#0\nok  d:1#1\nerr d:3#0\n" := by
  intro disk options words
  have hwords : ofWords words = .ok (.check options) := by decide +kernel
  have hvalidator : ((loadManifest disk options.manifest).toOption.bind (fun m =>
      (m.validator options.maxDepth options.declaration).toOption)).isSome = true := by
    decide +kernel
  have hlabels : (loadDocuments .builtin disk options.input).toOption.map
      (fun documents => documents.map Document.label) = some ["d:1#0", "d:1#1", "d:3#0"] := by
    decide +kernel
  have hcode : (program .builtin false words disk).code = 1 := by decide +kernel
  have houtput : (program .builtin false words disk).output =
      "ok  d:1#0\nok  d:1#1\nerr d:3#0\n" := by
    decide +kernel
  cases hm : loadManifest disk options.manifest with
  | error e =>
      rw [hm] at hvalidator
      cases hvalidator
  | ok m =>
      cases hv : m.validator options.maxDepth options.declaration with
      | error e =>
          rw [hm, Except.toOption, Option.bind_some, hv] at hvalidator
          cases hvalidator
      | ok v =>
          cases hdocuments : loadDocuments .builtin disk options.input with
          | error e =>
              rw [hdocuments] at hlabels
              cases hlabels
          | ok documents =>
              have hsome : documents ≠ [] := by
                intro hnil
                rw [hdocuments, hnil] at hlabels
                cases hlabels
              rcases check_tells_conformance .builtin false hm hv hdocuments hsome with
                ⟨_, s, _, _, code, output, _, hprogram, _, _, hloud, _⟩
              rw [hprogram words hwords] at hcode houtput
              refine ⟨m, v, documents, rfl, hv, rfl, hsome, s, ?_, ?_⟩
              · rw [hprogram words hwords, ← hloud rfl, ← hcode]
              · rw [← hloud rfl]
                exact houtput

end Command
end ShapeCheck
