import ShapeCheck.Command.Documents

/-!
# Running commands

A command reads a disk and leaves an exit code or a failure, what it printed and
the disk after it.
-/

namespace ShapeCheck
namespace Command

structure Outcome where
  result : Except Failure Nat
  output : String
  disk : Disk

namespace Outcome

/-- Nothing was printed. -/
def failed (disk : Disk) (e : Failure) : Outcome := ⟨.error e, "", disk⟩

/-- Something was printed and nothing written. -/
def printed (disk : Disk) (code : Nat) (output : String) : Outcome := ⟨.ok code, output, disk⟩

end Outcome

def loadManifest (disk : Disk) (path : String) : Except Failure Manifest :=
  match disk.read path with
  | .error e => .error (.manifestUnread path e)
  | .ok contents =>
      match Manifest.ofBytes contents with
      | .error report => .error (.manifestMalformed path report)
      | .ok m => .ok m

/-! ## Compile -/

def compiledText (format : OutputFormat) (maxDepth : Nat) (m : Manifest) :
    Except BuildError String :=
  match format with
  | .module => m.render maxDepth
  | .report =>
      (m.report maxDepth).map (fun reports =>
        (Json.array (reports.map DeclarationReport.toJson)).spread)

/-- Write a text to a file, in a folder that is made if need be. -/
def writeOutput (disk : Disk) (path text : String) : Outcome :=
  let folder := (Path.parent? path).getD ""
  match disk.makeFolders folder with
  | .error (e, left) => .failed left (.folderNotMade folder e)
  | .ok ready =>
      match ready.write path (Utf8.encode text) with
      | .error (e, left) => .failed left (.fileNotWritten path e)
      | .ok written => ⟨.ok 0, "", written⟩

def runCompile (disk : Disk) (options : CompileOptions) : Outcome :=
  match loadManifest disk options.manifest with
  | .error e => .failed disk e
  | .ok m =>
      match compiledText options.format options.maxDepth m with
      | .error e => .failed disk (.build e)
      | .ok text =>
          match options.out with
          | none => .printed disk 0 (text ++ "\n")
          | some path => writeOutput disk path text

/-! ## Check -/

def verdictWord (color accepted : Bool) : String :=
  match color, accepted with
  | false, true => "ok "
  | false, false => "err"
  | true, true => "\x1b[32mok \x1b[0m"
  | true, false => "\x1b[31merr\x1b[0m"

def verdictLine (color : Bool) (label : String) (accepted : Bool) : String :=
  verdictWord color accepted ++ " " ++ label ++ "\n"

/-- The lines about documents; a quiet check tells only of rejected ones. -/
def verdictLines (color quiet : Bool) (verdicts : List (String × Bool)) : String :=
  let told := if quiet then verdicts.filter (fun v => !v.2) else verdicts
  String.join (told.map (fun v => verdictLine color v.1 v.2))

def verdictsOf (v : Validator) (documents : List Document) : List (String × Bool) :=
  documents.map (fun d => (d.label, v.isValid (Value.gather d.value)))

/-- Zero if all documents are accepted, else one. -/
def verdictCode (verdicts : List (String × Bool)) : Nat :=
  if verdicts.all Prod.snd then 0 else 1

def runCheck (tools : Tools) (color : Bool) (disk : Disk) (options : CheckOptions) : Outcome :=
  match loadManifest disk options.manifest with
  | .error e => .failed disk e
  | .ok m =>
      match m.validator options.maxDepth options.declaration with
      | .error e => .failed disk (.build e)
      | .ok v =>
          match loadDocuments tools disk options.input with
          | .error e => .failed disk e
          | .ok [] => .failed disk .noDocuments
          | .ok documents =>
              let verdicts := verdictsOf v documents
              .printed disk (verdictCode verdicts)
                (verdictLines color options.quiet verdicts)

/-! ## Print -/

def runPrint (disk : Disk) (options : PrintOptions) : Outcome :=
  match disk.read options.shape with
  | .error e => .failed disk (.shapeUnread options.shape e)
  | .ok contents =>
      match Shape.ofBytes contents with
      | .error report => .failed disk (.shapeMalformed options.shape report)
      | .ok shape =>
          match shape.compile options.maxDepth with
          | .error e => .failed disk (.violation e)
          | .ok compiled => .printed disk 0 (compiled.print ++ "\n")

def run (tools : Tools) (color : Bool) (disk : Disk) : Command → Outcome
  | .compile options => runCompile disk options
  | .check options => runCheck tools color disk options
  | .print options => runPrint disk options

end Command
end ShapeCheck
