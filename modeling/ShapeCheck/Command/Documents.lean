import ShapeCheck.Command.Arguments
import ShapeCheck.Files.Disk
import ShapeCheck.Filter.Engine
import ShapeCheck.Manifest.Reader
import ShapeCheck.Pointer
import ShapeCheck.Text.Blank
import ShapeCheck.Text.Lines

/-!
# Documents

The documents that a check looks at, each with the label under which it is
reported.  Patterns of paths are matched and filters are run by tools from outside, of which
nothing is assumed here.
-/

namespace ShapeCheck
namespace Command

structure Tools where
  filter : Filter.Engine
  /-- why a text is no pattern, or the paths on a disk that fit it; in place of a path there
  may be the reason why the search failed at that point -/
  matching : Disk → String → Except String (List (Except String String))

structure Document where
  label : String
  value : Json

inductive Failure where
  | manifestUnread (path : String) (e : FileError)
  | manifestMalformed (path : String) (report : Reading.Report)
  | build (e : BuildError)
  | patternFailed (reason : String)
  | patternUnmatched (pattern : String)
  | sourceUnread (path : String) (e : FileError)
  | sourceMalformed (path : String) (report : Reading.Report)
  | lineMalformed (label : String) (report : Reading.Report)
  | pointerUnmatched (pointer label : String)
  | filterFailed (label : String) (e : Filter.Error)
  | noDocuments
  | shapeUnread (path : String) (e : FileError)
  | shapeMalformed (path : String) (report : Reading.Report)
  | violation (e : Shape.Violation)
  | folderNotMade (path : String) (e : FileError)
  | fileNotWritten (path : String) (e : FileError)

def buildMessage (e : BuildError) : String :=
  match e with
  | .declaration _ source => e.message ++ ": " ++ source.message
  | _ => e.message

def patternMessage (reason : String) : String :=
  "failed to resolve input file paths: " ++ reason

def Failure.message : Failure → String
  | .manifestUnread path e => loadMessage (path ++ ": " ++ e.message)
  | .manifestMalformed path report => loadMessage (path ++ ": " ++ report.message)
  | .build e => buildMessage e
  | .patternFailed reason => patternMessage reason
  | .patternUnmatched pattern =>
      patternMessage ("glob pattern matched no files: " ++ pattern)
  | .sourceUnread path e => "failed to read source file " ++ path ++ ": " ++ e.message
  | .sourceMalformed path report =>
      "failed to parse JSON source file (" ++ path ++ "): " ++ report.reasonText
  | .lineMalformed label report =>
      "failed to parse JSON (" ++ label ++ "): " ++ report.reasonText
  | .pointerUnmatched pointer label =>
      "JSON pointer " ++ pointer ++ " selects nothing in " ++ label
  | .filterFailed label e =>
      "failed to apply jq expression to source file (" ++ label ++ "): " ++ e.message
  | .noDocuments => "no input documents"
  | .shapeUnread path e => "failed to read " ++ path ++ ": " ++ e.message
  | .shapeMalformed path report => path ++ ": " ++ report.message
  | .violation e => e.message
  | .folderNotMade path e => "failed to create " ++ path ++ ": " ++ e.message
  | .fileNotWritten path e => "failed to write " ++ path ++ ": " ++ e.message

/-! ## Paths -/

def isPattern (path : String) : Bool :=
  path.toList.any (fun c => c == '*' || c == '?' || c == '[' || c == '\x7b')

/-- The paths that were found, unless the search failed somewhere. -/
def foundPaths : List (Except String String) → Except Failure (List String)
  | [] => .ok []
  | .error reason :: _ => .error (.patternFailed reason)
  | .ok path :: rest => (foundPaths rest).map (path :: ·)

/-- The paths that a word stands for: itself, or all that fit a pattern. -/
def pathsOf (tools : Tools) (disk : Disk) (word : String) : Except Failure (List String) :=
  if isPattern word then
    match tools.matching disk word with
    | .error reason => .error (.patternFailed reason)
    | .ok [] => .error (.patternUnmatched word)
    | .ok found => foundPaths found
  else .ok [word]

def pathsOfAll (tools : Tools) (disk : Disk) : List String → Except Failure (List String)
  | [] => .ok []
  | word :: rest =>
      match pathsOf tools disk word with
      | .error e => .error e
      | .ok paths => (pathsOfAll tools disk rest).map (paths ++ ·)

/-! ## Contents -/

/-- The documents of lines, the first of which has the number `number`.  Blank
lines hold none. -/
def documentsOfLines (path : String) (number : Nat) :
    List (List Char) → Except Failure (List Document)
  | [] => .ok []
  | line :: rest =>
      if (trimBlank line).isEmpty then documentsOfLines path (number + 1) rest
      else
        let label := path ++ ":" ++ Double.digitText number
        match Json.ofText (String.ofList line) with
        | .error report => .error (.lineMalformed label report)
        | .ok value =>
            (documentsOfLines path (number + 1) rest).map (⟨label, value⟩ :: ·)

def documentsOfFile (disk : Disk) (lineByLine : Bool) (path : String) :
    Except Failure (List Document) :=
  match disk.readText path with
  | .error e => .error (.sourceUnread path e)
  | .ok text =>
      if lineByLine then documentsOfLines path 1 (lines text.toList)
      else
        match Json.ofText text with
        | .error report => .error (.sourceMalformed path report)
        | .ok value => .ok [⟨path, value⟩]

/-! ## Selection -/

def selectPart (pointer : Option String) (d : Document) : Except Failure Document :=
  match pointer with
  | none => .ok d
  | some p =>
      match Pointer.select p d.value with
      | some part => .ok ⟨d.label, part⟩
      | none => .error (.pointerUnmatched p d.label)

def numbered (label : String) (i : Nat) : List Json → List Document
  | [] => []
  | value :: rest =>
      ⟨label ++ "#" ++ Double.digitText i, value⟩ :: numbered label (i + 1) rest

def applyFilter (tools : Tools) (filter : Option String) (d : Document) :
    Except Failure (List Document) :=
  match filter with
  | none => .ok [d]
  | some source =>
      match tools.filter.apply source d.value with
      | .error e => .error (.filterFailed d.label e)
      | .ok values => .ok (numbered d.label 0 values)

def select (tools : Tools) (options : InputOptions) :
    List Document → Except Failure (List Document)
  | [] => .ok []
  | d :: rest =>
      match selectPart options.pointer d with
      | .error e => .error e
      | .ok part =>
          match applyFilter tools options.filter part with
          | .error e => .error e
          | .ok found => (select tools options rest).map (found ++ ·)

def documentsOfPaths (tools : Tools) (disk : Disk) (options : InputOptions) :
    List String → Except Failure (List Document)
  | [] => .ok []
  | path :: rest =>
      match documentsOfFile disk options.lineByLine path with
      | .error e => .error e
      | .ok found =>
          match select tools options found with
          | .error e => .error e
          | .ok selected => (documentsOfPaths tools disk options rest).map (selected ++ ·)

def loadDocuments (tools : Tools) (disk : Disk) (options : InputOptions) :
    Except Failure (List Document) :=
  match pathsOfAll tools disk options.patterns with
  | .error e => .error e
  | .ok paths => documentsOfPaths tools disk options paths

end Command
end ShapeCheck
