import ShapeCheck.Command.Program
import ShapeCheck.Fixture.Case
import ShapeCheck.Fixture.NamePattern

/-!
# Running fixtures

All cases of the fixtures in a folder are judged, those that a pattern selects.
-/

namespace ShapeCheck
namespace Fixture

inductive Failure where
  | noPattern
  | badPattern (e : PatternError)
  | folderUnread (path : String) (e : FileError)
  | fileUnread (path : String) (e : FileError)
  | malformed (path : String) (report : Reading.Report)

def Failure.message : Failure → String
  | .noPattern => "--filter needs a pattern"
  | .badPattern e => "invalid --filter pattern: " ++ e.message
  | .folderUnread path e => "reading fixture dir " ++ path ++ ": " ++ e.message
  | .fileUnread path e => "reading " ++ path ++ ": " ++ e.message
  | .malformed path report => path ++ ": " ++ report.message

/-! ## Words -/

/-- What is run: the fixtures of a folder, all or those of fitting names. -/
structure Selection where
  folder : String
  pattern : Option NamePattern

/-- Read the words of the runner; later ones win. -/
def readWords (selection : Selection) : List String → Except Failure Selection
  | [] => .ok selection
  | "--filter" :: [] => .error .noPattern
  | "--filter" :: text :: rest =>
      match NamePattern.ofText text with
      | .error e => .error (.badPattern e)
      | .ok p => readWords ⟨selection.folder, some p⟩ rest
  | folder :: rest => readWords ⟨folder, selection.pattern⟩ rest

def paths (fallback : String) (words : List String) : List String :=
  match readWords ⟨fallback, none⟩ words with
  | .ok selection => [selection.folder]
  | .error _ => []

def Selection.includes (selection : Selection) (name : String) : Bool :=
  match selection.pattern with
  | none => true
  | some p => p.isFoundIn name

/-! ## Fixtures -/

def filesOf (disk : Disk) (folder : String) : Except Failure (List String) :=
  match disk.list folder with
  | .error e => .error (.folderUnread folder e)
  | .ok entries =>
      .ok ((entries.filter (fun e => Path.extension? e.1 == some "json")).map
        (fun e => Path.join folder e.1))

def casesOf (disk : Disk) (path : String) : Except Failure (List Case) :=
  match disk.read path with
  | .error e => .error (.fileUnread path e)
  | .ok contents =>
      match Case.listOfBytes contents with
      | .error report => .error (.malformed path report)
      | .ok cases => .ok cases

def selectedCases (disk : Disk) (includes : String → Bool) :
    List String → Except Failure (List (String × Case))
  | [] => .ok []
  | path :: rest =>
      match casesOf disk path with
      | .error e => .error e
      | .ok cases =>
          (selectedCases disk includes rest).map
            (((cases.filter (fun c => includes c.name)).map (path, ·)) ++ ·)

def complaint? (entry : String × Case) : Option String :=
  match entry.2.judge with
  | .ok () => none
  | .error reason =>
      some ("❌ " ++ entry.1 ++ " :: " ++ entry.2.name ++ ": " ++ reason.message ++ "\n")

/-- What is told about cases: a line for each that does not hold, then the count. -/
def summary (cases : List (String × Case)) : String :=
  let complaints := cases.filterMap complaint?
  String.join complaints ++ Double.digitText (cases.length - complaints.length) ++ " of " ++
    Double.digitText cases.length ++ " cases passed\n"

def runSelection (disk : Disk) (selection : Selection) :
    Except Failure (List (String × Case)) :=
  match filesOf disk selection.folder with
  | .error e => .error e
  | .ok paths => selectedCases disk selection.includes paths

def program (fallback : String) (words : List String) (disk : Disk) : Ending :=
  match readWords ⟨fallback, none⟩ words with
  | .error e => ⟨2, "", "error: " ++ e.message ++ "\n", disk⟩
  | .ok selection =>
      match runSelection disk selection with
      | .error e => ⟨2, "", "error: " ++ e.message ++ "\n", disk⟩
      | .ok cases =>
          ⟨if (cases.filterMap complaint?).isEmpty then 0 else 1, "", summary cases, disk⟩

end Fixture
end ShapeCheck
