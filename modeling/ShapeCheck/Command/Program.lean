import ShapeCheck.Command.Run
import ShapeCheck.Filter.Run
import ShapeCheck.Glob.Search

/-!
# The program

What is left when the program ends: an exit code, what was printed and the disk.
-/

namespace ShapeCheck

structure Ending where
  code : Nat
  output : String
  errors : String
  disk : Disk

namespace Command

def helpText : String :=
  "compile declared type shapes into runtime validators, or run them against JSON documents\n\n" ++
    "Usage: shape-guard <COMMAND>\n\n" ++
    "Commands:\n" ++
    "  compile  compile every declaration in a manifest and emit a validator module\n" ++
    "  check    validate JSON documents against one declaration\n" ++
    "  print    print the validator expression for a single descriptor file\n" ++
    "  help     Print this message or the help of the given subcommand(s)\n\n" ++
    "Options:\n" ++
    "  -h, --help     Print help\n" ++
    "  -V, --version  Print version\n"

def usageEnding (disk : Disk) : UsageError → Ending
  | .noWords => ⟨2, "", helpText, disk⟩
  | .help => ⟨0, helpText, "", disk⟩
  | .version => ⟨0, UsageError.version.message ++ "\n", "", disk⟩
  | e => ⟨2, "", e.message ++ "\n", disk⟩

/-- The folder from which a pattern is searched: its components up to the first
that is not a plain name. -/
def searchFolder (pattern : String) : String :=
  let plain := (Path.pieces pattern).takeWhile (fun piece => !isPattern piece)
  if plain.isEmpty then "." else "/".intercalate plain ++ "/"

def wordRoot (word : String) : String := if isPattern word then searchFolder word else word

def paths : Command → List String
  | .compile options => options.manifest :: options.out.toList
  | .check options => options.manifest :: options.input.patterns.map wordRoot
  | .print options => [options.shape]

def Tools.builtin : Tools where
  filter := Filter.builtin
  matching := fun disk pattern =>
    ((Glob.find disk pattern).mapError Glob.Error.message).map (fun paths => paths.map .ok)

def program (tools : Tools) (color : Bool) (words : List String) (disk : Disk) : Ending :=
  match ofWords words with
  | .error e => usageEnding disk e
  | .ok command =>
      let outcome := command.run tools color disk
      match outcome.result with
      | .ok code => ⟨code, outcome.output, "", outcome.disk⟩
      | .error e => ⟨2, outcome.output, "error: " ++ e.message ++ "\n", outcome.disk⟩

end Command
end ShapeCheck
