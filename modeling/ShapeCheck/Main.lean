import ShapeCheck.Files.Snapshot
import ShapeCheck.Fixture.Run

/-!
# The command line

Takes a snapshot of what the words name, runs the program on it, writes back what
changed and prints.
-/

namespace ShapeCheck
namespace CommandLine

/-- The tree at a path; the folders below only where they are asked for.  Links are shown as
what they lead to, and a file that cannot be read as a device that says why. -/
partial def load (deep : Bool) (path : String) : StateT (Array Bytes) IO (Option Tree) := do
  let full := (← IO.currentDir) / path
  if ← full.isDir then
    if !deep then return some (.folder [])
    let mut entries : List (String × Tree) := []
    for entry in ← full.readDir do
      match ← load true entry.path.toString with
      | some tree => entries := entries.concat (entry.fileName, tree)
      | none => pure ()
    return some (.folder entries)
  if ← full.pathExists then
    match ← (IO.FS.readBinFile full).toBaseIO with
    | .ok contents =>
        let files ← get
        set (files.push contents.toList)
        return some (.file files.size)
    | .error e => return some (.device (.error (.other (toString e))))
  return none

def snapshot (paths : List String) : IO Disk := do
  let here := Path.components (← IO.currentDir).toString
  let mut disk : Disk := ⟨Tree.put (.folder []) here (.folder []), fun _ => [], here, .sound⟩
  let mut files : Array Bytes := #[]
  for path in paths do
    let location := disk.locationOf path
    for stage in location.stages do
      let (loaded, more) ← (load (stage == location) stage.path).run files
      files := more
      match loaded with
      | some tree =>
          if stage == location || (disk.root.at? stage).isNone then
            disk := disk.put stage tree
      | none => pure ()
  let contents := files
  return { disk with contents := fun number => contents.getD number [] }

def writeBack (before after : Disk) : IO Unit := do
  for change in before.changes after [] after.root do
    match change with
    | .folder location => IO.FS.createDirAll location.path
    | .file location contents => IO.FS.writeBinFile location.path ⟨contents.toArray⟩

def perform (paths : List String) (program : Disk → Ending) : IO UInt32 := do
  let before ← snapshot paths
  let ending := program before
  writeBack before ending.disk
  IO.print ending.output
  IO.eprint ending.errors
  return UInt32.ofNat ending.code

def pathsOfWords (words : List String) : List String :=
  match Command.ofWords words with
  | .ok command => command.paths
  | .error _ => []

def fixtures (fallback : String) (words : List String) : IO UInt32 :=
  perform (Fixture.paths fallback words) (Fixture.program fallback words)

end CommandLine
end ShapeCheck

def main (words : List String) : IO UInt32 := do
  let color ← (← IO.getStdout).isTty
  ShapeCheck.CommandLine.perform (ShapeCheck.CommandLine.pathsOfWords words)
    (ShapeCheck.Command.program .builtin color words)
