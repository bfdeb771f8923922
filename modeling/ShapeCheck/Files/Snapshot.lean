import ShapeCheck.Files.Disk

/-!
# Snapshots

A snapshot holds the part of a real disk that a program looks at.  After the
program has run, what differs from the snapshot is written back.
-/

namespace ShapeCheck

/-- The location that components lead to when nothing is looked up. -/
def Location.walk (start : Location) : List String → Location
  | [] => start
  | ".." :: rest => walk start.dropLast rest
  | name :: rest => if name == "" || name == "." then walk start rest else walk (start ++ [name]) rest

def Disk.locationOf (disk : Disk) (path : String) : Location :=
  (disk.origin path).walk (Path.pieces path)

def Location.path (location : Location) : String := "/" ++ "/".intercalate location

/-- A location and the folders on the way to it, the outermost first. -/
def Location.stages (location : Location) : List Location :=
  (List.range location.length).map (fun i => location.take (i + 1))

namespace Disk

/-- What has to be written under a location so that an old disk becomes a new one. -/
inductive Change where
  | folder (location : Location)
  | file (location : Location) (contents : Bytes)

mutual
def changes (old new : Disk) (location : Location) : Tree → List Change
  | .file number =>
      match old.root.at? location with
      | some (.file held) =>
          if old.contents held == new.contents number then []
          else [.file location (new.contents number)]
      | _ => [.file location (new.contents number)]
  | .folder entries =>
      (match old.root.at? location with
        | some (.folder _) => []
        | _ => [.folder location]) ++ changesIn old new location entries
  | _ => []
termination_by structural tree => tree

def changesIn (old new : Disk) (location : Location) : List (String × Tree) → List Change
  | [] => []
  | (name, tree) :: rest =>
      changes old new (location ++ [name]) tree ++ changesIn old new location rest
termination_by structural entries => entries
end

end Disk
end ShapeCheck
