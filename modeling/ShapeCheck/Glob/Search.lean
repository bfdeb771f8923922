import ShapeCheck.Files.Disk
import ShapeCheck.Glob.Pattern

/-!
# Searching a disk

The paths that fit a pattern, in ascending order, a folder before what it holds.
-/

namespace ShapeCheck
namespace Glob

/-- The path of a name in a folder; the working folder is not written. -/
def step (path name : String) : String :=
  if Path.components path == ["."] then name else Path.join path name

/-! ## Below a folder -/

mutual
/-- What `visit` finds at everything below a tree, named by path and name; a folder comes
before what it holds.  What a link leads to is found by `beyond`. -/
def below (visit : String → String → List String) (beyond : String → List String)
    (path : String) : Tree → List String
  | .folder entries => (Disk.sorted (belowEntries visit beyond path entries)).flatMap Prod.snd
  | .link _ => beyond path
  | _ => []
termination_by structural tree => tree

def belowEntries (visit : String → String → List String) (beyond : String → List String)
    (path : String) : List (String × Tree) → List (String × List String)
  | [] => []
  | (name, tree) :: rest =>
      let child := step path name
      (name, visit child name ++ below visit beyond child tree) ::
        belowEntries visit beyond path rest
termination_by structural entries => entries
end

/-- What `visit` finds below a tree, through at most `links` links on each way. -/
def descend (disk : Disk) (visit : String → String → List String) :
    Nat → String → Tree → List String
  | 0, path, tree => below visit (fun _ => []) path tree
  | links + 1, path, tree =>
      below visit (fun child =>
        match disk.lookup child with
        | .ok found => descend disk visit links child found
        | .error _ => []) path tree

/-! ## Following patterns -/

/-- The two names that every folder has, where a pattern asks for them. -/
def selfAndParent (p : Pattern) : List String :=
  if p.head? == some (.char '.') then
    ["..", "."].filter (fun name => p.fits name.toList)
  else []

/-- Whether a folder has a name, be it that of a link that leads nowhere. -/
def holds (disk : Disk) (path name : String) : Bool :=
  match disk.lookup path with
  | .ok (.folder entries) => Entries.has entries name
  | _ => false

def search (disk : Disk) (foldersOnly : Bool) : List Pattern → String → List String
  | [], _ => []
  | p :: rest, path =>
      let keep (found : String) : Bool := !foldersOnly || disk.isFolder found
      let onwards (found : String) : List String :=
        if rest.isEmpty then [found].filter keep else search disk foldersOnly rest found
      match p.literal? with
      | some name =>
          let name := String.ofList name
          let next := step path name
          if name == "." || name == ".." then
            if disk.isFolder path then onwards next else []
          else if disk.contains next || holds disk path name then onwards next
          else []
      | none =>
          match disk.lookup path with
          | .ok (.folder entries) =>
              if p.isFolders then
                match rest with
                | [] => descend disk (fun child _ => if disk.isFolder child then [child] else [])
                    Disk.maxLinks path (.folder entries)
                | q :: more =>
                    if q.isFolders then search disk foldersOnly (q :: more) path
                    else
                      descend disk (fun child name =>
                        if q.fits name.toList then
                          if more.isEmpty then [child].filter keep
                          else search disk foldersOnly more child
                        else []) Disk.maxLinks path (.folder entries)
              else
                (selfAndParent p).flatMap (fun name => onwards (Path.join path name)) ++
                  (Disk.sorted entries).flatMap (fun entry =>
                    if p.fits entry.1.toList then onwards (step path entry.1) else [])
          | _ => []

/-- The components of a pattern; a slash at the end adds none. -/
def patternPieces (text : String) : List String :=
  let cs := text.toList
  let cs := if cs.head? == some '/' then cs.tail else cs
  let pieces := (Path.split cs).map String.ofList
  if pieces.getLast? == some "" then pieces.dropLast else pieces

def patternsOf : List String → Except Error (List Pattern)
  | [] => .ok []
  | piece :: rest =>
      match Pattern.ofText piece with
      | .error e => .error e
      | .ok p => (patternsOf rest).map (p :: ·)

def find (disk : Disk) (text : String) : Except Error (List String) :=
  match Pattern.ofText text with
  | .error e => .error e
  | .ok _ =>
      match patternsOf (patternPieces text) with
      | .error e => .error e
      | .ok patterns =>
          let start := if Path.isAbsolute text then "/" else "."
          .ok (search disk (text.toList.getLast? == some '/') patterns start)

end Glob
end ShapeCheck
