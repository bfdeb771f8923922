import ShapeCheck.Entries
import ShapeCheck.Files.Path
import ShapeCheck.Text.Utf8

/-!
# Files and folders

A disk is a tree of folders with a working folder.  A file stands in the tree by its number,
so one file can stand under several names.  Links hold a path, which is followed from the
folder of the link, and devices take what is written without keeping it.

A disk may refuse what it is asked for, and a file that is opened may stop to take bytes.
Operations follow paths through the tree and tell why they fail; those that fail half-way
tell what they leave.
-/

namespace ShapeCheck

inductive FileError where
  | missing
  | taken
  | notFolder
  | isFolder
  | notText
  | tooLong
  | tooManyLinks
  | zeroInName
  | other (reason : String)
deriving DecidableEq

def FileError.message : FileError → String
  | .missing => "No such file or directory (os error 2)"
  | .taken => "File exists (os error 17)"
  | .notFolder => "Not a directory (os error 20)"
  | .isFolder => "Is a directory (os error 21)"
  | .notText => "stream did not contain valid UTF-8"
  | .tooLong => "File name too long (os error 36)"
  | .tooManyLinks => "Too many levels of symbolic links (os error 40)"
  | .zeroInName => "file name contained an unexpected NUL byte"
  | .other reason => reason

/-!
## Trees
-/

inductive Tree where
  | file (number : Nat)
  | device (supply : Except FileError Bytes)
  | link (target : String)
  | folder (entries : List (String × Tree))

instance : Inhabited Tree := ⟨.folder []⟩

abbrev Location := List String

namespace Tree

/-- What stands at a location; links are not followed. -/
def at? : Tree → Location → Option Tree
  | tree, [] => some tree
  | .folder entries, name :: rest =>
      match Entries.get? entries name with
      | some tree => tree.at? rest
      | none => none
  | _, _ :: _ => none

/-- Put a tree at a location, with the folders on the way. -/
def put (new : Tree) : Location → Tree → Tree
  | [], _ => new
  | name :: rest, .folder entries =>
      let held := (Entries.get? entries name).getD (.folder [])
      .folder (Entries.insert name (put new rest held) entries)
  | name :: rest, _ => .folder [(name, put new rest (.folder []))]

def isFolder : Tree → Bool
  | .folder _ => true
  | _ => false

mutual
/-- A number above those of all files. -/
def bound : Tree → Nat
  | .file number => number + 1
  | .folder entries => boundOfEntries entries
  | _ => 0
termination_by structural tree => tree

def boundOfEntries : List (String × Tree) → Nat
  | [] => 0
  | (_, tree) :: rest => max tree.bound (boundOfEntries rest)
termination_by structural entries => entries
end

end Tree

/-!
## Disks
-/

inductive Medium.Act where
  | enter
  | read
  | add
  | write
deriving DecidableEq

/-- What a disk does not let happen. -/
structure Medium where
  refuses : Medium.Act → Location → Option FileError
  /-- how many of the bytes for an opened file are taken before it fails -/
  stops : Location → Bytes → Option (Nat × FileError)

def Medium.sound : Medium := ⟨fun _ _ => none, fun _ _ => none⟩

structure Disk where
  root : Tree
  contents : Nat → Bytes
  /-- the working folder -/
  here : Location
  medium : Medium

namespace Disk

def holding (files : List (String × Bytes)) : Disk where
  root := .folder (files.zipIdx.map (fun f => (f.1.1, .file f.2)))
  contents := fun number => ((files.map Prod.snd)[number]?).getD []
  here := []
  medium := .sound

def maxNameBytes : Nat := 255

def maxPathBytes : Nat := 4095

def maxLinks : Nat := 40

/-- Why no path can be spelled like this, if so. -/
def unspeakable? (path : String) : Option FileError :=
  if path.toList.contains '\x00' then some .zeroInName
  else if maxPathBytes < path.utf8ByteSize then some .tooLong
  else none

/-!
## Following paths
-/

/-- Where components lead, up to the first link among them. -/
inductive Stretch where
  | arrived (location : Location)
  | link (folder : Location) (target : String) (rest : List String)

/-- Follow components from a location up to a link.  Every component needs a folder to
start from; the empty one and the point stay in it. -/
def walk (disk : Disk) (start : Location) : List String → Except FileError Stretch
  | [] => .ok (.arrived start)
  | piece :: rest =>
      match disk.root.at? start with
      | some (.folder entries) =>
          match disk.medium.refuses .enter start with
          | some e => .error e
          | none =>
              if piece == "" || piece == "." then disk.walk start rest
              else if piece == ".." then disk.walk start.dropLast rest
              else if maxNameBytes < piece.utf8ByteSize then .error .tooLong
              else
                match Entries.get? entries piece with
                | none => .error .missing
                | some (.link target) => .ok (.link start target rest)
                | some _ => disk.walk (start ++ [piece]) rest
      | some _ => .error .notFolder
      | none => .error .missing

def startIn (folder : Location) (path : String) : Location :=
  if Path.isAbsolute path then [] else folder

/-- A location, and how many links may still be gone through after the way to it. -/
structure Arrival where
  location : Location
  links : Nat

/-- Follow components from a location, through at most `links` links. -/
def follow (disk : Disk) (links : Nat) (start : Location) (way : List String) :
    Except FileError Arrival :=
  match disk.walk start way with
  | .error e => .error e
  | .ok (.arrived location) => .ok ⟨location, links⟩
  | .ok (.link folder target rest) =>
      match links with
      | 0 => .error .tooManyLinks
      | fewer + 1 => disk.follow fewer (startIn folder target) (Path.pieces target ++ rest)
termination_by structural links

def origin (disk : Disk) (path : String) : Location := startIn disk.here path

def resolve (disk : Disk) (path : String) : Except FileError Location :=
  match unspeakable? path with
  | some e => .error e
  | none =>
      if path == "" then .error .missing
      else (disk.follow maxLinks (disk.origin path) (Path.pieces path)).map Arrival.location

def lookup (disk : Disk) (path : String) : Except FileError Tree :=
  match disk.resolve path with
  | .error e => .error e
  | .ok location =>
      match disk.root.at? location with
      | some tree => .ok tree
      | none => .error .missing

def contains (disk : Disk) (path : String) : Bool :=
  match disk.lookup path with
  | .ok _ => true
  | .error _ => false

def isFolder (disk : Disk) (path : String) : Bool :=
  match disk.lookup path with
  | .ok tree => tree.isFolder
  | .error _ => false

/-!
## Reading
-/

def readable (disk : Disk) (path : String) : Except FileError Tree :=
  match disk.resolve path with
  | .error e => .error e
  | .ok location =>
      match disk.medium.refuses .read location with
      | some e => .error e
      | none =>
          match disk.root.at? location with
          | some tree => .ok tree
          | none => .error .missing

def read (disk : Disk) (path : String) : Except FileError Bytes :=
  match disk.readable path with
  | .error e => .error e
  | .ok (.file number) => .ok (disk.contents number)
  | .ok (.device supply) => supply
  | .ok (.folder _) => .error .isFolder
  | .ok (.link _) => .error .missing

def readText (disk : Disk) (path : String) : Except FileError String :=
  match disk.read path with
  | .error e => .error e
  | .ok contents =>
      match Utf8.decodeText? contents with
      | some text => .ok text
      | none => .error .notText

def sorted {α : Type} (entries : List (String × α)) : List (String × α) :=
  entries.mergeSort (fun a b => decide (a.1 ≤ b.1))

def list (disk : Disk) (path : String) : Except FileError (List (String × Tree)) :=
  match disk.readable path with
  | .error e => .error e
  | .ok (.folder entries) => .ok (sorted entries)
  | .ok _ => .error .notFolder

/-!
## Making folders
-/

def put (disk : Disk) (location : Location) (tree : Tree) : Disk :=
  { disk with root := tree.put location disk.root }

/-- Make one folder, named by its components from a location.  A link under that name is
not followed. -/
def makeFolder (disk : Disk) (start : Location) (way : List String) (name : String) :
    Except FileError Disk :=
  match disk.follow maxLinks start way with
  | .error e => .error e
  | .ok ⟨location, _⟩ =>
      match disk.root.at? location with
      | some (.folder entries) =>
          match disk.medium.refuses .enter location with
          | some e => .error e
          | none =>
              if name == "." || name == ".." || Entries.has entries name then .error .taken
              else if maxNameBytes < name.utf8ByteSize then .error .tooLong
              else
                match disk.medium.refuses .add location with
                | some e => .error e
                | none => .ok (disk.put (location ++ [name]) (.folder []))
      | some _ => .error .notFolder
      | none => .error .missing

def leadsToFolder (disk : Disk) (start : Location) (way : List String) : Bool :=
  match disk.follow maxLinks start way with
  | .error _ => false
  | .ok ⟨location, _⟩ =>
      match disk.root.at? location with
      | some tree => tree.isFolder
      | none => false

/-- Make a folder and those on the way to it.  The components are reversed.  A failure
leaves the folders that were made before it. -/
def makeFoldersBack (start : Location) (disk : Disk) :
    List String → Except (FileError × Disk) Disk
  | [] => .ok disk
  | name :: back =>
      match disk.makeFolder start back.reverse name with
      | .ok next => .ok next
      | .error .missing =>
          match makeFoldersBack start disk back with
          | .error e => .error e
          | .ok next =>
              match next.makeFolder start back.reverse name with
              | .ok final => .ok final
              | .error e =>
                  if next.leadsToFolder start (name :: back).reverse then .ok next
                  else .error (e, next)
      | .error e =>
          if disk.leadsToFolder start (name :: back).reverse then .ok disk
          else .error (e, disk)

def makeFolders (disk : Disk) (path : String) : Except (FileError × Disk) Disk :=
  match unspeakable? path with
  | some e => .error (e, disk)
  | none => makeFoldersBack (disk.origin path) disk (Path.components path).reverse

/-!
## Writing
-/

theorem links_le_of_follow {disk : Disk} {links : Nat} {start : Location} {way : List String}
    {arrival : Arrival} (h : disk.follow links start way = .ok arrival) :
    arrival.links ≤ links := by
  induction links generalizing start way with
  | zero =>
      unfold follow at h
      split at h
      · cases h
      · cases h
        exact Nat.le_refl _
      · cases h
  | succ fewer ih =>
      unfold follow at h
      split at h
      · cases h
      · cases h
        exact Nat.le_refl _
      · exact Nat.le_succ_of_le (ih h)

/-- The folder and the name under which a path that is to be written stands, once the links
at its end are gone through.  The folder has to be there; a path that ends with a slash or a
point can only name a folder. -/
def place (disk : Disk) (links : Nat) (start : Location) (path : String) :
    Except FileError (Location × String) :=
  match Path.lastName? path with
  | none => .error (if path == "" then .missing else .isFolder)
  | some (way, name) =>
      match hway : disk.follow links start way with
      | .error e => .error e
      | .ok ⟨folder, left⟩ =>
          match disk.root.at? folder with
          | some (.folder entries) =>
              match disk.medium.refuses .enter folder with
              | some e => .error e
              | none =>
                  if name == "." || name == ".." || path.toList.getLast? == some '/' then
                    .error .isFolder
                  else if maxNameBytes < name.utf8ByteSize then .error .tooLong
                  else
                    match Entries.get? entries name with
                    | some (.link target) =>
                        match left with
                        | 0 => .error .tooManyLinks
                        | fewer + 1 =>
                            have := links_le_of_follow hway
                            disk.place fewer (startIn folder target) target
                    | _ => .ok (folder, name)
          | some _ => .error .notFolder
          | none => .error .missing
termination_by links
decreasing_by assumption

inductive Handle where
  | file (location : Location) (number : Nat)
  | device (location : Location)

def setContents (disk : Disk) (number : Nat) (contents : Bytes) : Disk :=
  { disk with contents := fun other => if other = number then contents else disk.contents other }

/-- Open what a path names.  A file that is there is emptied, and one that is not is made. -/
def openNew (disk : Disk) (path : String) : Except FileError (Disk × Handle) :=
  match unspeakable? path with
  | some e => .error e
  | none =>
      match disk.place maxLinks (disk.origin path) path with
      | .error e => .error e
      | .ok (folder, name) =>
          let location := folder ++ [name]
          match disk.root.at? location with
          | none =>
              match disk.medium.refuses .add folder with
              | some e => .error e
              | none =>
                  let number := disk.root.bound
                  .ok ((disk.put location (.file number)).setContents number [],
                    .file location number)
          | some (.file number) =>
              match disk.medium.refuses .write location with
              | some e => .error e
              | none => .ok (disk.setContents number [], .file location number)
          | some (.device _) =>
              match disk.medium.refuses .write location with
              | some e => .error e
              | none => .ok (disk, .device location)
          | some _ => .error .isFolder

/-- Write to what was opened.  A failure leaves the bytes that were taken before it. -/
def fill (disk : Disk) (contents : Bytes) : Handle → Except (FileError × Disk) Disk
  | .file location number =>
      match disk.medium.stops location contents with
      | some (taken, e) => .error (e, disk.setContents number (contents.take taken))
      | none => .ok (disk.setContents number contents)
  | .device location =>
      match disk.medium.stops location contents with
      | some (_, e) => .error (e, disk)
      | none => .ok disk

def write (disk : Disk) (path : String) (contents : Bytes) : Except (FileError × Disk) Disk :=
  match disk.openNew path with
  | .error e => .error (e, disk)
  | .ok (opened, handle) => opened.fill contents handle

end Disk
end ShapeCheck
