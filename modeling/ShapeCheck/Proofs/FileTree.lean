import ShapeCheck.Files.Disk
import ShapeCheck.Proofs.Entries

/-!
# What operations on files leave alone

A tree is put into a folder under a name.  Everything that does not lie under that name
stays, so making folders changes no file, and the ways that could be followed before lead to
the same places.
-/

namespace ShapeCheck
namespace Tree

theorem at?_nil (tree : Tree) : tree.at? [] = some tree := by
  cases tree <;> rfl

theorem at?_folder_cons (entries : List (String × Tree)) (name : String) (rest : Location) :
    (folder entries).at? (name :: rest) = (Entries.get? entries name).bind (·.at? rest) := by
  rw [at?]
  cases Entries.get? entries name <;> rfl

theorem exists_inner {tree found : Tree} {step : String} {location : Location}
    (h : tree.at? (step :: location) = some found) :
    ∃ held inner, tree = .folder held ∧ Entries.get? held step = some inner ∧
      inner.at? location = some found := by
  cases tree with
  | folder held =>
      rw [at?_folder_cons, Option.bind_eq_some_iff] at h
      rcases h with ⟨inner, hstep, hinner⟩
      exact ⟨held, inner, rfl, hstep, hinner⟩
  | _ => cases h

theorem at?_append_cons {tree : Tree} {location : Location} {entries : List (String × Tree)}
    (h : tree.at? location = some (.folder entries)) (name : String) (rest : Location) :
    tree.at? (location ++ name :: rest) = (Entries.get? entries name).bind (·.at? rest) := by
  induction location generalizing tree with
  | nil =>
      rw [at?_nil] at h
      cases h
      exact at?_folder_cons entries name rest
  | cons step location ih =>
      rcases exists_inner h with ⟨held, inner, rfl, hstep, hinner⟩
      rw [List.cons_append, at?_folder_cons, hstep]
      exact ih hinner

/-- What stood at a location stands there still; a folder may hold something else. -/
inductive Kept : Option Tree → Option Tree → Prop where
  | same (tree : Option Tree) : Kept tree tree
  | folder (entries others : List (String × Tree)) :
      Kept (some (.folder entries)) (some (.folder others))

def number? : Tree → Option Nat
  | .file number => some number
  | _ => none

theorem Kept.number? {before after : Option Tree} (h : Kept before after) :
    after.bind Tree.number? = before.bind Tree.number? := by
  cases h <;> rfl

theorem Kept.trans {first second third : Option Tree} (h : Kept first second)
    (h' : Kept second third) : Kept first third := by
  cases h with
  | same => exact h'
  | folder entries others =>
      cases h' with
      | same => exact .folder _ _
      | folder => exact .folder _ _

theorem Kept.exists_folder {entries : List (String × Tree)} {after : Option Tree}
    (h : Kept (some (.folder entries)) after) : ∃ others, after = some (.folder others) := by
  cases h with
  | same => exact ⟨entries, rfl⟩
  | folder _ others => exact ⟨others, rfl⟩

section Put

variable {tree new : Tree} {location : Location} {entries : List (String × Tree)} {name : String}

theorem put_singleton (new : Tree) (entries : List (String × Tree)) (name : String) :
    new.put [name] (.folder entries) = .folder (Entries.insert name new entries) := by
  rw [put, put]

theorem put_cons (new : Tree) {held : List (String × Tree)} {step : String} {inner : Tree}
    (h : Entries.get? held step = some inner) (rest : Location) :
    new.put (step :: rest) (.folder held) =
      .folder (Entries.insert step (new.put rest inner) held) := by
  rw [put, h]
  rfl

theorem at?_put_inside (h : tree.at? location = some (.folder entries)) (rest : Location) :
    (new.put (location ++ [name]) tree).at? (location ++ name :: rest) = new.at? rest := by
  induction location generalizing tree with
  | nil =>
      rw [at?_nil] at h
      cases h
      rw [List.nil_append, List.nil_append, put_singleton, at?_folder_cons,
        Entries.get?_insert_self, Option.bind_some]
  | cons step location ih =>
      rcases exists_inner h with ⟨held, inner, rfl, hstep, hinner⟩
      rw [List.cons_append, List.cons_append, put_cons new hstep, at?_folder_cons,
        Entries.get?_insert_self]
      exact ih hinner

theorem at?_put_outside (h : tree.at? location = some (.folder entries)) {other : Location}
    (hout : ∀ rest, other ≠ location ++ name :: rest) :
    Kept (tree.at? other) ((new.put (location ++ [name]) tree).at? other) := by
  induction location generalizing tree other with
  | nil =>
      rw [at?_nil] at h
      cases h
      rw [List.nil_append, put_singleton]
      cases other with
      | nil =>
          rw [at?_nil, at?_nil]
          exact .folder _ _
      | cons first rest =>
          have hne : name ≠ first := by
            rintro rfl
            exact hout rest rfl
          rw [at?_folder_cons, at?_folder_cons, Entries.get?_insert_of_ne _ _ hne]
          exact .same _
  | cons step location ih =>
      rcases exists_inner h with ⟨held, inner, rfl, hstep, hinner⟩
      rw [List.cons_append, put_cons new hstep]
      cases other with
      | nil =>
          rw [at?_nil, at?_nil]
          exact .folder _ _
      | cons first rest =>
          rw [at?_folder_cons, at?_folder_cons]
          by_cases hfirst : step = first
          · subst hfirst
            rw [Entries.get?_insert_self, hstep]
            refine ih hinner ?_
            rintro more rfl
            exact hout more rfl
          · rw [Entries.get?_insert_of_ne _ _ hfirst]
            exact .same _

end Put

/-!
## Numbers of files
-/

theorem bound_le_of_get? {entries : List (String × Tree)} {name : String} {tree : Tree}
    (h : Entries.get? entries name = some tree) : tree.bound ≤ boundOfEntries entries := by
  induction entries with
  | nil => cases h
  | cons entry rest ih =>
      rw [Entries.get?_cons] at h
      rw [boundOfEntries]
      split at h
      · cases h
        exact Nat.le_max_left _ _
      · exact Nat.le_trans (ih h) (Nat.le_max_right _ _)

theorem lt_bound_of_at? {tree : Tree} {location : Location} {number : Nat}
    (h : tree.at? location = some (.file number)) : number < tree.bound := by
  induction location generalizing tree with
  | nil =>
      rw [at?_nil] at h
      cases h
      exact Nat.lt_succ_self number
  | cons step location ih =>
      rcases exists_inner h with ⟨held, inner, rfl, hstep, hinner⟩
      exact Nat.lt_of_lt_of_le (ih hinner) (bound_le_of_get? hstep)

end Tree

/-!
## Files
-/

namespace Disk

def numberAt? (disk : Disk) (location : Location) : Option Nat :=
  (disk.root.at? location).bind Tree.number?

/-- Each location holds the same file, or none, on two disks, and all files have the same
contents. -/
structure SameFiles (disk other : Disk) : Prop where
  numbers : ∀ location, other.numberAt? location = disk.numberAt? location
  contents : other.contents = disk.contents

theorem SameFiles.refl (disk : Disk) : disk.SameFiles disk := ⟨fun _ => rfl, rfl⟩

/-- All that stood on a disk stands there still. -/
structure Extends (disk after : Disk) : Prop where
  medium : after.medium = disk.medium
  here : after.here = disk.here
  kept : ∀ location tree, disk.root.at? location = some tree →
    Tree.Kept (some tree) (after.root.at? location)

theorem Extends.refl (disk : Disk) : disk.Extends disk :=
  ⟨rfl, rfl, fun _ _ h => h ▸ .same _⟩

theorem Extends.trans {first second third : Disk} (h : first.Extends second)
    (h' : second.Extends third) : first.Extends third := by
  refine ⟨h'.medium.trans h.medium, h'.here.trans h.here, ?_⟩
  intro location tree htree
  have hkept := h.kept location tree htree
  cases hsecond : second.root.at? location with
  | none =>
      rw [hsecond] at hkept
      cases hkept
  | some found =>
      rw [hsecond] at hkept
      exact hkept.trans (h'.kept location found hsecond)

structure AddsFolders (disk after : Disk) : Prop where
  files : disk.SameFiles after
  extension : disk.Extends after

theorem AddsFolders.refl (disk : Disk) : disk.AddsFolders disk :=
  ⟨.refl disk, .refl disk⟩

theorem AddsFolders.trans {first second third : Disk} (h : first.AddsFolders second)
    (h' : second.AddsFolders third) : first.AddsFolders third := by
  refine ⟨⟨?_, ?_⟩, h.extension.trans h'.extension⟩
  · exact fun location => (h'.files.numbers location).trans (h.files.numbers location)
  · exact h'.files.contents.trans h.files.contents

variable {disk after : Disk} {location start : Location} {entries : List (String × Tree)}
  {name : String}

theorem numberAt?_eq_some_iff {number : Nat} :
    disk.numberAt? location = some number ↔ disk.root.at? location = some (.file number) := by
  rw [numberAt?, Option.bind_eq_some_iff]
  constructor
  · rintro ⟨tree, htree, hnumber⟩
    cases tree with
    | file _ =>
        cases hnumber
        exact htree
    | _ => cases hnumber
  · intro h
    exact ⟨_, h, rfl⟩

section Put

variable (hfolder : disk.root.at? location = some (.folder entries))
  (hfree : Entries.get? entries name = none)

include hfolder

theorem numberAt?_put_outside (new : Tree) {other : Location}
    (hout : ∀ rest, other ≠ location ++ name :: rest) :
    (disk.put (location ++ [name]) new).numberAt? other = disk.numberAt? other :=
  (Tree.at?_put_outside hfolder hout).number?

include hfree

theorem at?_under_free (rest : Location) : disk.root.at? (location ++ name :: rest) = none := by
  rw [Tree.at?_append_cons hfolder, hfree]
  rfl

theorem put_extends (new : Tree) : disk.Extends (disk.put (location ++ [name]) new) := by
  refine ⟨rfl, rfl, ?_⟩
  intro other tree hother
  have hout : ∀ rest, other ≠ location ++ name :: rest := by
    rintro rest rfl
    rw [at?_under_free hfolder hfree] at hother
    cases hother
  rw [← hother]
  exact Tree.at?_put_outside hfolder hout

theorem put_folder_addsFolders :
    disk.AddsFolders (disk.put (location ++ [name]) (.folder [])) := by
  refine ⟨⟨?_, rfl⟩, put_extends hfolder hfree _⟩
  intro other
  by_cases hinside : ∃ rest, other = location ++ name :: rest
  · rcases hinside with ⟨rest, rfl⟩
    have hafter : (disk.put (location ++ [name]) (.folder [])).root.at?
        (location ++ name :: rest) = (Tree.folder []).at? rest :=
      Tree.at?_put_inside hfolder rest
    rw [numberAt?, numberAt?, hafter, at?_under_free hfolder hfree]
    cases rest <;> rfl
  · exact numberAt?_put_outside hfolder _ (not_exists.mp hinside)

end Put

/-!
## Making folders
-/

theorem makeFolder_addsFolders {way : List String}
    (h : disk.makeFolder start way name = .ok after) : disk.AddsFolders after := by
  unfold makeFolder at h
  split at h
  · cases h
  · split at h
    · rename_i entries hfolder
      split at h
      · cases h
      · split at h
        · cases h
        · rename_i hfree
          rw [Bool.or_eq_true, not_or, Entries.has, Option.not_isSome_iff_eq_none] at hfree
          split at h
          · cases h
          · split at h
            · cases h
            · cases h
              exact put_folder_addsFolders hfolder hfree.2
    · cases h
    · cases h

/-- The disk that an operation leaves, be it done or not. -/
def left : Except (FileError × Disk) Disk → Disk
  | .ok after => after
  | .error (_, after) => after

theorem makeFoldersBack_addsFolders (start : Location) (disk : Disk) (back : List String) :
    disk.AddsFolders (left (makeFoldersBack start disk back)) := by
  induction back with
  | nil => exact .refl disk
  | cons name back ih =>
      rw [makeFoldersBack]
      split
      · rename_i hmade
        exact makeFolder_addsFolders hmade
      · split
        · rename_i hrest
          rw [hrest] at ih
          exact ih
        · rename_i next hrest
          rw [hrest] at ih
          split
          · rename_i hmade
            exact ih.trans (makeFolder_addsFolders hmade)
          · split
            · exact ih
            · exact ih
      · split
        · exact .refl disk
        · exact .refl disk

theorem makeFolders_addsFolders (disk : Disk) (path : String) :
    disk.AddsFolders (left (disk.makeFolders path)) := by
  unfold makeFolders
  split
  · exact .refl disk
  · exact makeFoldersBack_addsFolders _ _ _

end Disk
end ShapeCheck
