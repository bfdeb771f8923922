import Mathlib.Tactic.SplitIfs
import ShapeCheck.Proofs.FileTree

/-!
# What writing a file leaves alone

A path is followed through links to the folder and the name under which the file stands.
The way there stays open when more is put on the disk, so afterwards the path leads to what
was written.  Only this file is touched, be it new or not, also if it stops to take bytes.
-/

namespace ShapeCheck

/-!
## Last names
-/

namespace Path

theorem split_ne_nil (cs : List Char) : split cs ≠ [] := by
  fun_cases split cs <;> simp

/-- Only an empty path and one that ends with a slash have an empty last piece. -/
theorem getLast?_of_split {cs : List Char} (h : (split cs).getLast? = some []) :
    cs = [] ∨ cs.getLast? = some '/' := by
  fun_induction split cs with
  | case1 => exact Or.inl rfl
  | case2 rest ih =>
      right
      rw [List.getLast?_cons_of_ne_nil (split_ne_nil rest)] at h
      rcases ih h with rfl | hrest
      · rfl
      · rw [List.getLast?_cons, hrest]
        rfl
  | case3 c rest hslash piece more hsplit ih =>
      right
      rw [hsplit] at ih
      cases more with
      | nil => cases h
      | cons next others =>
          rw [List.getLast?_cons_cons] at h ih
          rcases ih h with rfl | hrest
          · cases hsplit
          · rw [List.getLast?_cons, hrest]
            rfl
  | case4 c rest hslash hsplit ih => exact absurd hsplit (split_ne_nil rest)

theorem getLast?_pieces_ne {path : String} (hpath : path ≠ "")
    (hslash : path.toList.getLast? ≠ some '/') : (pieces path).getLast? ≠ some "" := by
  intro hlast
  rw [pieces, List.getLast?_map, Option.map_eq_some_iff] at hlast
  rcases hlast with ⟨piece, hpiece, hempty⟩
  have hnil : piece = [] := by simpa using hempty
  rw [hnil] at hpiece
  rcases getLast?_of_split hpiece with hpathEmpty | hlastSlash
  · exact hpath (by simpa using hpathEmpty)
  · exact hslash hlastSlash

theorem pieces_of_lastName? {path name : String} {way : List String}
    (h : lastName? path = some (way, name)) (hslash : path.toList.getLast? ≠ some '/') :
    path ≠ "" ∧ name ≠ "" ∧ pieces path = way ++ [name] := by
  have hpath : path ≠ "" := by
    rintro rfl
    have hnone : lastName? "" = none := by decide
    rw [hnone] at h
    cases h
  have hlast := getLast?_pieces_ne hpath hslash
  rw [List.getLast?_eq_head?_reverse] at hlast
  rw [lastName?] at h
  cases hpieces : (pieces path).reverse with
  | nil =>
      rw [hpieces] at h
      cases h
  | cons last back =>
      have hname : last ≠ "" := by
        rintro rfl
        rw [hpieces] at hlast
        exact hlast rfl
      rw [hpieces, List.dropWhile_cons_of_neg (by simpa using hname)] at h
      cases h
      refine ⟨hpath, hname, ?_⟩
      rw [← List.reverse_cons, ← hpieces, List.reverse_reverse]

end Path

namespace Disk

variable {disk after : Disk} {start location folder : Location} {entries : List (String × Tree)}

/-!
## Following paths on a disk that grew
-/

structure IsName (piece : String) : Prop where
  nonempty : piece ≠ ""
  point : piece ≠ "."
  points : piece ≠ ".."
  length : piece.utf8ByteSize ≤ maxNameBytes

/-- What a component does in a folder with some entries, before the rest is followed. -/
inductive Step (disk : Disk) (start : Location) (entries : List (String × Tree))
    (rest : List String) (stretch : Stretch) (piece : String) : Prop
  | stay (hpiece : piece = "" ∨ piece = ".") (h : disk.walk start rest = .ok stretch)
  | up (hpiece : piece = "..") (h : disk.walk start.dropLast rest = .ok stretch)
  | name {tree : Tree} (hname : IsName piece) (hget : Entries.get? entries piece = some tree)
      (htree : ∀ target, tree ≠ .link target)
      (h : disk.walk (start ++ [piece]) rest = .ok stretch)
  | link {target : String} (hname : IsName piece)
      (hget : Entries.get? entries piece = some (.link target))
      (h : stretch = .link start target rest)

theorem walk_cons_eq_ok_iff {piece : String} {rest : List String} {stretch : Stretch} :
    disk.walk start (piece :: rest) = .ok stretch ↔
      ∃ entries, disk.root.at? start = some (.folder entries) ∧
        disk.medium.refuses .enter start = none ∧
        Step disk start entries rest stretch piece := by
  constructor
  · intro h
    rw [walk] at h
    split at h
    · rename_i entries hfolder
      split at h
      · cases h
      · rename_i henter
        refine ⟨entries, hfolder, henter, ?_⟩
        split_ifs at h with hstay hup hlong
        · exact .stay (by simpa using hstay) h
        · exact .up (by simpa using hup) h
        · simp only [Bool.or_eq_true, beq_iff_eq, not_or] at hstay hup
          have hname : IsName piece := ⟨hstay.1, hstay.2, hup, Nat.not_lt.mp hlong⟩
          split at h
          · cases h
          · rename_i target hget
            cases h
            exact .link hname hget rfl
          · rename_i tree hlink hget
            exact .name hname hget hlink h
    · cases h
    · cases h
  · rintro ⟨entries, hfolder, henter, hstep⟩
    rw [walk, hfolder]
    dsimp only
    rw [henter]
    dsimp only
    cases hstep with
    | stay hpiece h => rw [if_pos (by simpa using hpiece), h]
    | up hpiece h => rw [if_neg (by simp [hpiece]), if_pos (by simp [hpiece]), h]
    | @name tree hname hget htree h =>
        rw [if_neg (by simp [hname.nonempty, hname.point]), if_neg (by simpa using hname.points),
          if_neg (Nat.not_lt.mpr hname.length), hget]
        cases tree with
        | link target => exact absurd rfl (htree target)
        | _ => exact h
    | link hname hget h =>
        rw [if_neg (by simp [hname.nonempty, hname.point]), if_neg (by simpa using hname.points),
          if_neg (Nat.not_lt.mpr hname.length), hget, h]

def Stretch.andThen (disk : Disk) (more : List String) : Stretch → Except FileError Stretch
  | .arrived location => disk.walk location more
  | .link folder target rest => .ok (.link folder target (rest ++ more))

theorem walk_append_eq_ok {way : List String} {stretch final : Stretch}
    (h : disk.walk start way = .ok stretch) {more : List String}
    (hmore : stretch.andThen disk more = .ok final) : disk.walk start (way ++ more) = .ok final := by
  induction way generalizing start with
  | nil =>
      cases h
      exact hmore
  | cons piece rest ih =>
      rcases walk_cons_eq_ok_iff.mp h with ⟨entries, hfolder, henter, hstep⟩
      rw [List.cons_append, walk_cons_eq_ok_iff]
      refine ⟨entries, hfolder, henter, ?_⟩
      cases hstep with
      | stay hpiece h => exact .stay hpiece (ih h)
      | up hpiece h => exact .up hpiece (ih h)
      | name hname hget htree h => exact .name hname hget htree (ih h)
      | link hname hget h =>
          cases h
          cases hmore
          exact .link hname hget rfl

section Extends

variable (hextends : disk.Extends after)

include hextends

theorem Extends.get? (hfolder : disk.root.at? start = some (.folder entries)) :
    ∃ others, after.root.at? start = some (.folder others) ∧
      ∀ name tree, Entries.get? entries name = some tree →
        ∃ found, Entries.get? others name = some found ∧ Tree.Kept (some tree) (some found) := by
  have hkept := hextends.kept start _ hfolder
  rcases hkept.exists_folder with ⟨others, hothers⟩
  refine ⟨others, hothers, ?_⟩
  intro name tree hget
  have hbefore : disk.root.at? (start ++ [name]) = some tree := by
    rw [Tree.at?_append_cons hfolder, hget]
    exact Tree.at?_nil tree
  have hentry := hextends.kept _ _ hbefore
  rw [Tree.at?_append_cons hothers] at hentry
  cases hfound : Entries.get? others name with
  | none =>
      rw [hfound] at hentry
      cases hentry
  | some found =>
      rw [hfound, Option.bind_some, Tree.at?_nil] at hentry
      exact ⟨found, rfl, hentry⟩

theorem walk_of_extends {way : List String} {stretch : Stretch}
    (h : disk.walk start way = .ok stretch) : after.walk start way = .ok stretch := by
  induction way generalizing start with
  | nil => exact h
  | cons piece rest ih =>
      rcases walk_cons_eq_ok_iff.mp h with ⟨entries, hfolder, henter, hstep⟩
      rcases hextends.get? hfolder with ⟨others, hothers, hnames⟩
      rw [← hextends.medium] at henter
      refine walk_cons_eq_ok_iff.mpr ⟨others, hothers, henter, ?_⟩
      cases hstep with
      | stay hpiece h => exact .stay hpiece (ih h)
      | up hpiece h => exact .up hpiece (ih h)
      | @name tree hname hget htree h =>
          rcases hnames piece tree hget with ⟨found, hfound, hkept⟩
          refine .name hname hfound ?_ (ih h)
          cases hkept with
          | same => exact htree
          | folder => exact fun _ => Tree.noConfusion
      | @link target hname hget h =>
          rcases hnames piece _ hget with ⟨found, hfound, hkept⟩
          cases hkept
          exact .link hname hfound h

end Extends

/-- A way is followed up to the first link, and from there on as the link tells. -/
inductive Follows (disk : Disk) : Nat → Location → List String → Arrival → Prop
  | arrived {links : Nat} {start location : Location} {way : List String}
      (h : disk.walk start way = .ok (.arrived location)) :
      Follows disk links start way ⟨location, links⟩
  | link {fewer : Nat} {start folder : Location} {way rest : List String} {target : String}
      {arrival : Arrival} (h : disk.walk start way = .ok (.link folder target rest))
      (hrest : Follows disk fewer (startIn folder target) (Path.pieces target ++ rest) arrival) :
      Follows disk (fewer + 1) start way arrival

theorem follow_eq_ok_iff {links : Nat} {way : List String} {arrival : Arrival} :
    disk.follow links start way = .ok arrival ↔ Follows disk links start way arrival := by
  constructor
  · intro h
    induction links generalizing start way with
    | zero =>
        unfold follow at h
        split at h
        · cases h
        · rename_i hwalk
          cases h
          exact .arrived hwalk
        · cases h
    | succ fewer ih =>
        unfold follow at h
        split at h
        · cases h
        · rename_i hwalk
          cases h
          exact .arrived hwalk
        · rename_i hwalk
          exact .link hwalk (ih h)
  · intro h
    induction h with
    | arrived hwalk =>
        unfold follow
        rw [hwalk]
    | link hwalk _ ih =>
        rw [follow, hwalk]
        exact ih

theorem Follows.extend {links : Nat} {way : List String} {arrival : Arrival}
    (h : Follows disk links start way arrival) (hextends : disk.Extends after) :
    Follows after links start way arrival := by
  induction h with
  | arrived hwalk => exact .arrived (walk_of_extends hextends hwalk)
  | link hwalk _ ih => exact .link (walk_of_extends hextends hwalk) ih

theorem Follows.append {links : Nat} {way more : List String} {arrival final : Arrival}
    (h : Follows disk links start way arrival)
    (hmore : Follows disk arrival.links arrival.location more final) :
    Follows disk links start (way ++ more) final := by
  induction h with
  | arrived hwalk =>
      cases hmore with
      | arrived hwalk' => exact .arrived (walk_append_eq_ok hwalk hwalk')
      | link hwalk' hrest => exact .link (walk_append_eq_ok hwalk hwalk') hrest
  | link hwalk _ ih =>
      apply Follows.link (walk_append_eq_ok hwalk rfl)
      rw [← List.append_assoc]
      exact ih hmore

/-!
## Where a file is written
-/

def Holds (disk : Disk) (location : Location) : Prop :=
  ∃ tree, disk.root.at? location = some tree ∧ ∀ target, tree ≠ .link target

/-- The folder and the name of a path: the folder is there, and the path leads to what stands
under the name as soon as something does. -/
structure Placed (disk : Disk) (links : Nat) (start : Location) (path : String)
    (inside : Location) (name : String) : Prop where
  spelled : path ≠ ""
  folder : ∃ entries, disk.root.at? inside = some (.folder entries)
  leads : ∀ after, disk.Extends after → after.Holds (inside ++ [name]) →
    ∃ left, Follows after links start (Path.pieces path) ⟨inside ++ [name], left⟩

theorem isName_of_lastName? {path name : String} {way : List String}
    (hlast : Path.lastName? path = some (way, name))
    (hname : ¬ (name == "." || name == ".." || path.toList.getLast? == some '/') = true)
    (hlong : ¬ maxNameBytes < name.utf8ByteSize) :
    path ≠ "" ∧ IsName name ∧ Path.pieces path = way ++ [name] := by
  simp only [Bool.or_eq_true, beq_iff_eq, not_or] at hname
  rcases Path.pieces_of_lastName? hlast hname.2 with ⟨hpath, hempty, hpieces⟩
  exact ⟨hpath, ⟨hempty, hname.1.1, hname.1.2, Nat.not_lt.mp hlong⟩, hpieces⟩

theorem Holds.walk {name : String} (h : disk.Holds (folder ++ [name]))
    (hfolder : disk.root.at? folder = some (.folder entries))
    (henter : disk.medium.refuses .enter folder = none) (hname : IsName name) :
    disk.walk folder [name] = .ok (.arrived (folder ++ [name])) := by
  rcases h with ⟨tree, htree, hlink⟩
  rw [Tree.at?_append_cons hfolder, Option.bind_eq_some_iff] at htree
  rcases htree with ⟨held, hget, hheld⟩
  rw [Tree.at?_nil] at hheld
  cases hheld
  exact walk_cons_eq_ok_iff.mpr ⟨entries, hfolder, henter, .name hname hget hlink rfl⟩

theorem placed_of_place {links : Nat} {path name : String}
    (h : disk.place links start path = .ok (folder, name)) :
    disk.Placed links start path folder name := by
  fun_induction disk.place links start path with
  | case7 links start path way last hlast inside entries hfolder henter hlastName hlong target hget
      fewer hway _ _ ih =>
      rcases isName_of_lastName? hlast hlastName hlong with ⟨hpath, hname, hpieces⟩
      have hplaced := ih h
      refine ⟨hpath, hplaced.folder, ?_⟩
      intro after hextends hholds
      rcases hplaced.leads after hextends hholds with ⟨left, hfollows⟩
      -- The last name is that of a link on the greater disk, too.
      have hwalk : disk.walk inside [last] = .ok (.link inside target []) :=
        walk_cons_eq_ok_iff.mpr ⟨entries, hfolder, henter, .link hname hget rfl⟩
      have hlink : Follows after (fewer + 1) inside [last] ⟨folder ++ [name], left⟩ := by
        apply Follows.link (walk_of_extends hextends hwalk)
        rw [List.append_nil]
        exact hfollows
      rw [hpieces]
      exact ⟨left, ((follow_eq_ok_iff.mp hway).extend hextends).append hlink⟩
  | case8 links start path way last hlast inside left hway entries hfolder henter hlastName hlong =>
      cases h
      rcases isName_of_lastName? hlast hlastName hlong with ⟨hpath, hname, hpieces⟩
      refine ⟨hpath, ⟨entries, hfolder⟩, ?_⟩
      intro after hextends hholds
      rcases hextends.get? hfolder with ⟨others, hothers, _⟩
      rw [← hextends.medium] at henter
      rw [hpieces]
      exact ⟨left, ((follow_eq_ok_iff.mp hway).extend hextends).append
        (.arrived (hholds.walk hothers henter hname))⟩
  | _ => cases h

/-!
## Opened files
-/

/-- One file may have been written: the one that was at a location before, or a new one. -/
structure Touches (disk after : Disk) (target : Location) (number : Nat) : Prop where
  held : after.numberAt? target = some number
  others : ∀ location, location ≠ target → after.numberAt? location = disk.numberAt? location
  contents : ∀ other, other ≠ number → after.contents other = disk.contents other
  origin : disk.numberAt? target = some number ∨
    disk.numberAt? target = none ∧ ∀ location, disk.numberAt? location ≠ some number

theorem touches_of_numberAt? {number : Nat} (h : disk.numberAt? location = some number) :
    disk.Touches disk location number :=
  ⟨h, fun _ _ => rfl, fun _ _ => rfl, Or.inl h⟩

theorem Touches.setContents {target : Location} {number : Nat}
    (h : disk.Touches after target number) (contents : Bytes) :
    disk.Touches (after.setContents number contents) target number := by
  refine ⟨h.held, h.others, ?_, h.origin⟩
  intro other hother
  exact (if_neg hother).trans (h.contents other hother)

theorem AddsFolders.touches {target : Location} {number : Nat} {ready : Disk}
    (h : disk.AddsFolders ready) (h' : ready.Touches after target number) :
    disk.Touches after target number := by
  refine ⟨h'.held, ?_, ?_, ?_⟩
  · intro location hlocation
    rw [h'.others location hlocation, h.files.numbers]
  · intro other hother
    rw [h'.contents other hother, h.files.contents]
  · simpa only [h.files.numbers] using h'.origin

section Put

variable {name : String} (hfolder : disk.root.at? folder = some (.folder entries))
  (hfree : Entries.get? entries name = none)

include hfolder hfree

/-- The number of a new file is above all others. -/
theorem put_file_touches :
    disk.Touches (disk.put (folder ++ [name]) (.file disk.root.bound)) (folder ++ [name])
      disk.root.bound := by
  refine ⟨?_, ?_, fun _ _ => rfl, Or.inr ⟨?_, ?_⟩⟩
  · exact numberAt?_eq_some_iff.mpr ((Tree.at?_put_inside hfolder []).trans (Tree.at?_nil _))
  · intro location hlocation
    by_cases hinside : ∃ rest, location = folder ++ name :: rest
    · rcases hinside with ⟨rest, rfl⟩
      cases rest with
      | nil => exact absurd rfl hlocation
      | cons step rest =>
          have hafter : (disk.put (folder ++ [name]) (.file disk.root.bound)).root.at?
              (folder ++ name :: step :: rest) = (Tree.file disk.root.bound).at? (step :: rest) :=
            Tree.at?_put_inside hfolder _
          rw [numberAt?, numberAt?, hafter, at?_under_free hfolder hfree]
          rfl
    · exact numberAt?_put_outside hfolder _ (not_exists.mp hinside)
  · rw [numberAt?, at?_under_free hfolder hfree]
    rfl
  · intro location hlocation
    exact Nat.lt_irrefl _ (Tree.lt_bound_of_at? (numberAt?_eq_some_iff.mp hlocation))

end Put

theorem setContents_extends (disk : Disk) (number : Nat) (contents : Bytes) :
    disk.Extends (disk.setContents number contents) :=
  ⟨rfl, rfl, fun _ _ h => h ▸ .same _⟩

theorem holds_of_numberAt? {number : Nat} (h : disk.numberAt? location = some number) :
    disk.Holds location :=
  ⟨_, numberAt?_eq_some_iff.mp h, fun _ => Tree.noConfusion⟩

theorem resolve_of_extends (hextends : disk.Extends after) {path : String}
    (h : disk.resolve path = .ok location) : after.resolve path = .ok location := by
  unfold resolve at h ⊢
  split at h
  · cases h
  · split at h
    · cases h
    · rename_i hpath
      have horigin : after.origin path = disk.origin path := by
        rw [origin, hextends.here, origin]
      rw [if_neg hpath, horigin]
      cases hfollow : disk.follow maxLinks (disk.origin path) (Path.pieces path) with
      | error e =>
          rw [hfollow] at h
          cases h
      | ok arrival =>
          rw [hfollow] at h
          rw [follow_eq_ok_iff.mpr ((follow_eq_ok_iff.mp hfollow).extend hextends)]
          exact h

theorem Placed.resolve {path name : String}
    (h : disk.Placed maxLinks (disk.origin path) path folder name)
    (hspoken : unspeakable? path = none) (hextends : disk.Extends after)
    (hholds : after.Holds (folder ++ [name])) : after.resolve path = .ok (folder ++ [name]) := by
  rcases h.leads after hextends hholds with ⟨left, hfollows⟩
  have horigin : after.origin path = disk.origin path := by
    rw [origin, hextends.here, origin]
  rw [Disk.resolve, hspoken]
  dsimp only
  rw [if_neg (by simpa using h.spelled), horigin, follow_eq_ok_iff.mpr hfollows]
  rfl

/-- What was opened to be written is there under its path, and nothing else was changed. -/
inductive Opened (disk : Disk) (path : String) (opened : Disk) : Handle → Prop
  | file {target : Location} {number : Nat} (hextends : disk.Extends opened)
      (hresolve : opened.resolve path = .ok target)
      (htouches : disk.Touches opened target number) :
      Opened disk path opened (.file target number)
  | device {target : Location} {supply : Except FileError Bytes} (h : opened = disk)
      (hresolve : disk.resolve path = .ok target)
      (hdevice : disk.root.at? target = some (.device supply)) :
      Opened disk path opened (.device target)

theorem opened_of_openNew {path : String} {opened : Disk} {handle : Handle}
    (h : disk.openNew path = .ok (opened, handle)) : Opened disk path opened handle := by
  unfold openNew at h
  split at h
  · cases h
  · rename_i hspoken
    split at h
    · cases h
    · rename_i folder name hplace
      have hplaced := placed_of_place hplace
      rcases hplaced.folder with ⟨entries, hfolder⟩
      dsimp only at h
      split at h
      · rename_i hnone
        split at h
        · cases h
        · cases h
          have hfree : Entries.get? entries name = none := by
            rw [Tree.at?_append_cons hfolder] at hnone
            cases hget : Entries.get? entries name with
            | none => rfl
            | some tree =>
                rw [hget, Option.bind_some, Tree.at?_nil] at hnone
                cases hnone
          have htouches := (put_file_touches hfolder hfree).setContents []
          have hextends := (put_extends hfolder hfree (.file disk.root.bound)).trans
            (setContents_extends _ disk.root.bound [])
          exact .file hextends (hplaced.resolve hspoken hextends (holds_of_numberAt? htouches.held))
            htouches
      · rename_i number hfile
        split at h
        · cases h
        · cases h
          have htouches :=
            (touches_of_numberAt? (numberAt?_eq_some_iff.mpr hfile)).setContents []
          have hextends := disk.setContents_extends number []
          exact .file hextends (hplaced.resolve hspoken hextends (holds_of_numberAt? htouches.held))
            htouches
      · rename_i supply hdevice
        split at h
        · cases h
        · cases h
          have hholds : disk.Holds (folder ++ [name]) :=
            ⟨_, hdevice, fun _ => Tree.noConfusion⟩
          exact .device rfl (hplaced.resolve hspoken (.refl disk) hholds) hdevice
      · cases h

/-!
## Written files
-/

/-- What an attempt to write a file can leave.  A file that was opened may be written in part
only, and a device keeps nothing. -/
inductive Leaves (disk : Disk) (path : String) (contents : Bytes) :
    Except (FileError × Disk) Disk → Prop
  | refused (e : FileError) : Leaves disk path contents (.error (e, disk))
  | stopped {after : Disk} {target : Location} {number : Nat} (e : FileError)
      (hstops : (disk.medium.stops target contents).isSome = true)
      (hresolve : after.resolve path = .ok target) (htouches : disk.Touches after target number) :
      Leaves disk path contents (.error (e, after))
  | device {target : Location} {supply : Except FileError Bytes}
      (hresolve : disk.resolve path = .ok target)
      (hdevice : disk.root.at? target = some (.device supply)) :
      Leaves disk path contents (.ok disk)
  | written {after : Disk} {target : Location} {number : Nat}
      (hresolve : after.resolve path = .ok target) (htouches : disk.Touches after target number)
      (hcontents : after.contents number = contents) : Leaves disk path contents (.ok after)

theorem leaves_write (disk : Disk) (path : String) (contents : Bytes) :
    Leaves disk path contents (disk.write path contents) := by
  rw [write]
  cases hopen : disk.openNew path with
  | error e => exact .refused e
  | ok result =>
      cases result with
      | mk opened handle =>
          dsimp only
          cases opened_of_openNew hopen with
          | @file target number hextends hresolve htouches =>
              have hresolve' : ∀ taken,
                  (opened.setContents number taken).resolve path = .ok target := fun taken =>
                resolve_of_extends (opened.setContents_extends number taken) hresolve
              rw [fill]
              split
              · rename_i taken e hstops
                rw [hextends.medium] at hstops
                exact .stopped e (by rw [hstops]; rfl) (hresolve' _) (htouches.setContents _)
              · exact .written (hresolve' _) (htouches.setContents _) (if_pos rfl)
          | device h hresolve hdevice =>
              rw [fill, h]
              split
              · exact .refused _
              · exact .device hresolve hdevice

end Disk
end ShapeCheck
