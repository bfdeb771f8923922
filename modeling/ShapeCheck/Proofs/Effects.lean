import ShapeCheck.Command.Program
import ShapeCheck.Proofs.FileWriting

/-!
# Commands are all or nothing

A command that fails has printed nothing and left all files as they were, wherever it
failed.  Checking and printing write nothing, and compiling either prints its text or
writes it to one file.  The only way to fail half-way is that this file stops to take bytes
after it was opened.
-/

namespace ShapeCheck

/-- Whatever is written to an opened file is taken. -/
def Medium.TakesAll (medium : Medium) : Prop :=
  ∀ location contents, medium.stops location contents = none

namespace Disk

/-- What a path leads to was given some contents, and no other file was touched.  A device
keeps nothing of them. -/
inductive OnlyWrites (disk after : Disk) (path : String) (contents : Bytes) : Prop
  | file {target : Location} {number : Nat} (hresolve : after.resolve path = .ok target)
      (htouches : disk.Touches after target number)
      (hcontents : after.contents number = contents)
  | device {target : Location} {supply : Except FileError Bytes}
      (hresolve : after.resolve path = .ok target)
      (hdevice : after.root.at? target = some (.device supply)) (hfiles : disk.SameFiles after)

/-- The file that a path leads to stopped to take bytes, and no other file was touched. -/
def BreaksOff (disk after : Disk) (path : String) (contents : Bytes) : Prop :=
  ∃ target number, (disk.medium.stops target contents).isSome = true ∧
    after.resolve path = .ok target ∧ disk.Touches after target number

end Disk

namespace Command

/-!
## What each command can leave
-/

/-- Folders that were made stay when the file cannot be written. -/
theorem writeOutput_cases (disk : Disk) (path text : String) :
    (∃ e after, writeOutput disk path text = .failed after e ∧
      (disk.SameFiles after ∨ disk.BreaksOff after path (Utf8.encode text))) ∨
    ∃ after, writeOutput disk path text = ⟨.ok 0, "", after⟩ ∧
      disk.OnlyWrites after path (Utf8.encode text) := by
  have hfolders := disk.makeFolders_addsFolders ((Path.parent? path).getD "")
  unfold writeOutput
  dsimp only
  split
  · rename_i e left hmade
    rw [hmade] at hfolders
    exact Or.inl ⟨_, left, rfl, Or.inl hfolders.files⟩
  · rename_i ready hmade
    rw [hmade] at hfolders
    have hleaves := ready.leaves_write path (Utf8.encode text)
    generalize ready.write path (Utf8.encode text) = written at hleaves ⊢
    cases hleaves with
    | refused e => exact Or.inl ⟨_, ready, rfl, Or.inl hfolders.files⟩
    | @stopped after target number e hstops hresolve htouches =>
        have hmedium : ready.medium = disk.medium := hfolders.extension.medium
        rw [hmedium] at hstops
        exact Or.inl ⟨_, after, rfl,
          Or.inr ⟨target, number, hstops, hresolve, hfolders.touches htouches⟩⟩
    | device hresolve hdevice =>
        exact Or.inr ⟨ready, rfl, .device hresolve hdevice hfolders.files⟩
    | written hresolve htouches hcontents =>
        exact Or.inr ⟨_, rfl, .file hresolve (hfolders.touches htouches) hcontents⟩

theorem runCompile_cases (disk : Disk) (options : CompileOptions) :
    (∃ e after, runCompile disk options = .failed after e ∧
      (disk.SameFiles after ∨ ∃ path text, options.out = some path ∧
        disk.BreaksOff after path (Utf8.encode text))) ∨
    ∃ m text, loadManifest disk options.manifest = .ok m ∧
      compiledText options.format options.maxDepth m = .ok text ∧
      (options.out = none ∧ runCompile disk options = .printed disk 0 (text ++ "\n") ∨
        ∃ path after, options.out = some path ∧ runCompile disk options = ⟨.ok 0, "", after⟩ ∧
          disk.OnlyWrites after path (Utf8.encode text)) := by
  unfold runCompile
  split
  · exact Or.inl ⟨_, disk, rfl, Or.inl (.refl disk)⟩
  · rename_i m hm
    split
    · exact Or.inl ⟨_, disk, rfl, Or.inl (.refl disk)⟩
    · rename_i text htext
      split
      · rename_i hout
        exact Or.inr ⟨m, text, hm, htext, Or.inl ⟨hout, rfl⟩⟩
      · rename_i path hout
        rcases writeOutput_cases disk path text with
          ⟨e, after, hfailed, hfiles | hbroken⟩ | ⟨after, hwritten⟩
        · exact Or.inl ⟨e, after, hfailed, Or.inl hfiles⟩
        · exact Or.inl ⟨e, after, hfailed, Or.inr ⟨path, text, hout, hbroken⟩⟩
        · exact Or.inr ⟨m, text, hm, htext, Or.inr ⟨path, after, hout, hwritten⟩⟩

theorem runCheck_cases (tools : Tools) (color : Bool) (disk : Disk) (options : CheckOptions) :
    (∃ e, runCheck tools color disk options = .failed disk e) ∨
      ∃ code output, runCheck tools color disk options = .printed disk code output := by
  unfold runCheck
  split
  · exact Or.inl ⟨_, rfl⟩
  · split
    · exact Or.inl ⟨_, rfl⟩
    · split
      · exact Or.inl ⟨_, rfl⟩
      · exact Or.inl ⟨_, rfl⟩
      · exact Or.inr ⟨_, _, rfl⟩

theorem runPrint_cases (disk : Disk) (options : PrintOptions) :
    (∃ e, runPrint disk options = .failed disk e) ∨
      ∃ output, runPrint disk options = .printed disk 0 output := by
  unfold runPrint
  split
  · exact Or.inl ⟨_, rfl⟩
  · split
    · exact Or.inl ⟨_, rfl⟩
    · split
      · exact Or.inl ⟨_, rfl⟩
      · exact Or.inr ⟨_, rfl⟩

/-!
## Every command
-/

section Commands

variable (tools : Tools) (color : Bool) (disk : Disk)

theorem run_failed (command : Command) {e : Failure}
    (h : (command.run tools color disk).result = .error e) :
    (command.run tools color disk).output = "" ∧
      (disk.SameFiles (command.run tools color disk).disk ∨
        ∃ options path text, command = .compile options ∧ options.out = some path ∧
          disk.BreaksOff (command.run tools color disk).disk path (Utf8.encode text)) := by
  cases command with
  | compile options =>
      rcases runCompile_cases disk options with
        ⟨e, after, hrun, hleft⟩ | ⟨m, text, -, -, ⟨-, hrun⟩ | ⟨path, after, -, hrun, -⟩⟩
      · rw [run, hrun]
        refine ⟨rfl, ?_⟩
        rcases hleft with hfiles | ⟨path, text, hout, hbroken⟩
        · exact Or.inl hfiles
        · exact Or.inr ⟨options, path, text, rfl, hout, hbroken⟩
      · rw [run, hrun] at h
        cases h
      · rw [run, hrun] at h
        cases h
  | check options =>
      rcases runCheck_cases tools color disk options with ⟨e, hrun⟩ | ⟨code, output, hrun⟩
      · rw [run, hrun]
        exact ⟨rfl, Or.inl (.refl disk)⟩
      · rw [run, hrun] at h
        cases h
  | print options =>
      rcases runPrint_cases disk options with ⟨e, hrun⟩ | ⟨output, hrun⟩
      · rw [run, hrun]
        exact ⟨rfl, Or.inl (.refl disk)⟩
      · rw [run, hrun] at h
        cases h

theorem program_eq_run {words : List String} {command : Command}
    (hwords : ofWords words = .ok command) :
    (program tools color words disk).output = (command.run tools color disk).output ∧
      (program tools color words disk).disk = (command.run tools color disk).disk := by
  rw [program, hwords]
  dsimp only
  split
  · exact ⟨rfl, rfl⟩
  · exact ⟨rfl, rfl⟩

theorem run_check_disk (options : CheckOptions) :
    (run tools color disk (.check options)).disk = disk := by
  rcases runCheck_cases tools color disk options with ⟨e, hrun⟩ | ⟨code, output, hrun⟩
  · rw [run, hrun]
    rfl
  · rw [run, hrun]
    rfl

theorem run_print_disk (options : PrintOptions) :
    (run tools color disk (.print options)).disk = disk := by
  rcases runPrint_cases disk options with ⟨e, hrun⟩ | ⟨output, hrun⟩
  · rw [run, hrun]
    rfl
  · rw [run, hrun]
    rfl

theorem run_compile_done (options : CompileOptions) {code : Nat}
    (h : (run tools color disk (.compile options)).result = .ok code) :
    ∃ m text, loadManifest disk options.manifest = .ok m ∧
      compiledText options.format options.maxDepth m = .ok text ∧
      (options.out = none →
        (run tools color disk (.compile options)).output = text ++ "\n" ∧
          (run tools color disk (.compile options)).disk = disk) ∧
      ∀ path, options.out = some path →
        (run tools color disk (.compile options)).output = "" ∧
          disk.OnlyWrites (run tools color disk (.compile options)).disk path
            (Utf8.encode text) := by
  rw [run] at h ⊢
  rcases runCompile_cases disk options with
    ⟨e, after, hrun, -⟩ | ⟨m, text, hm, htext, ⟨hout, hrun⟩ | ⟨path, after, hout, hrun, honly⟩⟩
  · rw [hrun] at h
    cases h
  · refine ⟨m, text, hm, htext, fun _ => ?_, ?_⟩
    · rw [hrun]
      exact ⟨rfl, rfl⟩
    · intro path hpath
      rw [hout] at hpath
      cases hpath
  · refine ⟨m, text, hm, htext, ?_, ?_⟩
    · intro hnone
      rw [hout] at hnone
      cases hnone
    · intro other hother
      cases hout.symm.trans hother
      rw [hrun]
      exact ⟨rfl, honly⟩

end Commands

end Command
end ShapeCheck
