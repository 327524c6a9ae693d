import FieldInjection.CommandLine.Run
import FieldInjection.Proofs.Offers
import Mathlib.Data.List.Forall2

/-!
# What commands do to files

A run of the program ends in one of several ways, depending on the configuration, the file, the
field that is meant and the plan for it.  `check` and `apply` go through the same stations, so they
agree on whether the run succeeds; and the only station at which a file is written is the last one
of `apply`.

## Main Definitions

* `Target.fieldIn?`: the field that is meant in a text.
* `FileTree.SameExcept`: two trees that differ in one file at most.
* `Serves`: the condition under which `check` and `apply` succeed.
* `System.WritesReadable`: files that can be read can be written.

## Main Statements

* `FileTree.read_write`: a text that was written is read back.
* `runCheck_cases`, `runApply_of_serves`, `runApply_of_not_serves`, `runApply_of_writeFailure`: how
  the two commands end.
* `run_keeps_files_safe`: what a whole command line does to the files.
-/

namespace FieldInjection.CommandLine

/-! ## Trees of files -/

/-- Two trees that have the same files and directories, and the same contents but for the file at a
path. -/
structure FileTree.SameExcept (path : Text) (before after : FileTree) : Prop where
  /-- The directories are the same. -/
  directories : after.directories = before.directories
  /-- The files are the same, and at another path they hold the same. -/
  files : List.Forall₂ (fun old new => new.path = old.path ∧
    (pathSteps old.path ≠ pathSteps path → new.content = old.content)) before.files after.files

namespace FileTree

variable (tree : FileTree) (path : Text) (content : FileContent)

theorem SameExcept.refl : SameExcept path tree tree :=
  ⟨rfl, List.forall₂_same.mpr fun _ _ => ⟨rfl, fun _ => rfl⟩⟩

/-- What is put into a file is in no other one. -/
theorem sameExcept_put : SameExcept path tree (tree.put path content) := by
  refine ⟨rfl, ?_⟩
  rw [put, List.forall₂_map_right_iff]
  refine List.forall₂_same.mpr fun file _ => ?_
  by_cases hpath : pathSteps file.path = pathSteps path
  · rw [if_pos hpath]
    exact ⟨rfl, fun hne => absurd hpath hne⟩
  · rw [if_neg hpath]
    exact ⟨rfl, fun _ => rfl⟩

/-! ### The way to a file -/

/-- The way to a file does not depend on what the files hold. -/
theorem file?_put (steps : List Text) : (tree.put path content).file? steps =
    (tree.file? steps).map fun file =>
      if pathSteps file.path = pathSteps path then { file with content } else file := by
  rw [file?, put, List.find?_map]
  congr 2
  funext file
  rw [Function.comp_apply]
  split <;> rfl

theorem isDirectory_put (steps : List Text) :
    (tree.put path content).isDirectory steps = tree.isDirectory steps := by
  have hfile : ∀ file : File, (if pathSteps file.path = pathSteps path then { file with content }
      else file).path = file.path := fun file => by split <;> rfl
  simp only [isDirectory, put, List.any_map, Function.comp_def, hfile]

theorem walk_put (place steps : List Text) :
    (tree.put path content).walk place steps = tree.walk place steps := by
  induction steps generalizing place with
  | nil => rfl
  | cons step steps ih =>
    simp only [walk, isDirectory_put, file?_put, Option.isSome_map, ih]

/-- A walk ends at the place that its steps lead to. -/
theorem place_of_walk {place steps stop : List Text} (h : tree.walk place steps = .ok stop) :
    stop = steps.foldl pathStep place := by
  induction steps generalizing place with
  | nil => exact (Except.ok.inj h).symm
  | cons step steps ih =>
    rw [walk] at h
    split at h
    · exact ih h
    · split at h <;> simp at h

/-- A file is looked up on its way. -/
theorem lookup_eq_ok_iff {file : File} : tree.lookup path = .ok file ↔
    path ≠ [] ∧ tree.walk (pathStart path) (path.splitOn '/') = .ok (pathSteps path).reverse ∧
      tree.file? (pathSteps path) = some file := by
  rw [lookup]
  by_cases hempty : path.isEmpty = true
  · simp [List.isEmpty_iff.mp hempty]
  · rw [if_neg hempty]
    cases hwalk : tree.walk (pathStart path) (path.splitOn '/') with
    | error failure => simp
    | ok place =>
      have hplace : place.reverse = pathSteps path := by
        rw [place_of_walk tree hwalk, pathSteps]
      have hreverse : place = (pathSteps path).reverse := by
        rw [← hplace, List.reverse_reverse]
      simp only [hplace]
      cases hfile : tree.file? (pathSteps path) with
      | none => simp
      | some found =>
        have hne : path ≠ [] := by simpa using hempty
        simp [hreverse, hne]

/-- A text that was written to a file is read back from it. -/
theorem read_write {old : Text} (h : tree.read path = .ok old) (text : Text) :
    (tree.write path text).read path = .ok text := by
  rw [read] at h ⊢
  cases hlookup : tree.lookup path with
  | error failure => simp [hlookup, bind, Except.bind] at h
  | ok file =>
    obtain ⟨hne, hwalk, hfile⟩ := (lookup_eq_ok_iff tree path).mp hlookup
    have hpath : pathSteps file.path = pathSteps path := by
      simpa using List.find?_some hfile
    have hwritten : (tree.write path text).lookup path =
        .ok { file with content := .text text } := by
      refine (lookup_eq_ok_iff _ path).mpr ⟨hne, ?_, ?_⟩
      · rw [write, walk_put, hwalk]
      · rw [write, file?_put, hfile, Option.map_some, if_pos hpath]
    rw [hwritten]
    rfl

end FileTree

/-! ## The field that is meant -/

/-- The field that is meant in a text: the one that is named, else the one that the line
declares. -/
def Target.fieldIn? (target : Target) (text : Text) : Option Text :=
  target.field.or (target.line.bind fun line =>
    if line = 0 then none else fieldAtLine? text (line - 1))

/-- The file is read and the field is found in it, or the run fails and leaves the files alone. -/
theorem openTarget_cases (tree : FileTree) (path : Text) (target : Target) :
    (∃ text field, openTarget tree path target = .ok (text, field) ∧ tree.read path = .ok text ∧
        target.fieldIn? text = some field) ∨
      ∃ report, openTarget tree path target = .error report ∧ report.code = 1 ∧ report.tree = tree ∧
        ∀ text, tree.read path = .ok text → target.fieldIn? text = none := by
  rw [openTarget]
  cases hread : tree.read path with
  | error failure => exact Or.inr ⟨_, rfl, rfl, rfl, fun text h => by simp at h⟩
  | ok text =>
    cases hfield : target.field with
    | some field => exact Or.inl ⟨text, field, rfl, rfl, by rw [Target.fieldIn?, hfield]; rfl⟩
    | none =>
      have hmeant : ((target.line.bind fun line => if line = 0 then none else some (line - 1)).bind
          (fieldAtLine? text)) = target.fieldIn? text := by
        rw [Target.fieldIn?, hfield, Option.none_or, Option.bind_assoc]
        refine Option.bind_congr fun line _ => ?_
        split <;> rfl
      simp only [hmeant]
      cases hfound : target.fieldIn? text with
      | some field => exact Or.inl ⟨text, field, rfl, rfl, hfound⟩
      | none =>
        refine Or.inr ⟨_, rfl, rfl, rfl, fun other h => ?_⟩
        rwa [← Except.ok.inj h]

/-! ## The two commands -/

/-- A file can be read, a field is meant in it, and something can be done for the field. -/
def Serves (injector : Injector) (tree : FileTree) (path : Text) (target : Target)
    (text field : Text) : Prop :=
  tree.read path = .ok text ∧ target.fieldIn? text = some field ∧
    (injector.plan text field).isAvailable = true

section Commands

variable (injector : Injector) (level : LogLevel) (tree : FileTree) (path : Text) (target : Target)

/-- `check` succeeds where something can be done, and leaves the files alone. -/
theorem runCheck_cases :
    (runCheck injector tree path target).tree = tree ∧
      ((runCheck injector tree path target).code = 0 ↔
        ∃ text field, Serves injector tree path target text field) := by
  rw [runCheck]
  rcases openTarget_cases tree path target with ⟨text, field, hopen, hread, hfield⟩ |
    ⟨report, hopen, hcode, htree, hnone⟩
  · simp only [hopen]
    refine ⟨trivial, ?_⟩
    constructor
    · intro hcode
      refine ⟨text, field, hread, hfield, ?_⟩
      by_contra hplan
      rw [if_neg hplan] at hcode
      exact absurd hcode (by decide)
    · rintro ⟨other, name, hother, hname, hplan⟩
      obtain rfl := Except.ok.inj (hread.symm.trans hother)
      obtain rfl := Option.some.inj (hfield.symm.trans hname)
      rw [if_pos hplan]
  · simp only [hopen]
    refine ⟨htree, iff_of_false (by omega) ?_⟩
    rintro ⟨text, field, hread, hfield, -⟩
    rw [hnone text hread] at hfield
    exact absurd hfield (by simp)

/-- `scan` leaves the files alone. -/
theorem tree_runScan (json : Bool) : (runScan injector level tree path json).tree = tree := by
  rw [runScan]
  split
  · rfl
  · simp only
    split <;> rfl

variable (system : System) (write json : Bool)

/-- `apply` fails and leaves the files alone where nothing can be done. -/
theorem runApply_of_not_serves
    (h : ∀ text field, ¬ Serves injector tree path target text field) :
    (runApply system injector level tree path target write json).code = 1 ∧
      (runApply system injector level tree path target write json).tree = tree := by
  rw [runApply]
  rcases openTarget_cases tree path target with ⟨text, field, hopen, hread, hfield⟩ |
    ⟨report, hopen, hcode, htree, -⟩
  · have hplan : (injector.plan text field).isAvailable = false := by
      by_contra hplan
      exact h text field ⟨hread, hfield, by simpa using hplan⟩
    have hedit := @InjectAction.edit?_of_not_available ⟨injector⟩ text (some field) hplan
    have hrun := @InjectAction.run_of_edit?_eq_none OpenFile _ ⟨injector⟩
      (system.opened tree path text field write) hedit
    simp only [hopen, hrun]
    exact ⟨trivial, rfl⟩
  · simp only [hopen]
    exact ⟨hcode, htree⟩

/-- A transaction is written if that is asked for. -/
theorem commit_opened {write : Bool} (hwrites : write = true → system.writeFailure? path = none)
    (old field text : Text) : Editor.commit (system.opened tree path old field write) text =
      (.ok (), { system.opened tree path old field write with
        committed := some text
        tree := if write then tree.write path text else tree }) := by
  cases write with
  | false => rfl
  | true => simp [Editor.commit, OpenFile.commit, System.opened, hwrites rfl]

/-- A transaction that cannot be written says so, and leaves in the file what remains there. -/
theorem commit_opened_of_failure {failure : WriteFailure}
    (hfailure : system.writeFailure? path = some failure) (old field text : Text) :
    Editor.commit (system.opened tree path old field true) text =
      (.error failure.diagnostic, { system.opened tree path old field true with
        tree := (failure.remains.map (tree.put path)).getD tree }) := by
  simp [Editor.commit, OpenFile.commit, System.opened, hfailure]

section Serves

variable {text field : Text} (h : Serves injector tree path target text field)

include h

/-- The file is opened, and the run of the action decides. -/
theorem openTarget_of_serves : openTarget tree path target = .ok (text, field) := by
  obtain ⟨hread, hfield, -⟩ := h
  rcases openTarget_cases tree path target with ⟨other, name, hopen, hother, hname⟩ |
    ⟨report, -, -, -, hnone⟩
  · obtain rfl := Except.ok.inj (hread.symm.trans hother)
    obtain rfl := Option.some.inj (hfield.symm.trans hname)
    exact hopen
  · rw [hnone text hread] at hfield
    exact absurd hfield (by simp)

/-- `apply` succeeds where something can be done, unless the file has to be written and cannot; if
it is told to, it writes the text with the field injected. -/
theorem runApply_of_serves (hwrites : write = true → system.writeFailure? path = none) :
    (runApply system injector level tree path target write json).code = 0 ∧
      (runApply system injector level tree path target write json).tree =
        if write then tree.write path (injector.inject text field).text else tree := by
  obtain ⟨summary, hedit⟩ := @InjectAction.exists_edit?_of_plan ⟨injector⟩ text field h.2.2
  have hrun := @InjectAction.run_of_commit_eq_ok OpenFile _ ⟨injector⟩ _ _ _ hedit
    (commit_opened tree path system hwrites text field _)
  rw [runApply, openTarget_of_serves injector tree path target h]
  simp only [hrun]
  cases json <;> cases write <;> exact ⟨rfl, rfl⟩

/-- `apply` fails where the file has to be written and cannot. -/
theorem runApply_of_writeFailure {failure : WriteFailure}
    (hfailure : system.writeFailure? path = some failure) :
    (runApply system injector level tree path target true json).code = 1 ∧
      (runApply system injector level tree path target true json).tree =
        (failure.remains.map (tree.put path)).getD tree := by
  obtain ⟨summary, hedit⟩ := @InjectAction.exists_edit?_of_plan ⟨injector⟩ text field h.2.2
  have hrun := @InjectAction.run_of_commit_eq_error OpenFile _ ⟨injector⟩ _ _ _ _ hedit
    (commit_opened_of_failure tree path system hfailure text field _)
  rw [runApply, openTarget_of_serves injector tree path target h]
  simp only [hrun, and_self]

end Serves

end Commands

/-! ## Whole command lines -/

/-- Every file that can be read can be written. -/
def System.WritesReadable (system : System) (tree : FileTree) : Prop :=
  ∀ path text, tree.read path = .ok text → system.writeFailure? path = none

/-- The configuration of an invocation can be used, a field is meant in the file, and something can
be done for the field. -/
def System.ServesWith (system : System) (invocation : Invocation) (tree : FileTree) (path : Text)
    (target : Target) (config : Configuration) (text field : Text) : Prop :=
  loadConfiguration tree invocation.config = .ok config ∧
    Serves (system.injector config invocation) tree path target text field

/-- A configuration that cannot be used ends the run and leaves the files alone. -/
theorem tree_of_loadConfiguration_error {tree : FileTree} {path : Option Text} {report : Report}
    (h : loadConfiguration tree path = .error report) : report.code = 1 ∧ report.tree = tree := by
  cases path with
  | none => simp [loadConfiguration] at h
  | some path =>
    simp only [loadConfiguration] at h
    split at h
    · simp at h
    · obtain rfl := Except.error.inj h
      exact ⟨rfl, rfl⟩

theorem System.run_eq {system : System} {arguments : List Text} {invocation : Invocation}
    (h : system.readArguments arguments = .command invocation) (level : LogLevel)
    (tree : FileTree) :
    system.run arguments level tree = system.runInvocation invocation level tree := by
  rw [run, h]

section Invocations

variable (system : System) {invocation : Invocation} (level : LogLevel) (tree : FileTree)

/-- `check` succeeds where something can be done, and leaves the files alone. -/
theorem runInvocation_check {file : Text} {target : Target}
    (hcommand : invocation.command = .check file target) :
    (system.runInvocation invocation level tree).tree = tree ∧
      ((system.runInvocation invocation level tree).code = 0 ↔
        ∃ config text field, system.ServesWith invocation tree file target config text field) := by
  rw [System.runInvocation]
  cases hconfig : loadConfiguration tree invocation.config with
  | error report =>
    obtain ⟨hcode, htree⟩ := tree_of_loadConfiguration_error hconfig
    refine ⟨htree, iff_of_false (by simp only; omega) ?_⟩
    rintro ⟨config, text, field, hload, -⟩
    rw [hconfig] at hload
    exact absurd hload (by simp)
  | ok config =>
    obtain ⟨htree, hcode⟩ := runCheck_cases (system.injector config invocation) tree file target
    simp only [hcommand]
    refine ⟨htree, hcode.trans ⟨?_, ?_⟩⟩
    · rintro ⟨text, field, hserves⟩
      exact ⟨config, text, field, hconfig, hserves⟩
    · rintro ⟨other, text, field, hload, hserves⟩
      obtain rfl := Except.ok.inj (hconfig.symm.trans hload)
      exact ⟨text, field, hserves⟩

section Apply

variable {file : Text} {target : Target} {write json : Bool}
    (hcommand : invocation.command = .apply file target write json)

include hcommand

/-- `apply` fails and leaves the files alone where nothing can be done. -/
theorem runInvocation_apply_of_not_serves
    (h : ∀ config text field, ¬ system.ServesWith invocation tree file target config text field) :
    (system.runInvocation invocation level tree).code = 1 ∧
      (system.runInvocation invocation level tree).tree = tree := by
  rw [System.runInvocation]
  cases hconfig : loadConfiguration tree invocation.config with
  | error report => exact tree_of_loadConfiguration_error hconfig
  | ok config =>
    simp only [hcommand]
    exact runApply_of_not_serves _ level tree file target system write json
      fun text field hserves => h config text field ⟨hconfig, hserves⟩

section Serves

variable {config : Configuration} {text field : Text}
    (h : system.ServesWith invocation tree file target config text field)

include h

/-- `apply` succeeds where something can be done, unless the file has to be written and cannot. -/
theorem runInvocation_apply_of_serves (hwrites : write = true → system.writeFailure? file = none) :
    (system.runInvocation invocation level tree).code = 0 ∧
      (system.runInvocation invocation level tree).tree =
        if write then
          tree.write file ((system.injector config invocation).inject text field).text
        else tree := by
  rw [System.runInvocation, h.1]
  simp only [hcommand]
  exact runApply_of_serves _ level tree file target system write json h.2 hwrites

/-- `apply` fails where the file has to be written and cannot. -/
theorem tree_runInvocation_of_writeFailure {failure : WriteFailure} (hwrite : write = true)
    (hfailure : system.writeFailure? file = some failure) :
    (system.runInvocation invocation level tree).tree =
      (failure.remains.map (tree.put file)).getD tree := by
  rw [System.runInvocation, h.1]
  simp only [hcommand, hwrite]
  exact (runApply_of_writeFailure _ level tree file target system json h.2 hfailure).2

end Serves

/-- `apply` changes no file but the named one, also where a write fails. -/
theorem sameExcept_runInvocation :
    FileTree.SameExcept file tree (system.runInvocation invocation level tree).tree := by
  by_cases hserves : ∃ config text field,
      system.ServesWith invocation tree file target config text field
  · obtain ⟨config, text, field, hserves⟩ := hserves
    by_cases hwrites : write = true → system.writeFailure? file = none
    · rw [(runInvocation_apply_of_serves system level tree hcommand hserves hwrites).2]
      split
      · exact FileTree.sameExcept_put tree file _
      · exact FileTree.SameExcept.refl tree file
    · obtain ⟨hwrite, hfailure⟩ := Classical.not_imp.mp hwrites
      obtain ⟨failure, hsome⟩ := Option.ne_none_iff_exists'.mp hfailure
      rw [tree_runInvocation_of_writeFailure system level tree hcommand hserves hwrite hsome]
      cases failure.remains with
      | none => exact FileTree.SameExcept.refl tree file
      | some remains => exact FileTree.sameExcept_put tree file remains
  · rw [(runInvocation_apply_of_not_serves system level tree hcommand
      fun config text field h => hserves ⟨config, text, field, h⟩).2]
    exact FileTree.SameExcept.refl tree file

/-- Where files that can be read can be written, `apply` fails and leaves the files alone, or it
succeeds and, if it is told to, writes the text with the field injected. -/
theorem runInvocation_apply_cases (hwrites : system.WritesReadable tree) :
    (∃ config text field, system.ServesWith invocation tree file target config text field ∧
        (system.runInvocation invocation level tree).code = 0 ∧
        (system.runInvocation invocation level tree).tree =
          if write then
            tree.write file ((system.injector config invocation).inject text field).text
          else tree) ∨
      ((system.runInvocation invocation level tree).code = 1 ∧
        (system.runInvocation invocation level tree).tree = tree ∧
        ∀ config text field, ¬ system.ServesWith invocation tree file target
          config text field) := by
  by_cases hserves : ∃ config text field,
      system.ServesWith invocation tree file target config text field
  · obtain ⟨config, text, field, hserves⟩ := hserves
    exact Or.inl ⟨config, text, field, hserves, runInvocation_apply_of_serves system level tree
      hcommand hserves fun _ => hwrites file text hserves.2.1⟩
  · have hnone : ∀ config text field,
        ¬ system.ServesWith invocation tree file target config text field :=
      fun config text field h => hserves ⟨config, text, field, h⟩
    obtain ⟨hcode, htree⟩ := runInvocation_apply_of_not_serves system level tree hcommand hnone
    exact Or.inr ⟨hcode, htree, hnone⟩

end Apply

/-- `check` and `scan` leave the files alone, and so does `apply` unless it is told to write. -/
theorem tree_runInvocation_of_not_write
    (h : ∀ file target json, invocation.command ≠ .apply file target true json) :
    (system.runInvocation invocation level tree).tree = tree := by
  cases hcommand : invocation.command with
  | check file target => exact (runInvocation_check system level tree hcommand).1
  | scan path json =>
    rw [System.runInvocation]
    cases hconfig : loadConfiguration tree invocation.config with
    | error report => exact (tree_of_loadConfiguration_error hconfig).2
    | ok config =>
      simp only [hcommand]
      exact tree_runScan _ level tree path json
  | apply file target write json =>
    have hwrite : write ≠ true := fun hwrite => h file target json (hwrite ▸ hcommand)
    by_cases hserves : ∃ config text field,
        system.ServesWith invocation tree file target config text field
    · obtain ⟨config, text, field, hserves⟩ := hserves
      rw [(runInvocation_apply_of_serves system level tree hcommand hserves
        fun htrue => absurd htrue hwrite).2, if_neg hwrite]
    · exact (runInvocation_apply_of_not_serves system level tree hcommand
        fun config text field h => hserves ⟨config, text, field, h⟩).2

end Invocations

/-- What a command line does to the files.  `check`, `scan`, and `apply` without its option to write
leave all of them alone, and with it `apply` changes no file but the named one.  Where files that
can be read can be written, a run that fails leaves all files alone; `apply` with its option changes
the named file exactly when it succeeds, and then to another text, the one with the field injected;
and `apply` succeeds exactly when `check` with the same file, field, configuration and backend
does. -/
theorem run_keeps_files_safe (system : System) {arguments : List Text} {invocation : Invocation}
    (harguments : system.readArguments arguments = .command invocation) (level : LogLevel)
    (tree : FileTree) :
    ((∀ file target json, invocation.command ≠ .apply file target true json) →
      (system.run arguments level tree).tree = tree) ∧
    (∀ file target json, invocation.command = .apply file target true json →
      FileTree.SameExcept file tree (system.run arguments level tree).tree) ∧
    (system.WritesReadable tree →
      ((system.run arguments level tree).code ≠ 0 →
        (system.run arguments level tree).tree = tree) ∧
      (∀ file target json, invocation.command = .apply file target true json →
        ((system.run arguments level tree).code = 0 ↔
          (system.run arguments level tree).tree.read file ≠ tree.read file) ∧
        ((system.run arguments level tree).code = 0 →
          ∃ config old field, loadConfiguration tree invocation.config = .ok config ∧
            tree.read file = .ok old ∧ target.fieldIn? old = some field ∧
            (system.run arguments level tree).tree.read file =
              .ok ((system.injector config invocation).inject old field).text ∧
            ((system.injector config invocation).inject old field).text ≠ old)) ∧
      (∀ file target write json, invocation.command = .apply file target write json →
        ∀ others level', system.readArguments others =
            .command ⟨invocation.config, invocation.backend, .check file target⟩ →
          ((system.run arguments level tree).code = 0 ↔
            (system.run others level' tree).code = 0))) := by
  rw [System.run_eq harguments]
  refine ⟨tree_runInvocation_of_not_write system level tree, fun file target json hcommand =>
    sameExcept_runInvocation system level tree hcommand, fun hwrites => ⟨fun hcode => ?_,
    fun file target json hcommand => ?_,
    fun file target write json hcommand others level' hothers => ?_⟩⟩
  · by_cases hwrite : ∃ file target json, invocation.command = .apply file target true json
    · obtain ⟨file, target, json, hcommand⟩ := hwrite
      rcases runInvocation_apply_cases system level tree hcommand hwrites with
        ⟨_, _, _, _, hzero, _⟩ | ⟨-, htree, -⟩
      · exact absurd hzero hcode
      · exact htree
    · exact tree_runInvocation_of_not_write system level tree fun file target json hcommand =>
        hwrite ⟨file, target, json, hcommand⟩
  · rcases runInvocation_apply_cases system level tree hcommand hwrites with
      ⟨config, text, field, ⟨hconfig, hread, hfield, hplan⟩, hcode, htree⟩ | ⟨hcode, htree, -⟩
    · rw [if_pos rfl] at htree
      have hchanged := Injector.isAvailable_plan_iff_text_ne.mp hplan
      have hafter := FileTree.read_write tree file hread
        ((system.injector config invocation).inject text field).text
      rw [htree, hcode]
      refine ⟨iff_of_true rfl ?_, fun _ =>
        ⟨config, text, field, hconfig, hread, hfield, hafter, hchanged⟩⟩
      rw [hafter, hread]
      exact fun heq => hchanged (Except.ok.inj heq)
    · rw [htree, hcode]
      exact ⟨iff_of_false (by decide) (fun h => h rfl), fun h => absurd h (by decide)⟩
  · rw [System.run_eq hothers, (runInvocation_check system level' tree rfl).2]
    rcases runInvocation_apply_cases system level tree hcommand hwrites with
      ⟨config, text, field, hserves, hcode, -⟩ | ⟨hcode, -, hnone⟩
    · exact iff_of_true hcode ⟨config, text, field, hserves⟩
    · refine iff_of_false (by omega) ?_
      rintro ⟨config, text, field, hserves⟩
      exact hnone config text field hserves

/-- A class that can be injected, and a file next to it that is no text. -/
def sampleTree : FileTree :=
  ⟨[⟨"src/A.cs".toList, .text "class A : MonoBehaviour \x7b\nprivate IFoo _foo;\n\x7d".toList⟩,
    ⟨"src/b.cs".toList, .bytes [255]⟩], []⟩

/-- The command line that injects the field on the second line of the class. -/
def sampleArguments : List Text :=
  ["apply".toList, "./src/A.cs".toList, "--line=2".toList, "--write".toList]

theorem sampleTree_kept_safe :
    System.standard.readArguments sampleArguments =
        .command ⟨none, .text, .apply "./src/A.cs".toList ⟨none, some 2⟩ true false⟩ ∧
      System.standard.WritesReadable sampleTree ∧
      (System.standard.run sampleArguments .warn sampleTree).code = 0 ∧
      FileTree.SameExcept "./src/A.cs".toList sampleTree
        (System.standard.run sampleArguments .warn sampleTree).tree ∧
      (System.standard.run sampleArguments .warn sampleTree).tree.read "./src/A.cs".toList ≠
        sampleTree.read "./src/A.cs".toList := by
  have harguments : System.standard.readArguments sampleArguments =
      .command ⟨none, .text, .apply "./src/A.cs".toList ⟨none, some 2⟩ true false⟩ := by
    decide +kernel
  have hwrites : System.standard.WritesReadable sampleTree := fun _ _ _ => rfl
  have hcode : (System.standard.run sampleArguments .warn sampleTree).code = 0 := by decide +kernel
  obtain ⟨-, hsame, hafter⟩ := run_keeps_files_safe System.standard harguments .warn sampleTree
  obtain ⟨-, happly, -⟩ := hafter hwrites
  exact ⟨harguments, hwrites, hcode, hsame _ _ _ rfl, (happly _ _ _ rfl).1.mp hcode⟩

end FieldInjection.CommandLine
