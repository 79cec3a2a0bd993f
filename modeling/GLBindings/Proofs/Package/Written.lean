/-
# What generating has written

What a step is for can be seen in the tree: its folder is there, or its file with its text
(`Step.Holds`).  Steps that all succeed leave everything else as it was (`gains_takeSteps`), and of
steps that write to different places each one holds in the end (`holds_of_takeSteps`).  In a
specification that can be placed no two files share a place, so in the end every file is there with
its text (`read_of_generate`).  Steps that hold already succeed and change nothing
(`takeSteps_of_holds`).
-/
import GLBindings.Proofs.Package.Placing

namespace GLBindings.Bindings

open Files (Path Tree Location target_child)
open Files.Tree (Alike Gains Keeps)

set_option autoImplicit false

/-! ## Steps -/

def places (steps : List Step) : List Location := (writtenPaths steps).map (·.target)

/-- The folder of the step is there, or its file with its text. -/
def Step.Holds (tree : Tree) : Step → Prop
  | .folder path => tree.hasFolder path = true
  | .file path text => ∃ written, text = .ok written ∧ tree.read path = .ok written.toUTF8.toList

/-- A step that succeeds makes folders, writes its file, and changes nothing else. -/
theorem gains_take {tree next : Tree} {step : Step} (taken : step.take tree = (next, none)) :
    tree.Gains next (places [step]) := by
  cases step with
  | folder path =>
      have gains := Files.Tree.gains_ensureFolders tree path
      have made : (tree.ensureFolders path).1 = next := congrArg Prod.fst taken
      rwa [made] at gains
  | file path text =>
      cases text with
      | error failure => cases taken
      | ok text =>
          rw [Step.take] at taken
          split at taken
          · rename_i written writes
            cases taken
            exact Files.Tree.gains_write writes
          · cases taken

/-- The first step has been taken when all have. -/
theorem exists_take {tree last : Tree} {step : Step} {rest : List Step}
    (taken : takeSteps tree (step :: rest) = (last, none)) :
    ∃ next, step.take tree = (next, none) ∧ takeSteps next rest = (last, none) := by
  rw [takeSteps] at taken
  split at taken
  · rename_i next first
    exact ⟨next, first, taken⟩
  · cases taken

/-- Steps leave everything as it was but for the folders that they make and the files that they
write. -/
theorem gains_takeSteps {tree last : Tree} {steps : List Step}
    (taken : takeSteps tree steps = (last, none)) : tree.Gains last (places steps) := by
  induction steps generalizing tree with
  | nil =>
      cases taken
      exact Gains.refl _ _
  | cons step rest ih =>
      obtain ⟨next, first, others⟩ := exists_take taken
      have gains := (gains_take first).trans (ih others)
      rwa [places, places, ← List.map_append, writtenPaths, writtenPaths,
        ← List.filterMap_append] at gains

/-! ## What holds -/

/-- What holds still does when files are written elsewhere. -/
theorem Step.Holds.keep {tree tree' : Tree} {step : Step} {written : List Location}
    (holds : step.Holds tree) (keeps : tree.Keeps tree' written)
    (apart : ∀ location ∈ places [step], location ∉ written) : step.Holds tree' := by
  cases step with
  | folder path => exact keeps.hasFolder holds
  | file path text =>
      obtain ⟨text, rfl, reads⟩ := holds
      exact ⟨text, rfl, keeps.read reads (apart _ (List.mem_singleton_self _))⟩

/-- A step that succeeds holds. -/
theorem holds_of_take {tree next : Tree} {step : Step} (taken : step.take tree = (next, none)) :
    step.Holds next := by
  cases step with
  | folder path =>
      rw [Step.take] at taken
      obtain ⟨made, noFailure⟩ := Prod.mk.inj taken
      have ensures : tree.ensureFolders path = (next, none) :=
        Prod.ext made (Option.map_eq_none_iff.1 noFailure)
      exact Files.Tree.hasFolder_of_ensureFolders ensures
  | file path text =>
      cases text with
      | error failure => cases taken
      | ok text =>
          rw [Step.take] at taken
          split at taken
          · rename_i written writes
            cases taken
            exact ⟨text, rfl, Files.Tree.read_of_write writes⟩
          · cases taken

/-- Of steps that write to different places each holds in the end. -/
theorem holds_of_takeSteps {tree last : Tree} {steps : List Step}
    (taken : takeSteps tree steps = (last, none)) (apart : (places steps).Nodup) :
    ∀ step ∈ steps, step.Holds last := by
  induction steps generalizing tree with
  | nil => simp
  | cons step rest ih =>
      obtain ⟨next, first, others⟩ := exists_take taken
      have split : places (step :: rest) = places [step] ++ places rest := by
        rw [places, places, places, ← List.map_append, writtenPaths, writtenPaths, writtenPaths,
          ← List.filterMap_append]
        rfl
      rw [split, List.nodup_append'] at apart
      obtain ⟨-, later, disjoint⟩ := apart
      intro step' member
      rcases List.mem_cons.1 member with rfl | member
      · exact (holds_of_take first).keep (gains_takeSteps others).keeps disjoint
      · exact ih others later step' member

/-- A step that holds succeeds, and changes nothing. -/
theorem take_of_holds {tree : Tree} {step : Step} (holds : step.Holds tree) :
    ∃ next, step.take tree = (next, none) ∧ tree.Alike next := by
  cases step with
  | folder path =>
      refine ⟨tree, ?_, Alike.refl tree⟩
      rw [Step.take, Files.Tree.ensureFolders_of_hasFolder holds]
      rfl
  | file path text =>
      obtain ⟨text, rfl, reads⟩ := holds
      obtain ⟨written, writes, alike⟩ := Files.Tree.exists_write_of_read reads
      refine ⟨written, ?_, alike⟩
      rw [Step.take, writes]

/-- Steps that hold succeed, and change nothing. -/
theorem takeSteps_of_holds {tree : Tree} {steps : List Step}
    (holds : ∀ step ∈ steps, step.Holds tree) :
    ∃ last, takeSteps tree steps = (last, none) ∧ tree.Alike last := by
  induction steps generalizing tree with
  | nil => exact ⟨tree, rfl, Alike.refl tree⟩
  | cons step rest ih =>
      obtain ⟨next, first, alike⟩ := take_of_holds (holds step List.mem_cons_self)
      have later : ∀ step ∈ rest, step.Holds next := fun step member =>
        (holds step (List.mem_cons_of_mem _ member)).keep alike.keeps fun _ _ => List.not_mem_nil
      obtain ⟨last, others, alike'⟩ := ih later
      refine ⟨last, ?_, alike.trans alike'⟩
      rw [takeSteps, first]
      exact others

/-! ## Files of packages -/

namespace Generator

theorem target_moduleFile {g : Generator} (named : g.spec.Named) (output : Path)
    {family name : String} (hfamily : family ∈ g.spec.families) (hname : name ∈ g.modules family) :
    (moduleFile output family name).target =
      output.target ++ [Text.lower family, name ++ ".py"] := by
  rw [moduleFile, target_child (isName_module named hname), packageFolder,
    target_child (isName_folder named hfamily), List.append_assoc]
  rfl

theorem mem_writtenPaths_iff {g : Generator} {output path : Path} :
    path ∈ writtenPaths (g.steps output) ↔ ∃ family ∈ g.spec.families,
      ∃ name ∈ g.modules family, moduleFile output family name = path := by
  simp only [writtenPaths_steps, List.mem_flatMap, List.mem_map]

/-- No two files of a placeable specification go to one place. -/
theorem nodup_places {g : Generator} (placeable : g.spec.Placeable) (output : Path) :
    (places (g.steps output)).Nodup := by
  refine List.Nodup.map_on ?_ (nodup_writtenPaths placeable output)
  intro path member path' member' same
  obtain ⟨family, hfamily, name, hname, rfl⟩ := mem_writtenPaths_iff.1 member
  obtain ⟨other, hother, name', hname', rfl⟩ := mem_writtenPaths_iff.1 member'
  have named := placeable.toNamed
  rw [target_moduleFile named output hfamily hname, target_moduleFile named output hother hname',
    List.append_cancel_left_eq, List.cons.injEq, List.cons.injEq, String.append_left_inj] at same
  exact (moduleFile_inj named output hfamily hother hname hname').2 ⟨same.1, same.2.1⟩

def versionFile (output : Path) (v : Version) : Path :=
  moduleFile output v.family (moduleName v.name)

theorem table_mem_fileSteps {g : Generator} (shared : g.settings.storage = .shared) (output : Path)
    (family : String) :
    .file (moduleFile output family "interop")
        (.ok (g.interopModule family (interopCommands g.spec.versions family))) ∈
      g.fileSteps (packageFolder output family) family := by
  rw [fileSteps, List.mem_append, List.mem_append]
  left; left
  rw [if_pos shared]
  exact List.mem_singleton_self _

theorem version_mem_fileSteps {g : Generator} (output : Path) {v : Version}
    (member : v ∈ g.spec.versions) :
    .file (versionFile output v) (g.versionModule v) ∈
      g.fileSteps (packageFolder output v.family) v.family := by
  rw [fileSteps, List.mem_append, List.mem_append]
  left; right
  exact List.mem_map.2 ⟨v, mem_versionsIn_iff.2 ⟨member, rfl⟩, rfl⟩

theorem package_mem_fileSteps (g : Generator) (output : Path) (family : String) :
    .file (moduleFile output family "__init__")
        (.ok (g.packageModule family (versionsIn g.spec.versions family))) ∈
      g.fileSteps (packageFolder output family) family := by
  rw [fileSteps, List.mem_append, List.mem_append]
  right
  exact List.mem_singleton_self _

/-- Where a specification can be placed, each file is there in the end. -/
theorem read_of_generate {g : Generator} (placeable : g.spec.Placeable) {tree last : Tree}
    {output : Path} (generates : takeSteps tree (g.steps output) = (last, none)) {family : String}
    (member : family ∈ g.spec.families) {path : Path} {text : Except LiteralError String}
    (step : .file path text ∈ g.fileSteps (packageFolder output family) family) :
    ∃ written, text = .ok written ∧ last.read path = .ok written.toUTF8.toList := by
  refine holds_of_takeSteps generates (nodup_places placeable output) (.file path text) ?_
  rw [steps, List.mem_flatMap]
  exact ⟨family, member, List.mem_cons_of_mem _ step⟩

end Generator

end GLBindings.Bindings
