/-
# Where generating stops

The one thing that keeps a file from being rendered is a constant with more digits than can be
read, and only the module of its version is not rendered then (`versionModule_eq_error_iff`).  As
each file is rendered before it is written, generating stops between two files: those that come
before the module are all there, and from it on nothing has been touched (`stops_at_unreadable`).

Families are written one after the other, so the module at which generating stops is the first one
in the order of the files (`Generator.files`), and need not be that of the first version of the
specification.
-/
import GLBindings.Proofs.Bindings.Layout
import GLBindings.Proofs.Bindings.Widths
import GLBindings.Proofs.Package.Generated

namespace GLBindings

open Bindings (Failure Generator IsOverlong LiteralError Step moduleName places takeSteps
  writtenPaths)
open Bindings.Generator (moduleFile packageFolder versionFile)
open Files (Path Tree)

set_option autoImplicit false

/-! ## What cannot be rendered -/

/-- A constant of the version has more digits than can be read. -/
def Version.Unreadable (v : Version) : Prop := ∃ c ∈ v.constants, IsOverlong c.value.toList

namespace Bindings

/-- Nothing but too many digits keeps a constant from being defined. -/
theorem constantLine_eq_error_iff {c : Constant} {error : LiteralError} :
    constantLine c = .error error ↔ IsOverlong c.value.toList := by
  rw [constantLine, bind_eq_error_iff, literalWidth_eq_error_iff, or_iff_left]
  rintro ⟨_, -, impossible⟩
  cases impossible

theorem constantLines_eq_error_iff {constants : List Constant} {error : LiteralError} :
    constantLines constants = .error error ↔ ∃ c ∈ constants, IsOverlong c.value.toList := by
  have each : constantLines constants = .error error ↔
      constants.mapM constantLine = .error error := by
    rw [constantLines.eq_def]
    split
    · exact iff_of_false (by simp) (by simp [pure, Except.pure])
    · rw [bind_eq_error_iff, or_iff_left]
      rintro ⟨_, -, impossible⟩
      cases impossible
  rw [each]
  constructor
  · intro fails
    obtain ⟨before, c, after, rfl, -, refused⟩ := mapM_eq_error_iff.1 fails
    exact ⟨c, by simp, constantLine_eq_error_iff.1 refused⟩
  · rintro ⟨c, member, overlong⟩
    cases outcome : constants.mapM constantLine with
    | error found =>
        cases found
        cases error
        rfl
    | ok lines =>
        obtain ⟨i, inside, rfl⟩ := List.mem_iff_getElem.1 member
        obtain ⟨line, -, defines⟩ :=
          exists_getElem?_of_forall₂ (mapM_eq_ok_iff.1 outcome) (List.getElem?_eq_getElem inside)
        have refused : constantLine constants[i] = .error error :=
          constantLine_eq_error_iff.2 overlong
        cases refused.symm.trans defines

/-- A module cannot be rendered when its version has a constant that cannot be read. -/
theorem Generator.versionModule_eq_error_iff {g : Generator} {v : Version} {error : LiteralError} :
    g.versionModule v = .error error ↔ v.Unreadable := by
  rw [versionModule, map_eq_error_iff, versionLines, bind_eq_error_iff, constantLines_eq_error_iff,
    or_iff_left]
  · rfl
  · rintro ⟨_, -, impossible⟩
    cases impossible

/-! ## Steps that fail -/

/-- Once the first steps have succeeded the rest go on from there. -/
theorem takeSteps_append {tree next : Tree} {done rest : List Step}
    (taken : takeSteps tree done = (next, none)) :
    takeSteps tree (done ++ rest) = takeSteps next rest := by
  induction done generalizing tree with
  | nil =>
      cases taken
      rfl
  | cons step done ih =>
      obtain ⟨first, takes, others⟩ := exists_take taken
      rw [List.cons_append, takeSteps, takes]
      exact ih others

/-- Steps that fail do so at one of them, when those before it have been taken. -/
theorem exists_stop {tree last : Tree} {steps : List Step} {failure : Failure}
    (fails : takeSteps tree steps = (last, some failure)) :
    ∃ done step rest next, steps = done ++ step :: rest ∧ takeSteps tree done = (next, none) ∧
      step.take next = (last, some failure) := by
  induction steps generalizing tree with
  | nil => cases fails
  | cons step steps ih =>
      rw [takeSteps] at fails
      split at fails
      · rename_i next first
        obtain ⟨done, stop, rest, later, rfl, taken, stops⟩ := ih fails
        refine ⟨step :: done, stop, rest, later, rfl, ?_, stops⟩
        rw [takeSteps, first]
        exact taken
      · rename_i first
        cases fails
        exact ⟨[], step, steps, tree, rfl, rfl, first⟩

/-- A step that fails for its text has not touched anything. -/
theorem eq_of_take_literal {tree last : Tree} {step : Step} {error : LiteralError}
    (fails : step.take tree = (last, some (.literal error))) :
    last = tree ∧ ∃ path, step = .file path (.error error) := by
  cases step with
  | folder path =>
      obtain ⟨-, failure⟩ := Prod.mk.inj fails
      obtain ⟨_, -, impossible⟩ := Option.map_eq_some_iff.1 failure
      cases impossible
  | file path text =>
      cases text with
      | error found =>
          cases fails
          exact ⟨rfl, path, rfl⟩
      | ok text =>
          rw [Step.take] at fails
          split at fails <;> cases fails

/-- Of steps that write to different paths each path has one text. -/
theorem text_unique {steps : List Step} (distinct : (writtenPaths steps).Nodup) {path : Path}
    {text other : Except LiteralError String} (writes : .file path text ∈ steps)
    (again : .file path other ∈ steps) : text = other := by
  have member : ∀ {text steps}, Step.file path text ∈ steps → path ∈ writtenPaths steps :=
    fun inside => List.mem_filterMap.2 ⟨_, inside, rfl⟩
  induction steps with
  | nil => cases writes
  | cons step steps ih =>
      cases step with
      | folder folder =>
          rw [List.mem_cons, or_iff_right (by simp)] at writes again
          exact ih distinct writes again
      | file first content =>
          obtain ⟨fresh, distinct⟩ := List.nodup_cons.1 distinct
          rcases List.mem_cons.1 writes with here | later
          · cases here
            rcases List.mem_cons.1 again with here' | later'
            · cases here'
              rfl
            · -- Another file with this path would be written a second time.
              exact absurd (member later') fresh
          · rcases List.mem_cons.1 again with here' | later'
            · cases here'
              exact absurd (member later) fresh
            · exact ih distinct later later'

/-- Only the module of a version is ever refused. -/
theorem Generator.version_of_refused {g : Generator} {output path : Path} {error : LiteralError}
    (refused : .file path (.error error) ∈ g.steps output) :
    ∃ v ∈ g.spec.versions, path = versionFile output v ∧ v.Unreadable := by
  rw [steps, List.mem_flatMap] at refused
  obtain ⟨family, -, inside⟩ := refused
  rw [List.mem_cons, or_iff_right (by simp), fileSteps, List.mem_append, List.mem_append] at inside
  rcases inside with (table | version) | package
  · split at table
    · have impossible := (Step.file.inj (List.mem_singleton.1 table)).2
      cases impossible
    · cases table
  · obtain ⟨v, own, same⟩ := List.mem_map.1 version
    obtain ⟨member, rfl⟩ := mem_versionsIn_iff.1 own
    obtain ⟨rfl, fails⟩ := Step.file.inj same
    exact ⟨v, member, rfl, versionModule_eq_error_iff.1 fails⟩
  · have impossible := (Step.file.inj (List.mem_singleton.1 package)).2
    cases impossible

/-- The files of a specification in the order in which they are written. -/
def Generator.files (g : Generator) (output : Path) : List Path :=
  (g.spec.versions.map Version.family).eraseDups.flatMap fun family =>
    (if g.settings.storage = .shared then [moduleFile output family "interop"] else []) ++
      (versionsIn g.spec.versions family).map (versionFile output) ++
      [moduleFile output family "__init__"]

end Bindings

/-! ## What has been written -/

/-- Generating has stopped at the module of a version, when the files `done` had been written. -/
structure StoppedAt (g : Generator) (output : Path) (tree last : Tree) (v : Version)
    (done : List Path) : Prop where
  member : v ∈ g.spec.versions
  unreadable : v.Unreadable
  /-- They are the files that come before the module. -/
  before : ∃ rest, g.files output = done ++ versionFile output v :: rest
  /-- No two files share a place. -/
  apart : ((g.files output).map (·.target)).Nodup
  /-- The module is the first that cannot be rendered. -/
  first : ∀ u ∈ g.spec.versions, versionFile output u ∈ done → ¬ u.Unreadable
  /-- Each of them holds what is rendered for it. -/
  tables : g.settings.storage = .shared → ∀ family ∈ g.spec.families,
    moduleFile output family "interop" ∈ done →
      last.read (moduleFile output family "interop") =
        .ok (g.interopModule family (interopCommands g.spec.versions family)).toUTF8.toList
  modules : ∀ u ∈ g.spec.versions, versionFile output u ∈ done →
    ∃ text, g.versionModule u = .ok text ∧
      last.read (versionFile output u) = .ok text.toUTF8.toList
  packages : ∀ family ∈ g.spec.families, moduleFile output family "__init__" ∈ done →
    last.read (moduleFile output family "__init__") =
      .ok (g.packageModule family (versionsIn g.spec.versions family)).toUTF8.toList
  /-- Everywhere else the same files are there. -/
  others : ∀ location ∉ done.map (·.target), ∀ bytes,
    last.entry? location = some (.file bytes) ↔ tree.entry? location = some (.file bytes)

namespace Bindings.Generator

variable {g : Generator} {output : Path}

theorem writtenPaths_steps_eq_files (g : Generator) (output : Path) :
    writtenPaths (g.steps output) = g.files output :=
  writtenPaths_eq g output

theorem mem_steps {family : String} (member : family ∈ g.spec.families) {step : Step}
    (inside : step ∈ g.fileSteps (packageFolder output family) family) :
    step ∈ g.steps output := by
  rw [steps, List.mem_flatMap]
  exact ⟨family, member, List.mem_cons_of_mem _ inside⟩

/-- Generating that fails for a text has stopped at the first module that cannot be rendered. -/
theorem exists_stoppedAt (placeable : g.spec.Placeable) {tree last : Tree} {error : LiteralError}
    (fails : takeSteps tree (g.steps output) = (last, some (.literal error))) :
    ∃ v done, StoppedAt g output tree last v done := by
  obtain ⟨front, _, back, next, split, taken, stops⟩ := exists_stop fails
  obtain ⟨rfl, path, rfl⟩ := eq_of_take_literal stops
  have refused : .file path (.error error) ∈ g.steps output := by simp [split]
  obtain ⟨v, member, rfl, unreadable⟩ := version_of_refused refused
  have distinct := nodup_writtenPaths placeable output
  have paths : writtenPaths (g.steps output) =
      writtenPaths front ++ versionFile output v :: writtenPaths back := by
    rw [split, writtenPaths, List.filterMap_append]
    rfl
  have apart := nodup_places placeable output
  have apartFront : (places front).Nodup := by
    rw [places, paths, List.map_append] at apart
    exact (List.nodup_append.1 apart).1
  -- What is written to a path on the way is what all steps together have for it.
  have written : ∀ {path text},
      .file path text ∈ g.steps output → path ∈ writtenPaths front →
      ∃ made, text = .ok made ∧ last.read path = .ok made.toUTF8.toList := by
    intro path text writes before
    obtain ⟨step, inside, at'⟩ := List.mem_filterMap.1 before
    cases step with
    | folder folder => cases at'
    | file own content =>
        cases at'
        have same := text_unique distinct writes (split ▸ List.mem_append_left _ inside)
        exact same ▸ holds_of_takeSteps taken apartFront _ inside
  refine ⟨v, writtenPaths front, member, unreadable,
    ⟨_, (writtenPaths_steps_eq_files g output).symm.trans paths⟩,
    writtenPaths_steps_eq_files g output ▸ apart, ?_, ?_, ?_, ?_, ?_⟩
  · intro u own before unreadable'
    obtain ⟨text, rendered, -⟩ := written
      (mem_steps (mem_families_iff.2 ⟨u, own, rfl⟩) (version_mem_fileSteps output own)) before
    have fails : g.versionModule u = .error error := versionModule_eq_error_iff.2 unreadable'
    cases fails.symm.trans rendered
  · intro shared family known before
    obtain ⟨text, made, holds⟩ :=
      written (mem_steps known (table_mem_fileSteps shared output family)) before
    cases made
    exact holds
  · intro u own before
    exact written
      (mem_steps (mem_families_iff.2 ⟨u, own, rfl⟩) (version_mem_fileSteps output own)) before
  · intro family known before
    obtain ⟨text, made, holds⟩ :=
      written (mem_steps known (package_mem_fileSteps g output family)) before
    cases made
    exact holds
  · intro location free
    exact (gains_takeSteps taken location).file_iff free

/-- **Generating stops cleanly at a constant that cannot be read.**  Where no operation on files
fails, it fails exactly if there is such a constant, and then has written the files before the first
module that holds one. -/
theorem stops_at_unreadable (placeable : g.spec.Placeable) {tree last : Tree}
    {failure : Option Failure} (generates : takeSteps tree (g.steps output) = (last, failure))
    (sound : ∀ error, failure ≠ some (.file error)) :
    (failure = some (.literal .tooManyDigits) ↔ ∃ v ∈ g.spec.versions, v.Unreadable) ∧
      (failure = some (.literal .tooManyDigits) →
        ∃ v done, StoppedAt g output tree last v done) := by
  have stopped : failure = some (.literal .tooManyDigits) →
      ∃ v done, StoppedAt g output tree last v done := by
    rintro rfl
    exact exists_stoppedAt placeable generates
  refine ⟨⟨?_, ?_⟩, stopped⟩
  · intro fails
    obtain ⟨v, done, stops⟩ := stopped fails
    exact ⟨v, stops.member, stops.unreadable⟩
  · rintro ⟨v, member, unreadable⟩
    match failure with
    | some (.file error) => exact absurd rfl (sound error)
    | some (.literal .tooManyDigits) => rfl
    | none =>
        obtain ⟨text, rendered, -⟩ := read_of_generate placeable generates
          (mem_families_iff.2 ⟨v, member, rfl⟩) (version_mem_fileSteps output member)
        have fails : g.versionModule v = .error .tooManyDigits :=
          versionModule_eq_error_iff.2 unreadable
        cases fails.symm.trans rendered

end Bindings.Generator

/-! ## A version behind another family -/

namespace Sample

def longNumber : String := String.ofList (List.replicate 4301 '9')

theorem isOverlong_longNumber : IsOverlong longNumber.toList := by
  have digits : longNumber.toList = List.replicate 4301 '9' := String.toList_ofList
  rw [IsOverlong, digits, List.length_replicate]
  refine ⟨fun c member => ?_, Nat.lt_succ_self 4300⟩
  rw [List.eq_of_mem_replicate member]
  rfl

def firstVersion : Version where
  family := "GL"
  name := "GL10"
  number := "1.0"

def stoppingVersion : Version where
  family := "GL"
  name := "GL11"
  number := "1.1"
  constants := [{ name := "GL_LONG", value := longNumber }]

theorem unreadable_stoppingVersion : stoppingVersion.Unreadable :=
  ⟨_, List.mem_singleton_self _, isOverlong_longNumber⟩

/-- The version that stops generating comes after one of another family that would do so too. -/
def stoppingGenerator : Generator where
  spec := {
    versions := [
      firstVersion,
      { family := "GLES", name := "GLES10", number := "1.0",
        constants := [{ name := "GL_LONG", value := longNumber }] },
      stoppingVersion] }

def stoppingOutput : Path where
  components := ["out"]

def stepsBefore : List Step := [
  .folder (packageFolder stoppingOutput "GL"),
  .file (moduleFile stoppingOutput "GL" "interop") (.ok (stoppingGenerator.interopModule "GL"
    (interopCommands stoppingGenerator.spec.versions "GL"))),
  .file (versionFile stoppingOutput firstVersion) (stoppingGenerator.versionModule firstVersion)]

/-- The steps that are left cannot be evaluated, since they hold the number. -/
theorem exists_steps_eq : ∃ rest, stoppingGenerator.steps stoppingOutput = stepsBefore ++
    .file (versionFile stoppingOutput stoppingVersion)
      (stoppingGenerator.versionModule stoppingVersion) :: rest :=
  ⟨_, rfl⟩

theorem exists_stop_stoppingGenerator :
    ∃ last, takeSteps usedTree (stoppingGenerator.steps stoppingOutput) =
      (last, some (.literal .tooManyDigits)) := by
  have before : (takeSteps usedTree stepsBefore).2 = none := by decide +kernel
  have refused : stoppingGenerator.versionModule stoppingVersion = .error .tooManyDigits :=
    Bindings.Generator.versionModule_eq_error_iff.2 unreadable_stoppingVersion
  obtain ⟨rest, steps⟩ := exists_steps_eq
  rw [steps, Bindings.takeSteps_append (Prod.ext rfl before), refused]
  exact ⟨_, rfl⟩

end Sample

/-- Over files that are there already, behind a version of another family. -/
theorem stops_at_unreadable_sample :
    Sample.stoppingGenerator.spec.Placeable ∧
      ∃ last, takeSteps Sample.usedTree
          (Sample.stoppingGenerator.steps Sample.stoppingOutput) =
            (last, some (.literal .tooManyDigits)) ∧
        (∀ error, some (Failure.literal .tooManyDigits) ≠ some (.file error)) ∧
        ∃ v done, StoppedAt Sample.stoppingGenerator Sample.stoppingOutput Sample.usedTree last
          v done := by
  have placeable : Sample.stoppingGenerator.spec.Placeable := by decide +kernel
  have sound : ∀ error, some (Failure.literal .tooManyDigits) ≠ some (.file error) := by
    intro error same
    cases same
  obtain ⟨last, generates⟩ := Sample.exists_stop_stoppingGenerator
  have stopped :=
    Bindings.Generator.stops_at_unreadable placeable generates sound
  exact ⟨placeable, last, generates, sound, stopped.2 rfl⟩

end GLBindings
