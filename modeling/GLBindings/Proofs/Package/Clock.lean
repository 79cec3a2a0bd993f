/-
# What the time changes

Two generators that differ in nothing but the time render texts that differ in nothing but the
second line (`withoutSecondLine_versionModule` and its siblings).  So their steps go through the
same folders and files (`redated_steps`), one step after the other fails in both runs or in neither
(`takeSteps_redated`), and in the end the trees have the same files but for second lines
(`differ_in_second_lines`).  The profile changes nothing at all.
-/
import GLBindings.Proofs.Files.Resemblance
import GLBindings.Proofs.Package.Headers

namespace GLBindings.Bindings

open Files (Path Tree)
open Files.Tree (Resembles StopsAlike)
open Text (physicalLines)

set_option autoImplicit false

/-! ## Texts -/

def withoutSecondLine (text : String) : List String := (physicalLines text).eraseIdx 1

/-- Where lines go on from the header in the same way at all times, the time stands in the second
and nowhere else. -/
theorem withoutSecondLine_congr (g : Generator) {lines : Option Moment → List String}
    {body : List String}
    (headed : ∀ generatedAt, lines generatedAt = fileHeader g.spec.notice generatedAt ++ body)
    (generatedAt other : Option Moment) :
    withoutSecondLine (textOfLines (lines generatedAt)) =
      withoutSecondLine (textOfLines (lines other)) := by
  have read : ∀ generatedAt, physicalLines (textOfLines (lines generatedAt)) =
      "# AUTOGENERATED. DO NOT EDIT." :: generatorLine generatedAt ::
        (noticeLines g.spec.notice ++ [""] ++
          physicalLines (String.join (body.map (· ++ "\n")))) := by
    intro generatedAt
    rw [headed]
    refine physicalLines_textOfLines (List.cons_ne_nil _ _) ?_ body
    intro line member
    exact (unbroken_of_mem_header (g.redated generatedAt) line member).not_mem_feed
  rw [withoutSecondLine, withoutSecondLine, read, read]
  rfl

namespace Generator

variable (g : Generator) (generatedAt : Option Moment)

/-- The time shows in the second line only. -/
theorem withoutSecondLine_versionModule (v : Version) :
    ((g.redated generatedAt).versionModule v).map withoutSecondLine =
      (g.versionModule v).map withoutSecondLine := by
  obtain ⟨body, lines⟩ := g.exists_versionBody v
  have own : g.versionLines v = body.map (g.header ++ ·) := lines g.generatedAt
  rw [versionModule, versionModule, lines, own]
  cases body with
  | error failure => rfl
  | ok body =>
      exact congrArg Except.ok (withoutSecondLine_congr g (fun _ => rfl) generatedAt g.generatedAt)

theorem withoutSecondLine_interopModule (family : String) (commands : List Command) :
    withoutSecondLine ((g.redated generatedAt).interopModule family commands) =
      withoutSecondLine (g.interopModule family commands) := by
  obtain ⟨body, lines⟩ := g.exists_interopBody family commands
  exact withoutSecondLine_congr g lines generatedAt g.generatedAt

theorem withoutSecondLine_packageModule (family : String) (versions : List Version) :
    withoutSecondLine ((g.redated generatedAt).packageModule family versions) =
      withoutSecondLine (g.packageModule family versions) := by
  obtain ⟨body, lines⟩ := g.exists_packageBody family versions
  exact withoutSecondLine_congr g lines generatedAt g.generatedAt

end Generator

/-! ## Steps -/

/-- The steps make the same folder or write the same file, whose text, if it can be made, differs in
its second line only. -/
inductive Step.Redated : Step → Step → Prop where
  | folder (path : Path) : Redated (.folder path) (.folder path)
  | refused (path : Path) (error : LiteralError) :
      Redated (.file path (.error error)) (.file path (.error error))
  | file (path : Path) {text text' : String}
      (same : withoutSecondLine text' = withoutSecondLine text) :
      Redated (.file path (.ok text)) (.file path (.ok text'))

theorem Step.Redated.of_map_eq {path : Path} {text text' : Except LiteralError String}
    (same : text'.map withoutSecondLine = text.map withoutSecondLine) :
    Step.Redated (.file path text) (.file path text') := by
  cases text with
  | error error =>
      obtain rfl : text' = .error error := map_eq_error_iff.1 same
      exact .refused path error
  | ok text =>
      obtain ⟨text', rfl, made⟩ := map_eq_ok_iff.1 same
      exact .file path made

theorem Step.Redated.written?_eq {step step' : Step} (redated : step.Redated step') :
    step'.written? = step.written? := by
  cases redated with
  | folder => rfl
  | refused => rfl
  | file => rfl

theorem writtenPaths_eq_of_redated {steps steps' : List Step}
    (redated : List.Forall₂ Step.Redated steps steps') :
    writtenPaths steps' = writtenPaths steps := by
  induction redated with
  | nil => rfl
  | cons first _ ih =>
      simp only [writtenPaths, List.filterMap_cons, first.written?_eq] at ih ⊢
      rw [ih]

theorem redated_fileSteps (g : Generator) (generatedAt : Option Moment) (package : Path)
    (family : String) : List.Forall₂ Step.Redated (g.fileSteps package family)
      ((g.redated generatedAt).fileSteps package family) := by
  have table : Step.Redated
      (.file (package.child "interop.py")
        (.ok (g.interopModule family (interopCommands g.spec.versions family))))
      (.file (package.child "interop.py")
        (.ok ((g.redated generatedAt).interopModule family
          (interopCommands g.spec.versions family)))) :=
    .file _ (g.withoutSecondLine_interopModule generatedAt family _)
  have versions : List.Forall₂ Step.Redated
      ((versionsIn g.spec.versions family).map fun version =>
        .file (package.child (moduleName version.name ++ ".py")) (g.versionModule version))
      ((versionsIn g.spec.versions family).map fun version =>
        .file (package.child (moduleName version.name ++ ".py"))
          ((g.redated generatedAt).versionModule version)) := by
    rw [List.forall₂_map_left_iff, List.forall₂_map_right_iff, List.forall₂_same]
    exact fun v _ => .of_map_eq (g.withoutSecondLine_versionModule generatedAt v)
  have last : Step.Redated
      (.file (package.child "__init__.py")
        (.ok (g.packageModule family (versionsIn g.spec.versions family))))
      (.file (package.child "__init__.py")
        (.ok ((g.redated generatedAt).packageModule family
          (versionsIn g.spec.versions family)))) :=
    .file _ (g.withoutSecondLine_packageModule generatedAt family _)
  rw [Generator.fileSteps, Generator.fileSteps]
  refine List.rel_append (List.rel_append ?_ versions) (.cons last .nil)
  change List.Forall₂ Step.Redated _ (if g.settings.storage = .shared then _ else _)
  split
  · exact .cons table .nil
  · exact .nil

/-- At another time the steps are the same but for the second lines of the files. -/
theorem redated_steps (g : Generator) (generatedAt : Option Moment) (output : Path) :
    List.Forall₂ Step.Redated (g.steps output) ((g.redated generatedAt).steps output) := by
  have families : List.Forall₂ Eq g.spec.families g.spec.families := List.forall₂_refl _
  refine List.rel_flatMap families ?_
  rintro family _ rfl
  exact .cons (.folder _) (redated_fileSteps g generatedAt _ family)

/-! ## Runs -/

/-- The bytes are the same, or those of texts that differ in their second lines. -/
def SameButSecondLine (bytes bytes' : List UInt8) : Prop :=
  bytes' = bytes ∨ ∃ text text', bytes = text.toUTF8.toList ∧ bytes' = text'.toUTF8.toList ∧
    withoutSecondLine text' = withoutSecondLine text

/-- A step and the same step redated stop alike. -/
theorem take_redated {tree tree' : Tree} {step step' : Step}
    (like : tree.Resembles SameButSecondLine tree') (redated : step.Redated step') :
    StopsAlike SameButSecondLine (step.take tree) (step'.take tree') := by
  cases redated with
  | folder path =>
      obtain ⟨trees, failures⟩ := like.ensureFolders path
      exact ⟨trees, congrArg (Option.map Failure.file) failures⟩
  | refused path error => exact ⟨like, rfl⟩
  | @file path text text' same =>
      have ends := like.write path (.inr ⟨text, text', rfl, rfl, same⟩)
      rw [Step.take, Step.take]
      generalize tree.write path text.toUTF8.toList = written,
        tree'.write path text'.toUTF8.toList = written' at ends
      cases ends with
      | failed error => exact ⟨like, rfl⟩
      | done writtenLike => exact ⟨writtenLike, rfl⟩

/-- Redated steps stop in the same place, and leave trees that resemble each other. -/
theorem takeSteps_redated {tree tree' : Tree} {steps steps' : List Step}
    (like : tree.Resembles SameButSecondLine tree')
    (redated : List.Forall₂ Step.Redated steps steps') :
    StopsAlike SameButSecondLine (takeSteps tree steps) (takeSteps tree' steps') := by
  induction redated generalizing tree tree' with
  | nil => exact ⟨like, rfl⟩
  | cons first _ ih =>
      rename_i step step' rest rest' _
      have stops := take_redated like first
      rw [takeSteps, takeSteps]
      generalize step.take tree = stop, step'.take tree' = stop' at stops
      obtain ⟨next, failure⟩ := stop
      obtain ⟨next', failure'⟩ := stop'
      obtain ⟨trees, failures⟩ := stops
      -- both runs end here, or both go on
      cases failures
      cases failure with
      | none => exact ih trees
      | some failure => exact ⟨trees, rfl⟩

/-! ## Generators -/

def Generator.reprofiled (g : Generator) (profile : String) : Generator :=
  { g with settings := { g.settings with profile } }

/-- What two generators write differs in nothing but the second lines of files. -/
structure DifferInSecondLines (g g' : Generator) : Prop where
  versions : ∀ v,
    (g'.versionModule v).map withoutSecondLine = (g.versionModule v).map withoutSecondLine
  tables : ∀ family commands,
    withoutSecondLine (g'.interopModule family commands) =
      withoutSecondLine (g.interopModule family commands)
  packages : ∀ family versions,
    withoutSecondLine (g'.packageModule family versions) =
      withoutSecondLine (g.packageModule family versions)
  /-- The second line tells the time. -/
  second : ∀ text, g.IsModule text →
    (physicalLines text)[1]? = some (generatorLine g.generatedAt)
  paths : ∀ output, writtenPaths (g'.steps output) = writtenPaths (g.steps output)
  /-- Over the same files both fail for the same reason, or neither does, and what is there in the
  end is the same but for second lines. -/
  runs : ∀ tree output, StopsAlike SameButSecondLine
    (takeSteps tree (g.steps output)) (takeSteps tree (g'.steps output))

structure WriteTheSame (g g' : Generator) : Prop where
  versions : ∀ v, g'.versionModule v = g.versionModule v
  tables : ∀ family commands, g'.interopModule family commands = g.interopModule family commands
  packages : ∀ family versions, g'.packageModule family versions = g.packageModule family versions
  steps : ∀ output, g'.steps output = g.steps output

/-- **The time touches one line only, and the profile none.** -/
theorem differ_in_second_lines (g : Generator) (generatedAt : Option Moment) (profile : String) :
    DifferInSecondLines g (g.redated generatedAt) ∧ WriteTheSame g (g.reprofiled profile) := by
  have same : ∀ bytes, SameButSecondLine bytes bytes := fun _ => .inl rfl
  constructor
  · refine ⟨g.withoutSecondLine_versionModule generatedAt,
      g.withoutSecondLine_interopModule generatedAt,
      g.withoutSecondLine_packageModule generatedAt, ?_, ?_, ?_⟩
    · intro text isModule
      obtain ⟨body, rfl⟩ := isModule.exists_body
      obtain ⟨⟨rest, lines⟩, -⟩ := opensWith_header g body
      rw [lines]
      rfl
    · intro output
      exact writtenPaths_eq_of_redated (redated_steps g generatedAt output)
    · intro tree output
      exact takeSteps_redated (Resembles.refl same tree) (redated_steps g generatedAt output)
  · exact ⟨fun _ => rfl, fun _ _ => rfl, fun _ _ => rfl, fun _ => rfl⟩

end GLBindings.Bindings
