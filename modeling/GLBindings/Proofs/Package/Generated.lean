/-
# What generating does

Generating writes the files that it lists and no others.  The list goes through the families in the
order in which they first appear; that groups the versions anew without losing or repeating one
(`versionsIn_perm`).  Where a specification can be placed, generating that succeeds leaves each file
of the list with the text of its renderer and every other file as it was, and then nothing is left
to do: generating once more succeeds and leaves everything as it is (`generated_of_takeSteps`).
-/
import GLBindings.Proofs.Package.Written

namespace GLBindings

open Bindings (Generator Step moduleName writtenPaths takeSteps places)
open Bindings.Generator (moduleFile versionFile)
open Files (Path Tree)

set_option autoImplicit false

/-! ## Versions by family -/

/-- Grouping by keys keeps every entry that has one of them, and keeps it once. -/
theorem flatMap_filter_perm {α κ : Type} [BEq κ] [LawfulBEq κ] (key : α → κ) (entries : List α)
    {keys : List κ} (distinct : keys.Nodup) :
    (keys.flatMap fun k => entries.filter (key · == k)).Perm
      (entries.filter fun a => keys.contains (key a)) := by
  induction keys with
  | nil => simp
  | cons k rest ih =>
      obtain ⟨fresh, distinct⟩ := List.nodup_cons.1 distinct
      have parts := List.filter_append_perm (key · == k)
        (entries.filter fun a => (k :: rest).contains (key a))
      have first : (entries.filter fun a => (k :: rest).contains (key a)).filter (key · == k) =
          entries.filter (key · == k) := by
        rw [List.filter_filter]
        apply List.filter_congr
        intro a _
        by_cases same : key a = k <;> simp [same]
      have others : (entries.filter fun a => (k :: rest).contains (key a)).filter
          (fun a => !(key a == k)) = entries.filter fun a => rest.contains (key a) := by
        rw [List.filter_filter]
        apply List.filter_congr
        intro a _
        by_cases same : key a = k
        · simp [same, fresh]
        · simp [same]
      -- The first key takes its entries away, and the others share out what is left.
      rw [first, others] at parts
      exact ((ih distinct).append_left _).trans parts

/-- Each version comes up once, in the group of its family. -/
theorem versionsIn_perm (spec : Spec) :
    (spec.families.flatMap (versionsIn spec.versions)).Perm spec.versions := by
  have distinct : spec.families.Nodup := by
    rw [families_eq]
    exact nodup_eraseDups _
  have all : (spec.versions.filter fun v => spec.families.contains v.family) = spec.versions := by
    rw [List.filter_eq_self]
    intro v member
    simpa using mem_families_iff.2 ⟨v, member, rfl⟩
  have grouped := flatMap_filter_perm Version.family spec.versions distinct
  rwa [all] at grouped

/-! ## Generated packages -/

/-- The first tree has become the second by writing the packages of a specification. -/
structure Generated (g : Generator) (output : Path) (tree last : Tree) : Prop where
  /-- A package after the other, and in it the files in order. -/
  listed : writtenPaths (g.steps output) =
    (g.spec.versions.map Version.family).eraseDups.flatMap fun family =>
      (if g.settings.storage = .shared then [moduleFile output family "interop"] else []) ++
        (versionsIn g.spec.versions family).map (versionFile output) ++
        [moduleFile output family "__init__"]
  /-- The packages have every version between them, each once. -/
  grouped : (g.spec.families.flatMap (versionsIn g.spec.versions)).Perm g.spec.versions
  distinct : (writtenPaths (g.steps output)).Nodup
  once : ∀ v ∈ g.spec.versions, (writtenPaths (g.steps output)).count (versionFile output v) = 1
  /-- Each file holds what is rendered for it. -/
  tables : g.settings.storage = .shared → ∀ family ∈ g.spec.families,
    last.read (moduleFile output family "interop") =
      .ok (g.interopModule family (interopCommands g.spec.versions family)).toUTF8.toList
  modules : ∀ v ∈ g.spec.versions, ∃ text, g.versionModule v = .ok text ∧
    last.read (versionFile output v) = .ok text.toUTF8.toList
  packages : ∀ family ∈ g.spec.families,
    last.read (moduleFile output family "__init__") =
      .ok (g.packageModule family (versionsIn g.spec.versions family)).toUTF8.toList
  /-- Everywhere else the same files are there. -/
  others : ∀ location ∉ places (g.steps output), ∀ bytes,
    last.entry? location = some (.file bytes) ↔ tree.entry? location = some (.file bytes)
  /-- The same steps can be taken again, and nothing changes. -/
  again : ∃ next, takeSteps last (g.steps output) = (next, none) ∧
    ∀ location, next.entry? location = last.entry? location

namespace Bindings.Generator

variable {g : Generator} {output : Path}

/-- Family by family the files are the table where it is shared, the versions, and the package. -/
theorem writtenPaths_eq (g : Generator) (output : Path) : writtenPaths (g.steps output) =
    (g.spec.versions.map Version.family).eraseDups.flatMap fun family =>
      (if g.settings.storage = .shared then [moduleFile output family "interop"] else []) ++
        (versionsIn g.spec.versions family).map (versionFile output) ++
        [moduleFile output family "__init__"] := by
  rw [writtenPaths_steps, families_eq]
  apply congrArg (fun f => List.flatMap f (g.spec.versions.map Version.family).eraseDups)
  funext family
  have own : (g.versionModules family).map (moduleFile output family) =
      (versionsIn g.spec.versions family).map (versionFile output) := by
    rw [versionModules, List.map_map]
    apply List.map_congr_left
    intro v member
    obtain ⟨-, rfl⟩ := mem_versionsIn_iff.1 member
    rfl
  rw [modules, List.map_append, List.map_append, own]
  split <;> rfl

theorem versionFile_mem_writtenPaths {v : Version} (member : v ∈ g.spec.versions) :
    versionFile output v ∈ writtenPaths (g.steps output) := by
  rw [writtenPaths_eq, ← families_eq, List.mem_flatMap]
  refine ⟨v.family, mem_families_iff.2 ⟨v, member, rfl⟩, ?_⟩
  rw [List.mem_append, List.mem_append]
  exact .inl (.inr (List.mem_map_of_mem (mem_versionsIn_iff.2 ⟨member, rfl⟩)))

/-- **Generating writes what it lists, keeps the rest, and leaves itself nothing to do.** -/
theorem generated_of_takeSteps (placeable : g.spec.Placeable) {tree last : Tree}
    (generates : takeSteps tree (g.steps output) = (last, none)) : Generated g output tree last := by
  have distinct := nodup_writtenPaths placeable output
  refine ⟨writtenPaths_eq g output, versionsIn_perm g.spec, distinct, ?_, ?_, ?_, ?_, ?_, ?_⟩
  · intro v member
    exact List.count_eq_one_of_mem distinct (versionFile_mem_writtenPaths member)
  · intro shared family member
    obtain ⟨text, made, holds⟩ := read_of_generate placeable generates member
      (table_mem_fileSteps shared output family)
    cases made
    exact holds
  · intro v member
    exact read_of_generate placeable generates (mem_families_iff.2 ⟨v, member, rfl⟩)
      (version_mem_fileSteps output member)
  · intro family member
    obtain ⟨text, made, holds⟩ := read_of_generate placeable generates member
      (package_mem_fileSteps g output family)
    cases made
    exact holds
  · intro location free
    exact (gains_takeSteps generates location).file_iff free
  · exact takeSteps_of_holds (holds_of_takeSteps generates (nodup_places placeable output))

end Bindings.Generator

/-! ## A second run -/

namespace Sample

/-- Between two versions of one family there is one of another. -/
def interleavedSpec : Spec where
  versions := [
    { family := "GL", name := "GL10", number := "1.0" },
    { family := "GLES", name := "GLES10", number := "1.0" },
    { family := "GL", name := "GL11", number := "1.1",
      constants := [{ name := "GL_ONE", value := "1" }] }]

/-- A folder with an older module and a file that is none of the generated ones. -/
def usedTree : Tree where
  entries := [
    (["out"], .folder),
    (["out", "gl"], .folder),
    (["out", "gl", "gl10.py"], .file [35]),
    (["out", "gl", "notes.txt"], .file [36])]

def interleavedSteps : List Step :=
  Generator.steps { spec := interleavedSpec } { components := ["out"] }

end Sample

/-- Over files that are there already every step succeeds. -/
theorem generated_of_takeSteps_sample :
    Sample.interleavedSpec.Placeable ∧
      (takeSteps Sample.usedTree Sample.interleavedSteps).2 = none ∧
      Generated { spec := Sample.interleavedSpec } { components := ["out"] } Sample.usedTree
        (takeSteps Sample.usedTree Sample.interleavedSteps).1 := by
  have placeable : Sample.interleavedSpec.Placeable := by decide +kernel
  have generates : (takeSteps Sample.usedTree Sample.interleavedSteps).2 = none := by
    decide +kernel
  exact ⟨placeable, generates,
    Bindings.Generator.generated_of_takeSteps (g := { spec := Sample.interleavedSpec })
      placeable (Prod.ext rfl generates)⟩

end GLBindings
