/-
# Where generated files go

Each family has a folder, and in it a file for each of its versions beside those of the shared table
and of the package.  Where families and versions bear names that can be told apart as names of files
(`Spec.Named`), a path is written to twice exactly when two versions of one family have the same
module name (`nodup_writtenPaths_iff`).  Where that does not happen either, the specification is
`Placeable`.
-/
import GLBindings.Bindings.Package
import GLBindings.Proofs.Files.Writing
import GLBindings.Proofs.FirstOccurrence
import GLBindings.Proofs.Text.LowerCase
import Mathlib.Data.List.Induction
import Mathlib.Tactic.MkIffOfInductiveProp

namespace GLBindings

open Bindings (moduleName)
open Files (Path IsName child_inj)

set_option autoImplicit false

/-! ## Families -/

/-- Families come in the order in which versions bring them up. -/
theorem families_eq (spec : Spec) :
    spec.families = (spec.versions.map Version.family).eraseDups := by
  rw [Spec.families]
  induction spec.versions using List.reverseRecOn with
  | nil => rfl
  | append_singleton versions v ih =>
      rw [List.foldl_append, ih, List.map_append, List.map_singleton, List.eraseDups_append]
      by_cases known : v.family ∈ versions.map Version.family
      · have again : [v.family].removeAll (versions.map Version.family) = [] := by
          simpa [List.removeAll] using known
        rw [again]
        simp only [List.foldl_cons, List.foldl_nil, List.mem_eraseDups, if_pos known]
        rw [List.eraseDups_nil, List.append_nil]
      · have fresh : [v.family].removeAll (versions.map Version.family) = [v.family] := by
          simpa [List.removeAll] using known
        rw [fresh]
        simp only [List.foldl_cons, List.foldl_nil, List.mem_eraseDups, if_neg known]
        rfl

theorem mem_families_iff {spec : Spec} {family : String} :
    family ∈ spec.families ↔ ∃ v ∈ spec.versions, v.family = family := by
  rw [families_eq, List.mem_eraseDups, List.mem_map]

theorem mem_versionsIn_iff {versions : List Version} {family : String} {v : Version} :
    v ∈ versionsIn versions family ↔ v ∈ versions ∧ v.family = family := by
  simp [versionsIn]

/-- The names of families and versions can be told apart as names of folders and files. -/
@[mk_iff]
structure Spec.Named (spec : Spec) : Prop where
  /-- The folders of families have different names. -/
  families : (spec.families.map Text.lower).Nodup
  /-- No module goes by the name of one that every package has. -/
  free : ∀ v ∈ spec.versions, moduleName v.name ≠ "interop" ∧ moduleName v.name ≠ "__init__"
  slashless : ∀ v ∈ spec.versions, '/' ∉ v.family.toList ∧ '/' ∉ v.name.toList
  folders : ∀ v ∈ spec.versions, v.family ≠ "" ∧ v.family ≠ "." ∧ v.family ≠ ".."

/-- Every file of the specification has a place of its own. -/
@[mk_iff]
structure Spec.Placeable (spec : Spec) : Prop extends spec.Named where
  /-- The modules of a family's versions have different names. -/
  modules : ∀ family ∈ spec.families,
    ((versionsIn spec.versions family).map fun v => moduleName v.name).Nodup

instance (spec : Spec) : Decidable spec.Named := decidable_of_iff _ (Spec.named_iff spec).symm

instance (spec : Spec) : Decidable spec.Placeable :=
  decidable_of_iff _ (Spec.placeable_iff spec).symm

/-! ## Names of files -/

theorem isName_lower {family : String} (slashless : '/' ∉ family.toList)
    (named : family ≠ "" ∧ family ≠ "." ∧ family ≠ "..") : IsName (Text.lower family) where
  slashless := by rwa [Text.mem_lower_iff (by decide)]
  nonempty := by rw [Ne, Text.lower_eq_iff (by simp [Text.IsLow])]; exact named.1
  notHere := by rw [Ne, Text.lower_eq_iff (by simp [Text.IsLow])]; exact named.2.1
  notAbove := by rw [Ne, Text.lower_eq_iff (by simp [Text.IsLow])]; exact named.2.2

/-- A name with an ending is none of the texts that lead elsewhere. -/
theorem isName_file {name : String} (slashless : '/' ∉ name.toList) : IsName (name ++ ".py") := by
  have long : ∀ text ∈ ["", ".", ".."], name ++ ".py" ≠ text := by
    intro text member same
    have short : ∀ text ∈ ["", ".", ".."], text.toList.length < 3 := by decide
    have length := congrArg (fun s => s.toList.length) same
    simp only [String.toList_append, List.length_append] at length
    have ending : ".py".toList.length = 3 := by decide
    have bound := short text member
    omega
  refine ⟨?_, long _ (by decide), long _ (by decide), long _ (by decide)⟩
  rw [String.toList_append, List.mem_append, not_or]
  exact ⟨slashless, by decide⟩

theorem slashless_moduleName {name : String} (slashless : '/' ∉ name.toList) :
    '/' ∉ (moduleName name).toList := by
  rwa [moduleName, Text.mem_lower_iff (by decide)]

namespace Bindings.Generator

def versionModules (g : Generator) (family : String) : List String :=
  (versionsIn g.spec.versions family).map fun v => moduleName v.name

/-- The names of the modules of a family's package, in the order in which they are written. -/
def modules (g : Generator) (family : String) : List String :=
  (if g.settings.storage = .shared then ["interop"] else []) ++ g.versionModules family ++
    ["__init__"]

def moduleFile (output : Path) (family name : String) : Path :=
  (packageFolder output family).child (name ++ ".py")

theorem writtenPaths_fileSteps (g : Generator) (output : Path) (family : String) :
    writtenPaths (g.fileSteps (packageFolder output family) family) =
      (g.modules family).map (moduleFile output family) := by
  rw [writtenPaths, fileSteps, modules, versionModules]
  have interop : "interop" ++ ".py" = "interop.py" := by decide
  have package : "__init__" ++ ".py" = "__init__.py" := by decide
  split <;> simp [Step.written?, moduleFile, Function.comp_def, interop, package]

/-- Family by family, every module has its file. -/
theorem writtenPaths_steps (g : Generator) (output : Path) :
    writtenPaths (g.steps output) = g.spec.families.flatMap fun family =>
      (g.modules family).map (moduleFile output family) := by
  rw [writtenPaths, steps, List.filterMap_flatMap]
  apply congrArg (fun f => List.flatMap f g.spec.families)
  funext family
  exact g.writtenPaths_fileSteps output family

section

variable {g : Generator} (named : g.spec.Named)

include named

theorem isName_folder {family : String} (member : family ∈ g.spec.families) :
    IsName (Text.lower family) := by
  obtain ⟨v, inside, rfl⟩ := mem_families_iff.1 member
  exact isName_lower (named.slashless v inside).1 (named.folders v inside)

theorem isName_module {family name : String} (member : name ∈ g.modules family) :
    IsName (name ++ ".py") := by
  apply isName_file
  rw [modules, List.mem_append, List.mem_append] at member
  rcases member with (table | version) | package
  · split at table
    · rw [List.mem_singleton.1 table]
      decide
    · cases table
  · obtain ⟨v, own, rfl⟩ := List.mem_map.1 version
    exact slashless_moduleName (named.slashless v (mem_versionsIn_iff.1 own).1).2
  · rw [List.mem_singleton.1 package]
    decide

/-- The file of a module tells its family and its name. -/
theorem moduleFile_inj (output : Path) {family other name name' : String}
    (hfamily : family ∈ g.spec.families) (hother : other ∈ g.spec.families)
    (hname : name ∈ g.modules family) (hname' : name' ∈ g.modules other) :
    moduleFile output family name = moduleFile output other name' ↔
      Text.lower family = Text.lower other ∧ name = name' := by
  rw [moduleFile, moduleFile, child_inj (isName_module named hname) (isName_module named hname'),
    packageFolder, packageFolder,
    child_inj (isName_folder named hfamily) (isName_folder named hother),
    and_iff_right rfl, String.append_left_inj]

/-- Only the modules of versions can share a name. -/
theorem nodup_modules_iff {family : String} :
    (g.modules family).Nodup ↔ (g.versionModules family).Nodup := by
  have free : ∀ name ∈ g.versionModules family, name ≠ "interop" ∧ name ≠ "__init__" := by
    intro name member
    obtain ⟨v, own, rfl⟩ := List.mem_map.1 member
    exact named.free v (mem_versionsIn_iff.1 own).1
  have interop : "interop" ∉ g.versionModules family := fun member => (free _ member).1 rfl
  have package : ∀ name ∈ g.versionModules family, name ≠ "__init__" :=
    fun name member => (free name member).2
  rw [modules]
  split
  · simpa [List.nodup_append, interop] using fun _ => package
  · simpa [List.nodup_append] using fun _ => package

/-- A path is written to twice exactly when two versions of a family share a module name. -/
theorem nodup_writtenPaths_iff (output : Path) :
    (writtenPaths (g.steps output)).Nodup ↔
      ∀ family ∈ g.spec.families, (g.versionModules family).Nodup := by
  have apart : g.spec.families.Pairwise fun family other =>
      ((g.modules family).map (moduleFile output family)).Disjoint
        ((g.modules other).map (moduleFile output other)) := by
    refine (List.pairwise_map.1 named.families).imp_of_mem ?_
    intro family other hfamily hother differ path inFamily inOther
    obtain ⟨name, own, rfl⟩ := List.mem_map.1 inFamily
    obtain ⟨name', own', same⟩ := List.mem_map.1 inOther
    exact differ ((moduleFile_inj named output hother hfamily own' own).1 same).1.symm
  have each : ∀ family ∈ g.spec.families,
      ((g.modules family).map (moduleFile output family)).Nodup ↔
        (g.versionModules family).Nodup := by
    intro family hfamily
    rw [← nodup_modules_iff named]
    refine ⟨List.Nodup.of_map _, List.Nodup.map_on ?_⟩
    intro name own name' own' same
    exact ((moduleFile_inj named output hfamily hfamily own own').1 same).2
  rw [writtenPaths_steps, List.nodup_flatMap, and_iff_left apart]
  exact forall₂_congr each

end

/-- No file of a placeable specification is written twice. -/
theorem nodup_writtenPaths {g : Generator} (placeable : g.spec.Placeable) (output : Path) :
    (writtenPaths (g.steps output)).Nodup :=
  (nodup_writtenPaths_iff placeable.toNamed output).2 placeable.modules

end Bindings.Generator

end GLBindings
