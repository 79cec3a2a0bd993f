/-
# Versions are cumulative

Reading the features of a document adds one version for each that counts, and a version offers a
name exactly when some feature of its api up to its own requires it and none from there on removes
it (`names_of_readFeatures`).  Features of other apis in between make no difference, blocks that do
not apply make none, and within one feature a removal beats a requirement wherever the two stand.
-/
import GLBindings.Proofs.Registry.Eligible

namespace GLBindings.Registry

open Xml (Element Node)

set_option autoImplicit false

/-- The version bears the number of the feature and belongs to the family of its api. -/
def IsVersionOf (feature : Element) (version : Version) : Prop :=
  feature.attribute? "number" = some version.number ∧
  ((feature.attribute? "api" = some "gl" ∧ version.family = "GL") ∨
    (feature.attribute? "api" = some "gles1" ∧ version.family = "GLES") ∨
    (feature.attribute? "api" = some "gles2" ∧ version.family = "GLES")) ∧
  version.name = versionName version.family version.number

/-- Among the features, one requires the name and none from there on removes it. -/
def IsLive (profile : String) (kind : Kind) (features : List Element) (name : String) : Prop :=
  ∃ earlier feature later, features = earlier ++ feature :: later ∧
    Mentions profile "require" kind feature name ∧
    ∀ other ∈ feature :: later, ¬ Mentions profile "remove" kind other name

theorem some_mem_live_iff {profile : String} {kind : Kind} {features : List Element}
    {name : String} :
    some name ∈ live (features.map (changeOf profile kind)) ↔
      IsLive profile kind features name := by
  simp only [mem_live_iff_isAlive, IsAlive, IsLive, mem_mentions_iff]

theorem Stands.isVersionOf {registry : Registry} {profile : String} {e : Element}
    {feature : Feature} {names : Names} {version : Version} (stands : Stands profile e feature)
    (made : registry.version feature.api feature.number names = .ok version) :
    IsVersionOf e version := by
  obtain ⟨hfamily, hname, hnumber, -, -⟩ := version_eq_ok_iff.1 made
  refine ⟨by rw [stands.number, hnumber], ?_, by rw [hname, hfamily, hnumber]⟩
  rw [stands.api, hfamily]
  cases feature.api <;> decide

namespace Adds

variable {registry : Registry} {profile : String} {root : Element} {added : List Version}

/-- Reading adds a version for each feature that counts, in order. -/
theorem forall₂_isVersionOf (adds : Adds registry profile root added) :
    List.Forall₂ IsVersionOf (eligible root) added := by
  rw [List.forall₂_iff_get]
  refine ⟨adds.length_eq.symm, ?_⟩
  intro place hfeature hversion
  obtain ⟨feature, names, stands, made, -⟩ := adds.exists_made
    (List.getElem?_eq_getElem hfeature) (List.getElem?_eq_getElem hversion)
  exact stands.isVersionOf made

/-- A version offers exactly the names that are live for its feature. -/
theorem mem_names_iff (adds : Adds registry profile root added) (keyed : registry.WellKeyed)
    {place : Nat} {feature : Element} {version : Version}
    (hfeature : (eligible root)[place]? = some feature) (hversion : added[place]? = some version)
    (kind : Kind) (name : String) :
    name ∈ version.names kind ↔
      IsLive profile kind (historyAt (eligible root) place feature) name := by
  rw [← some_mem_live_iff, ← adds.names_eq keyed hfeature hversion]
  simp

end Adds

/-- **A version offers what its api's features so far have required and not removed since.** -/
theorem names_of_readFeatures {registry : Registry} (reached : Reached registry) (root : Element)
    (profile : String) (succeeds : (registry.readFeatures root profile).failure = none) :
    ∃ added : List Version,
      (registry.readFeatures root profile).registry =
        { registry with versions := registry.versions ++ added } ∧
      List.Forall₂ IsVersionOf (eligible root) added ∧
      ∀ place feature version, (eligible root)[place]? = some feature →
        added[place]? = some version → ∀ kind name, name ∈ version.names kind ↔
          IsLive profile kind (historyAt (eligible root) place feature) name := by
  obtain ⟨added, adds, read⟩ := exists_adds succeeds
  refine ⟨added, read, adds.forall₂_isVersionOf, ?_⟩
  intro place feature version hfeature hversion kind name
  exact adds.mem_names_iff reached.wellKeyed hfeature hversion kind name

/-! ## A document with names that come and go -/

namespace Sample

/-- An element with a name and nothing inside. -/
def entry (tag name : String) : Node := .element ⟨tag, [("name", name)], []⟩

def command (result name : String) : Node :=
  .element ⟨"command", [], [.element ⟨"proto", [], [
    .text result, .element ⟨"name", [], [.text name]⟩]⟩]⟩

def block (tag profile : String) (entries : List Node) : Node :=
  .element ⟨tag, [("profile", profile)], entries⟩

def feature (api number : String) (blocks : List Node) : Node :=
  .element ⟨"feature", [("api", api), ("number", number)], blocks⟩

/-- In the core profile `glBegin` is removed by the feature that requires it again, and comes back
only with the next one; another api stands in between. -/
def root : Element := ⟨"registry", [], [
  .element ⟨"commands", [], [
    command "void " "glBegin", command "void " "glEnd", command "void " "glFlush"]⟩,
  feature "gl" "1.0" [block "require" "core" [entry "command" "glBegin", entry "command" "glEnd"]],
  feature "gl" "3.1" [
    block "remove" "core" [entry "command" "glBegin"],
    block "require" "core" [entry "command" "glFlush", entry "command" "glBegin"]],
  feature "gles1" "1.0" [block "require" "core" [entry "command" "glEnd"]],
  feature "gl" "4.0" [
    block "require" "core" [entry "command" "glEnd", entry "command" "glBegin"],
    block "remove" "compatibility" [entry "command" "glEnd"]],
  feature "gles1" "1.1" [block "require" "core" [entry "command" "glBegin"]]]⟩

def registry : Registry := (Stage.commands.read {} root).registry

theorem reached : Reached registry := .stage .fresh .commands root

end Sample

example : (Sample.registry.readFeatures Sample.root "core").registry.versions.map
    (·.names .command) = [["glBegin", "glEnd"], ["glEnd", "glFlush"], ["glEnd"],
      ["glEnd", "glFlush", "glBegin"], ["glEnd", "glBegin"]] := by
  decide +kernel

theorem names_of_readFeatures_sample :
    (Sample.registry.readFeatures Sample.root "core").failure = none ∧
      ∃ added : List Version,
        (Sample.registry.readFeatures Sample.root "core").registry.versions = added ∧
        ∀ place feature version, (eligible Sample.root)[place]? = some feature →
          added[place]? = some version → ∀ kind name, name ∈ version.names kind ↔
            IsLive "core" kind (historyAt (eligible Sample.root) place feature) name := by
  have succeeds : (Sample.registry.readFeatures Sample.root "core").failure = none := by
    decide +kernel
  obtain ⟨added, read, -, names⟩ :=
    names_of_readFeatures Sample.reached Sample.root "core" succeeds
  have fresh : Sample.registry.versions = [] := by decide +kernel
  refine ⟨succeeds, added, ?_, names⟩
  rw [read, fresh]
  rfl

end GLBindings.Registry
