/-
# Profiles

Two profiles of one document go through the same features, but each with the blocks that are meant
for it.  Where every feature requires for the one profile no more and removes no less than for the
other, what is live for the one stays live for the other, however often names are removed and
required again: one change keeps this so (`advance_subset`), and therefore all of them do
(`liveFrom_subset`).  Declarations are the same for every profile, so then each version of the one
profile is within the version of the other at its place (`forall₂_within_of_load`).
-/
import GLBindings.Proofs.Load

namespace GLBindings.Registry

open Xml (Element Node)

set_option autoImplicit false

/-! ## Changes that allow more -/

/-- The change requires no more and removes no less than the other. -/
structure Change.Within (change other : Change) : Prop where
  required : change.required ⊆ other.required
  removed : other.removed ⊆ change.removed

theorem mem_advance_iff {names required removed : List (Option String)} (distinct : names.Nodup)
    {name : Option String} :
    name ∈ advance names required removed ↔
      (name ∈ names ∨ name ∈ required) ∧ name ∉ removed := by
  rw [advance_eq distinct]
  simp [or_and_right]

/-- What one change keeps: the names that are live here are live there. -/
theorem advance_subset {change other : Change} (within : change.Within other)
    {names more : List (Option String)} (distinct : names.Nodup) (distinct' : more.Nodup)
    (before : names ⊆ more) :
    advance names change.required change.removed ⊆ advance more other.required other.removed := by
  intro name alive
  rw [mem_advance_iff distinct] at alive
  rw [mem_advance_iff distinct']
  obtain ⟨known, kept⟩ := alive
  exact ⟨known.imp (@before name) (@within.required name), fun gone => kept (within.removed gone)⟩

/-- Changes that require no more and remove no less leave no more names live. -/
theorem liveFrom_subset {changes others : List Change}
    (within : List.Forall₂ Change.Within changes others) {names more : List (Option String)}
    (distinct : names.Nodup) (distinct' : more.Nodup) (before : names ⊆ more) :
    liveFrom names changes ⊆ liveFrom more others := by
  induction within generalizing names more with
  | nil => exact before
  | cons first _ ih =>
      exact ih (nodup_advance distinct _ _) (nodup_advance distinct' _ _)
        (advance_subset first distinct distinct' before)

/-! ## Profiles that allow more -/

/-- No feature of the document requires anything for the one profile only, or removes anything for
the other only. -/
structure Allows (profile other : String) (root : Element) : Prop where
  required : ∀ feature ∈ root.childrenNamed "feature", ∀ block ∈ feature.childrenNamed "require",
    block.attribute? "profile" ≠ some profile
  removed : ∀ feature ∈ root.childrenNamed "feature", ∀ block ∈ feature.childrenNamed "remove",
    block.attribute? "profile" ≠ some other

/-- Blocks that are not meant for one profile only apply for every other as well. -/
theorem applicable_subset {profile other tag : String} {feature : Element}
    (shared : ∀ block ∈ feature.childrenNamed tag, block.attribute? "profile" ≠ some profile) :
    applicable profile tag feature ⊆ applicable other tag feature := by
  intro block member
  obtain ⟨inside, applies⟩ := List.mem_filter.1 member
  obtain ⟨forProfile, forApi⟩ := of_decide_eq_true applies
  have forEvery := forProfile.resolve_right (shared block inside)
  exact List.mem_filter.2 ⟨inside, decide_eq_true ⟨.inl forEvery, forApi⟩⟩

theorem mentions_subset {kind : String} {blocks more : List Element} (inside : blocks ⊆ more) :
    mentions kind blocks ⊆ mentions kind more := by
  intro name member
  obtain ⟨block, own, mentioned⟩ := List.mem_flatMap.1 member
  exact List.mem_flatMap.2 ⟨block, inside own, mentioned⟩

variable {profile other : String} {root : Element}

namespace Allows

theorem changeOf_within (allows : Allows profile other root) (kind : Kind) {feature : Element}
    (member : feature ∈ root.childrenNamed "feature") :
    (changeOf profile kind feature).Within (changeOf other kind feature) where
  required := mentions_subset (applicable_subset (allows.required feature member))
  removed := mentions_subset (applicable_subset (allows.removed feature member))

/-- The names that a history leaves for the one profile it leaves for the other. -/
theorem live_subset (allows : Allows profile other root) (kind : Kind) (place : Nat)
    (e : Element) :
    live ((historyAt (eligible root) place e).map (changeOf profile kind)) ⊆
      live ((historyAt (eligible root) place e).map (changeOf other kind)) := by
  apply liveFrom_subset _ List.nodup_nil List.nodup_nil (List.Subset.refl _)
  rw [List.forall₂_map_left_iff, List.forall₂_map_right_iff, List.forall₂_same]
  intro feature member
  have counted := List.mem_of_mem_take (List.mem_of_mem_filter member)
  exact allows.changeOf_within kind (List.mem_of_mem_filter counted)

end Allows

end GLBindings.Registry

namespace GLBindings

open Registry (Adds Allows Kind Names Api Stands live changeOf historyAt eligible)
open Xml (Element Node)

/-- The version is the other one, but for commands and constants that only the other has. -/
structure Version.Within (v w : Version) : Prop where
  family : v.family = w.family
  name : v.name = w.name
  number : v.number = w.number
  commands : ∀ command ∈ v.commands, command ∈ w.commands
  constants : ∀ constant ∈ v.constants, constant ∈ w.constants

namespace Registry

/-- What is found for some names is found for more names. -/
theorem mem_of_found {α : Type} {lookup : Option String → Except RegistryError α}
    {names more : List (Option String)} {things others : List α} (inside : names ⊆ more)
    (found : List.Forall₂ (fun name thing => lookup name = .ok thing) names things)
    (found' : List.Forall₂ (fun name thing => lookup name = .ok thing) more others) :
    ∀ thing ∈ things, thing ∈ others := by
  intro thing member
  obtain ⟨name, known, looked⟩ := exists_mem_of_forall₂ found member
  obtain ⟨same, present, looked'⟩ := exists_mem_of_forall₂ found'.flip (inside known)
  cases looked.symm.trans looked'
  exact present

theorem within_of_version {registry : Registry} {api : Api} {number : String} {names more : Names}
    (inside : ∀ kind, names.of kind ⊆ more.of kind) {v w : Version}
    (made : registry.version api number names = .ok v)
    (made' : registry.version api number more = .ok w) : v.Within w := by
  obtain ⟨family, name, number, constants, commands⟩ := version_eq_ok_iff.1 made
  obtain ⟨family', name', number', constants', commands'⟩ := version_eq_ok_iff.1 made'
  exact {
    family := family.trans family'.symm
    name := name.trans name'.symm
    number := number.trans number'.symm
    commands := mem_of_found (inside .command) commands commands'
    constants := mem_of_found (inside .constant) constants constants' }

/-- The versions that one profile adds are within those that the other adds. -/
theorem Adds.forall₂_within {registry : Registry} {profile other : String} {root : Element}
    {added more : List Version} (adds : Adds registry profile root added)
    (adds' : Adds registry other root more) (allows : Allows profile other root) :
    List.Forall₂ Version.Within added more := by
  rw [List.forall₂_iff_get]
  refine ⟨by rw [adds.length_eq, adds'.length_eq], ?_⟩
  intro place hv hw
  have counted : place < (eligible root).length := adds.length_eq ▸ hv
  have he := List.getElem?_eq_getElem counted
  obtain ⟨feature, names, stands, made, names_of⟩ :=
    adds.exists_made he (List.getElem?_eq_getElem hv)
  obtain ⟨feature', names', stands', made', names_of'⟩ :=
    adds'.exists_made he (List.getElem?_eq_getElem hw)
  have sameApi : feature.api = feature'.api :=
    name_injective (Option.some.inj (stands.api.symm.trans stands'.api))
  have sameNumber : feature.number = feature'.number :=
    Option.some.inj (stands.number.symm.trans stands'.number)
  rw [← sameApi, ← sameNumber] at made'
  refine within_of_version ?_ made made'
  intro kind
  rw [names_of, names_of']
  exact allows.live_subset kind place _

end Registry

/-- Loaded for a profile, each version is within the one loaded for a profile that allows more. -/
theorem forall₂_within_of_load {bytes : List UInt8} {root : Element} {profile other : String}
    (document : Xml.readDocument bytes = .ok root) (allows : Allows profile other root)
    {spec more : Spec} (loaded : Spec.load bytes profile = .ok spec)
    (loaded' : Spec.load bytes other = .ok more) :
    List.Forall₂ Version.Within spec.versions more.versions := by
  obtain ⟨-, adds, -⟩ := (load_eq_ok_iff_adds document).1 loaded
  obtain ⟨-, adds', -⟩ := (load_eq_ok_iff_adds document).1 loaded'
  exact adds.forall₂_within adds' allows

/-- **The compatibility profile contains the core profile.** -/
theorem core_within_compatibility {bytes : List UInt8} {root : Element}
    (document : Xml.readDocument bytes = .ok root)
    (shared : ∀ feature ∈ root.childrenNamed "feature",
      ∀ block ∈ feature.childrenNamed "require", block.attribute? "profile" ≠ some "core")
    (kept : ∀ feature ∈ root.childrenNamed "feature",
      ∀ block ∈ feature.childrenNamed "remove", block.attribute? "profile" ≠ some "compatibility")
    {core compatibility : Spec} (loaded : Spec.load bytes "core" = .ok core)
    (loaded' : Spec.load bytes "compatibility" = .ok compatibility) :
    List.Forall₂ Version.Within core.versions compatibility.versions :=
  forall₂_within_of_load document ⟨shared, kept⟩ loaded loaded'

/-! ## A document that profiles disagree on -/

namespace Sample

open Registry.Sample (entry command block feature)

/-- One feature removes names for the core profile and requires another for compatibility; the next
one requires a removed name again. -/
def profiledRoot : Element := ⟨"registry", [], [
  .element ⟨"enums", [], [.element ⟨"enum", [("name", "GL_ONE"), ("value", "1")], []⟩]⟩,
  .element ⟨"commands", [], [command "void " "glBegin", command "void " "glEnd"]⟩,
  feature "gl" "1.0" [.element ⟨"require", [], [entry "enum" "GL_ONE", entry "command" "glBegin"]⟩],
  feature "gl" "3.1" [
    block "remove" "core" [entry "enum" "GL_ONE", entry "command" "glBegin"],
    block "require" "compatibility" [entry "command" "glEnd"]],
  feature "gl" "3.2" [.element ⟨"require", [], [entry "command" "glBegin"]⟩]]⟩

def profiledCharacters : List Char := [
  "<registry>", "<enums>", "<enum name='GL_ONE' value='1'></enum>", "</enums>", "<commands>",
  "<command><proto>", "void <name>glBegin</name>", "</proto></command>",
  "<command><proto>", "void <name>glEnd</name>", "</proto></command>", "</commands>",
  "<feature api='gl' number='1.0'>",
  "<require>", "<enum name='GL_ONE'></enum>", "<command name='glBegin'></command>",
  "</require></feature>",
  "<feature api='gl' number='3.1'>",
  "<remove profile='core'>", "<enum name='GL_ONE'></enum>", "<command name='glBegin'></command>",
  "</remove>",
  "<require profile='compatibility'>", "<command name='glEnd'></command>", "</require></feature>",
  "<feature api='gl' number='3.2'>",
  "<require>", "<command name='glBegin'></command>", "</require></feature>",
  "</registry>"].flatMap String.toList

def profiledBytes : List UInt8 := Xml.utf8Bytes profiledCharacters

def one : Constant where
  name := "GL_ONE"
  value := "1"

def procedure (name : String) : Command where
  name := name
  result := { base := .void, spelling := "void" }

def coreSpec : Spec where
  versions := [
    { family := "GL", name := "GL10", number := "1.0", constants := [one],
      commands := [procedure "glBegin"] },
    { family := "GL", name := "GL31", number := "3.1" },
    { family := "GL", name := "GL32", number := "3.2", commands := [procedure "glBegin"] }]

def compatibilitySpec : Spec where
  versions := [
    { family := "GL", name := "GL10", number := "1.0", constants := [one],
      commands := [procedure "glBegin"] },
    { family := "GL", name := "GL31", number := "3.1", constants := [one],
      commands := [procedure "glBegin", procedure "glEnd"] },
    { family := "GL", name := "GL32", number := "3.2", constants := [one],
      commands := [procedure "glBegin", procedure "glEnd"] }]

theorem readDocument_profiledBytes : Xml.readDocument profiledBytes = .ok profiledRoot := by
  apply Xml.readDocument_utf8Bytes
  · decide +kernel
  · decide +kernel
  · decide +kernel

end Sample

theorem core_within_compatibility_sample :
    Xml.readDocument Sample.profiledBytes = .ok Sample.profiledRoot ∧
      Spec.load Sample.profiledBytes "core" = .ok Sample.coreSpec ∧
      Spec.load Sample.profiledBytes "compatibility" = .ok Sample.compatibilitySpec ∧
      List.Forall₂ Version.Within Sample.coreSpec.versions Sample.compatibilitySpec.versions := by
  have document := Sample.readDocument_profiledBytes
  have loaded : Spec.load Sample.profiledBytes "core" = .ok Sample.coreSpec :=
    load_of_read document (by decide +kernel)
  have loaded' : Spec.load Sample.profiledBytes "compatibility" = .ok Sample.compatibilitySpec :=
    load_of_read document (by decide +kernel)
  refine ⟨document, loaded, loaded', core_within_compatibility document ?_ ?_ loaded loaded'⟩
  · decide +kernel
  · decide +kernel

end GLBindings
