/-
# Two ways of storing, one API

A version module that imports the table of its family and one that has a table to itself offer the
same: all that a caller sees of them is the same line for line, but for the line that names the class
of the table (`exists_apiLines_split`).  Nor does it matter to a slot which table it is in: in a
loaded specification the table of a family has the very entries that a version would list for itself,
each once (`count_prototypeEntry`).  `sameApi_of_load` puts this together from the lines of the
modules, read back in sections.
-/
import GLBindings.Proofs.Bindings.Layout
import GLBindings.Proofs.Interop.Shared

namespace GLBindings

namespace Bindings

set_option autoImplicit false

/-- The generator that stores so, and is the same in every other respect. -/
def Generator.storing (g : Generator) (storage : Storage) : Generator :=
  { g with settings := { g.settings with storage } }

/-- Whether versions succeed does not depend on how they store. -/
theorem exists_versionLines_storing {g : Generator} {v : Version} {storage : Storage}
    {lines : List String} (renders : (g.storing storage).versionLines v = .ok lines)
    (other : Storage) : ∃ lines', (g.storing other).versionLines v = .ok lines' := by
  obtain ⟨definitions, defined, -⟩ := Generator.versionLines_eq_ok_iff.1 renders
  exact ⟨_, Generator.versionLines_eq_ok_iff.2 ⟨definitions, defined, rfl⟩⟩

/-- In the table of a family an entry of a version's commands stands once. -/
theorem count_prototypeEntry {versions : List Version} (agree : Agree versions) {v : Version}
    (member : v ∈ versions) {c : Command} (offers : c ∈ v.commands) :
    ((interopCommands versions v.family).map prototypeEntry).count (prototypeEntry c) = 1 := by
  have distinct := nodup_prototypeEntries
    (ascending_interopCommands versions v.family).nodup_map
  have shared : c ∈ interopCommands versions v.family :=
    agree.mem_interopCommands_iff.2 ⟨v, member, rfl, offers⟩
  exact List.count_eq_one_of_mem distinct (List.mem_map_of_mem shared)

/-- What the two modules of a version have in common, and where they differ: one line of its API,
which names the class of the table that is in the module itself or in that of the family. -/
structure SameApi (errorCheck : Bool) (v : Version) (shared isolated table : List String) :
    Prop where
  api : ∃ before after,
    apiSection shared = before ++ interopLine (tableClass v.family) :: after ∧
    apiSection isolated = before ++ interopLine (tableClass v.name) :: after
  tables : "class " ++ tableClass v.family ++ ":" ∈ table ∧
    "class " ++ tableClass v.name ++ ":" ∈ isolated
  aliases : aliasSection shared = (aliasKeywords v.commands).map aliasLine ∧
    aliasSection isolated = aliasSection shared
  constants : List.Forall₂ (fun c line => constantLine c = .ok line) v.constants
      (constantSection shared) ∧
    constantSection isolated = constantSection shared
  commands : commandSection isolated = v.commands.map commandEntry ∧
    commandSection shared = commandSection isolated
  prototypes : prototypeSection isolated = v.commands.map prototypeEntry
  entries : ∀ entry ∈ prototypeSection isolated, (prototypeSection table).count entry = 1
  helpers : helperSection isolated = helperSection table
  slots : "class FunctionSlot:" ∈ helperSection isolated
  errors : "class LoadError(RuntimeError):" ∈ helperSection isolated ↔ errorCheck = true

/-- Where versions agree on what names stand for, both ways of storing offer the same. -/
theorem sameApi {g : Generator} {v : Version} (agree : Agree g.spec.versions)
    (member : v ∈ g.spec.versions) {shared isolated : List String}
    (rendersShared : (g.storing .shared).versionLines v = .ok shared)
    (rendersIsolated : (g.storing .isolated).versionLines v = .ok isolated) :
    SameApi g.settings.errorCheck v shared isolated
      ((g.storing .shared).interopLines v.family (interopCommands g.spec.versions v.family)) := by
  have aliases := Generator.aliasSection_versionLines rendersShared
  have constants := Generator.constantSection_versionLines rendersShared
  have commands := Generator.commandSection_versionLines rendersIsolated
  have prototypes := Generator.prototypeSection_versionLines rendersIsolated rfl
  have helpers := Generator.helperSection_versionLines rendersIsolated rfl
  refine ⟨?_, ⟨?_, ?_⟩, ⟨aliases, ?_⟩, ⟨constants, ?_⟩, ⟨commands, ?_⟩, prototypes, ?_, ?_, ?_, ?_⟩
  · obtain ⟨before, after, split⟩ := exists_apiLines_split g.settings.errorCheck v
    refine ⟨before, after, ?_, ?_⟩
    · rw [Generator.apiSection_versionLines rendersShared]
      exact split _
    · rw [Generator.apiSection_versionLines rendersIsolated]
      exact split _
  · rw [Generator.interopLines_eq]
    exact class_mem_table []
  · obtain ⟨front, rest, -, rfl⟩ := Generator.exists_table_of_isolated rendersIsolated rfl
    exact class_mem_table rest
  · rw [aliases]
    exact Generator.aliasSection_versionLines rendersIsolated
  · exact eq_of_constantLines (Generator.constantSection_versionLines rendersIsolated) constants
  · rw [commands]
    exact Generator.commandSection_versionLines rendersShared
  · rw [prototypes, Generator.prototypeSection_interopLines]
    intro entry listed
    obtain ⟨c, offers, rfl⟩ := List.mem_map.1 listed
    exact count_prototypeEntry agree member offers
  · rw [helpers, Generator.helperSection_interopLines]
    rfl
  · rw [helpers]
    generalize (g.storing .isolated).settings.errorCheck = checked
    cases checked <;> decide
  · rw [helpers]
    change _ ∈ (storageHelpers g.settings.errorCheck).drop 2 ++ _ ↔ _
    cases g.settings.errorCheck <;> decide

end Bindings

open Bindings (Generator SameApi)

/-- **However the modules of a loaded specification store, they offer the same.** -/
theorem sameApi_of_load {bytes : List UInt8} {profile : String} {g : Generator}
    (loaded : Spec.load bytes profile = .ok g.spec) {v : Version} (member : v ∈ g.spec.versions)
    {storage : Storage} {lines : List String}
    (renders : (g.storing storage).versionLines v = .ok lines) :
    ∃ shared isolated,
      (g.storing .shared).versionLines v = .ok shared ∧
      (g.storing .isolated).versionLines v = .ok isolated ∧
      SameApi g.settings.errorCheck v shared isolated
        ((g.storing .shared).interopLines v.family
          (interopCommands g.spec.versions v.family)) := by
  obtain ⟨shared, rendersShared⟩ := Bindings.exists_versionLines_storing renders .shared
  obtain ⟨isolated, rendersIsolated⟩ := Bindings.exists_versionLines_storing renders .isolated
  exact ⟨shared, isolated, rendersShared, rendersIsolated,
    Bindings.sameApi (agree_of_load loaded) member rendersShared rendersIsolated⟩

/-- The modules of both versions of a document, in either way of storing; both declare an alias and
define constants. -/
theorem sameApi_of_load_sample :
    Spec.load Sample.bytes = .ok Sample.spec ∧
      ∀ v ∈ Sample.spec.versions, Bindings.aliasKeywords v.commands = ["T"] ∧ v.constants ≠ [] ∧
        ∃ shared isolated,
          (Generator.storing { spec := Sample.spec } .shared).versionLines v = .ok shared ∧
          (Generator.storing { spec := Sample.spec } .isolated).versionLines v = .ok isolated ∧
          SameApi true v shared isolated
            ((Generator.storing { spec := Sample.spec } .shared).interopLines v.family
              (interopCommands Sample.spec.versions v.family)) := by
  have aliased : ∀ v ∈ Sample.spec.versions, Bindings.aliasKeywords v.commands = ["T"] := by
    decide +kernel
  have constants : ∀ v ∈ Sample.spec.versions, v.constants ≠ [] := by decide
  have defined : ∀ v ∈ Sample.spec.versions, ∃ definitions,
      Bindings.constantLines v.constants = .ok definitions := by
    rw [Sample.spec]
    simp only [List.forall_mem_cons]
    exact ⟨⟨_, rfl⟩, ⟨_, rfl⟩, List.forall_mem_nil _⟩
  refine ⟨Sample.load_bytes, fun v member => ⟨aliased v member, constants v member, ?_⟩⟩
  obtain ⟨definitions, defined⟩ := defined v member
  have renders := Generator.versionLines_eq_ok_iff
    (g := Generator.storing { spec := Sample.spec } .shared).2 ⟨definitions, defined, rfl⟩
  exact sameApi_of_load (g := { spec := Sample.spec }) Sample.load_bytes member renders

end GLBindings
