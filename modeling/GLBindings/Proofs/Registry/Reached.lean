/-
# Registries that reading leads to

Stages of reading may be taken in any order, on any documents, any number of times, and one that
fails leaves what it has read so far.  `Reached` are the registries that come about in this way.  In
all of them things are filed under their own names (`Reached.wellKeyed`), so looking a name up gives
a thing of that name.
-/
import GLBindings.Registry.Basic

namespace GLBindings.Registry

open Xml (Element)

set_option autoImplicit false

inductive Stage where
  | notice
  | constants
  | commands
  | features (profile : String)

def Stage.read (registry : Registry) (root : Element) : Stage → Reading
  | .notice => { registry := registry.readNotice root }
  | .constants => { registry := registry.readConstants root }
  | .commands => registry.readCommands root
  | .features profile => registry.readFeatures root profile

/-- The registries that stages lead to, whether they succeed or not. -/
inductive Reached : Registry → Prop where
  | fresh : Reached {}
  | stage {registry : Registry} (reached : Reached registry) (stage : Stage) (root : Element) :
      Reached (stage.read registry root).registry

/-! ## What stages leave alone -/

theorem exists_readNotice_eq (registry : Registry) (root : Element) :
    ∃ notice, registry.readNotice root = { registry with notice } := by
  rw [readNotice]
  split
  · exact ⟨registry.notice, rfl⟩
  · split
    · exact ⟨registry.notice, rfl⟩
    · exact ⟨_, rfl⟩

theorem exists_readEachCommand_eq (registry : Registry) (elements : List Element) :
    ∃ commands, (registry.readEachCommand elements).registry = { registry with commands } := by
  induction elements generalizing registry with
  | nil => exact ⟨registry.commands, rfl⟩
  | cons e rest ih =>
      rw [readEachCommand]
      split
      · exact ⟨registry.commands, rfl⟩
      · obtain ⟨commands, same⟩ := ih { registry with commands := _ }
        exact ⟨commands, same⟩

/-! ## Things under their names -/

/-- A declaration changes what is on file under its own name only. -/
theorem find?_declareConstant (constants : Keyed String (Keyed (Option String) Constant))
    (declared : Option String × Constant) (name : String) :
    (declareConstant constants declared).find? name =
      if name = declared.2.name then
        some (((constants.find? declared.2.name).getD []).addNew declared.1 declared.2)
      else constants.find? name :=
  Keyed.find?_put _ _ _ _

/-- Everything is filed under its own name. -/
structure WellKeyed (registry : Registry) : Prop where
  commands : ∀ entry ∈ registry.commands, entry.2.name = entry.1
  constants : ∀ entry ∈ registry.constants, ∀ declared ∈ entry.2, declared.2.name = entry.1

namespace WellKeyed

variable {registry : Registry}

theorem putCommand (keyed : registry.WellKeyed) (command : Command) :
    WellKeyed { registry with commands := registry.commands.put command.name command } where
  commands := by
    intro entry member
    rcases Keyed.eq_or_mem_of_mem_put member with rfl | old
    · rfl
    · exact keyed.commands entry old
  constants := keyed.constants

theorem readEachCommand (keyed : registry.WellKeyed) (elements : List Element) :
    (registry.readEachCommand elements).registry.WellKeyed := by
  induction elements generalizing registry with
  | nil => exact keyed
  | cons e rest ih =>
      rw [Registry.readEachCommand]
      split
      · exact keyed
      · exact ih (keyed.putCommand _)

theorem declareConstant {constants : Keyed String (Keyed (Option String) Constant)}
    (keyed : ∀ entry ∈ constants, ∀ declared ∈ entry.2, declared.2.name = entry.1)
    (declaration : Option String × Constant) :
    ∀ entry ∈ Registry.declareConstant constants declaration,
      ∀ declared ∈ entry.2, declared.2.name = entry.1 := by
  obtain ⟨api, constant⟩ := declaration
  intro entry member declared inside
  rcases Keyed.eq_or_mem_of_mem_put member with rfl | old
  · rcases Keyed.eq_or_mem_of_mem_addNew inside with rfl | before
    · rfl
    · cases found : constants.find? constant.name with
      | none => simp [found] at before
      | some byApi =>
          rw [found] at before
          exact keyed _ (Keyed.mem_of_find? found) declared before
  · exact keyed entry old declared inside

theorem foldl_declareConstant {constants : Keyed String (Keyed (Option String) Constant)}
    (keyed : ∀ entry ∈ constants, ∀ declared ∈ entry.2, declared.2.name = entry.1)
    (declarations : List (Option String × Constant)) :
    ∀ entry ∈ declarations.foldl Registry.declareConstant constants,
      ∀ declared ∈ entry.2, declared.2.name = entry.1 := by
  induction declarations generalizing constants with
  | nil => exact keyed
  | cons declaration rest ih => exact ih (declareConstant keyed declaration)

theorem readNotice (keyed : registry.WellKeyed) (root : Element) :
    (registry.readNotice root).WellKeyed := by
  obtain ⟨notice, same⟩ := exists_readNotice_eq registry root
  rw [same]
  exact ⟨keyed.commands, keyed.constants⟩

/-- What one stage keeps. -/
theorem read (keyed : registry.WellKeyed) (root : Element) (stage : Stage) :
    (stage.read registry root).registry.WellKeyed := by
  cases stage with
  | notice => exact keyed.readNotice root
  | constants => exact ⟨keyed.commands, foldl_declareConstant keyed.constants _⟩
  | commands => exact keyed.readEachCommand _
  | features profile => exact ⟨keyed.commands, keyed.constants⟩

end WellKeyed

/-- However a registry was reached, everything in it is filed under its own name. -/
theorem Reached.wellKeyed {registry : Registry} (reached : Reached registry) :
    registry.WellKeyed := by
  induction reached with
  | fresh =>
      constructor
      · intro entry member
        cases member
      · intro entry member
        cases member
  | stage _ stage root ih => exact ih.read root stage

/-! ## Looking up -/

theorem lookupCommand_eq_ok_iff {registry : Registry} {name : Option String} {command : Command} :
    registry.lookupCommand name = .ok command ↔
      name.bind registry.commands.find? = some command := by
  rw [lookupCommand]
  split
  · rename_i found
    simp [found]
  · rename_i absent
    simp [absent]

/-- A command that is found bears the name it was looked for under. -/
theorem WellKeyed.name_of_lookupCommand {registry : Registry} (keyed : registry.WellKeyed)
    {name : Option String} {command : Command}
    (found : registry.lookupCommand name = .ok command) : some command.name = name := by
  obtain ⟨key, rfl, filed⟩ := Option.bind_eq_some_iff.1 (lookupCommand_eq_ok_iff.1 found)
  exact congrArg some (keyed.commands _ (Keyed.mem_of_find? filed))

theorem WellKeyed.name_of_lookupConstant {registry : Registry} (keyed : registry.WellKeyed)
    {api name : Option String} {constant : Constant}
    (found : registry.lookupConstant api name = .ok constant) : some constant.name = name := by
  rw [lookupConstant] at found
  split at found
  · cases found
  · rename_i byApi bound
    obtain ⟨key, rfl, filed⟩ := Option.bind_eq_some_iff.1 bound
    have named := keyed.constants _ (Keyed.mem_of_find? filed)
    split at found
    · rename_i chosen which
      cases found
      -- each of the three ways to choose takes an entry of the name's own list
      rw [Option.or_eq_some_iff, Option.or_eq_some_iff] at which
      rcases which with forApi | ⟨-, forEvery | ⟨-, first⟩⟩
      · exact congrArg some (named _ (Keyed.mem_of_find? forApi))
      · exact congrArg some (named _ (Keyed.mem_of_find? forEvery))
      · obtain ⟨entry, front, rfl⟩ := Option.map_eq_some_iff.1 first
        exact congrArg some (named entry (List.mem_of_head? front))
    · cases found

end GLBindings.Registry
