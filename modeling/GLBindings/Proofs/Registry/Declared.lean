/-
# Declared names

A name is declared when a registry has something on file under it; a missing name never is.  In the
registries that reading leads to, no name is on file without a declaration (`Reached.filled`), so
looking a name up fails exactly when it is not declared, and making a version fails for the first
live name that is not: constants are looked up first, then commands (`version_eq_error_iff`).
-/
import GLBindings.Proofs.Registry.Timeline

namespace GLBindings

open Registry (Kind)

set_option autoImplicit false

def RegistryError.undeclared : Kind → Option String → RegistryError
  | .constant => .undeclaredConstant
  | .command => .undeclaredCommand

theorem RegistryError.message_undeclared (kind : Kind) (name : Option String) :
    (undeclared kind name).message =
      "Feature requires undeclared " ++ kind.tag ++ " " ++ name.getD "None" := by
  cases kind <;> rfl

namespace Registry

open Xml (Element)

/-! ## Names on file -/

def declaredNames (registry : Registry) : Kind → List String
  | .constant => registry.constants.keys
  | .command => registry.commands.keys

def Declares (registry : Registry) (kind : Kind) (name : Option String) : Prop :=
  ∃ key ∈ registry.declaredNames kind, name = some key

theorem bind_find?_eq_none_iff {ν : Type} {entries : Keyed String ν} {name : Option String} :
    name.bind entries.find? = none ↔ ¬ ∃ key ∈ entries.keys, name = some key := by
  cases name with
  | none => simp
  | some key => simp [Keyed.find?_eq_none_iff]

/-- A command is not found exactly where its name is undeclared. -/
theorem lookupCommand_eq_error_iff {registry : Registry} {name : Option String}
    {error : RegistryError} :
    registry.lookupCommand name = .error error ↔
      ¬ registry.Declares .command name ∧ error = .undeclared .command name := by
  have known := @bind_find?_eq_none_iff Command registry.commands name
  rw [Declares, declaredNames, ← known, lookupCommand]
  cases name.bind registry.commands.find? with
  | none => simp [RegistryError.undeclared, eq_comm]
  | some command => simp

/-- Every name of a constant that is on file has been declared for some api. -/
def Filled (constants : Keyed String (Keyed (Option String) Constant)) : Prop :=
  ∀ entry ∈ constants, entry.2 ≠ []

theorem lookupConstant_eq_error_iff {registry : Registry} (filled : Filled registry.constants)
    {api name : Option String} {error : RegistryError} :
    registry.lookupConstant api name = .error error ↔
      ¬ registry.Declares .constant name ∧ error = .undeclared .constant name := by
  have known := @bind_find?_eq_none_iff _ registry.constants name
  rw [Declares, declaredNames, ← known, lookupConstant]
  cases bound : name.bind registry.constants.find? with
  | none => simp [RegistryError.undeclared, eq_comm]
  | some byApi =>
      obtain ⟨key, -, filed⟩ := Option.bind_eq_some_iff.1 bound
      -- what is on file under the name is not empty, so one of the three choices is there
      have chosen : ∃ constant, (byApi.find? api).or
          ((byApi.find? none).or (byApi.head?.map Prod.snd)) = some constant := by
        cases byApi with
        | nil => exact absurd rfl (filled _ (Keyed.mem_of_find? filed))
        | cons first others =>
            rw [← Option.isSome_iff_exists]
            simp
      obtain ⟨constant, chosen⟩ := chosen
      dsimp only
      rw [chosen]
      simp

/-! ## What reading puts on file -/

theorem Filled.declareConstant {constants : Keyed String (Keyed (Option String) Constant)}
    (filled : Filled constants) (declared : Option String × Constant) :
    Filled (Registry.declareConstant constants declared) := by
  obtain ⟨api, constant⟩ := declared
  intro entry member
  rcases Keyed.eq_or_mem_of_mem_put member with rfl | old
  · exact Keyed.addNew_ne_nil _ _ _
  · exact filled entry old

theorem Filled.foldl_declareConstant {constants : Keyed String (Keyed (Option String) Constant)}
    (filled : Filled constants) (declarations : List (Option String × Constant)) :
    Filled (declarations.foldl Registry.declareConstant constants) := by
  induction declarations generalizing constants with
  | nil => exact filled
  | cons declared rest ih => exact ih (filled.declareConstant declared)

/-- What one stage keeps. -/
theorem Filled.read {registry : Registry} (filled : Filled registry.constants) (root : Element)
    (stage : Stage) : Filled (stage.read registry root).registry.constants := by
  cases stage with
  | notice =>
      obtain ⟨notice, same⟩ := exists_readNotice_eq registry root
      rw [Stage.read, same]
      exact filled
  | constants => exact filled.foldl_declareConstant _
  | commands =>
      obtain ⟨commands, same⟩ := exists_readEachCommand_eq registry (commandElements root)
      rw [Stage.read, readCommands, same]
      exact filled
  | features profile => exact filled

/-- However a registry was reached, each name of a constant on file has a declaration. -/
theorem Reached.filled {registry : Registry} (reached : Reached registry) :
    Filled registry.constants := by
  induction reached with
  | fresh =>
      intro entry member
      cases member
  | stage _ stage root ih => exact ih.read root stage

/-! ## Versions -/

/-- The name is the first of the names under which nothing is declared. -/
def IsFirstUndeclared (registry : Registry) (kind : Kind) (names : List (Option String))
    (name : Option String) : Prop :=
  ∃ before after, names = before ++ name :: after ∧
    (∀ other ∈ before, registry.Declares kind other) ∧ ¬ registry.Declares kind name

section Lookup

variable {registry : Registry} {kind : Kind} {α : Type}
  {lookup : Option String → Except RegistryError α}

/-- A lookup that fails for undeclared names succeeds for the others. -/
theorem exists_lookup_iff
    (fails : ∀ name error, lookup name = .error error ↔
      ¬ registry.Declares kind name ∧ error = .undeclared kind name) (name : Option String) :
    (∃ thing, lookup name = .ok thing) ↔ registry.Declares kind name := by
  cases found : lookup name with
  | error error => simp [((fails name error).1 found).1]
  | ok thing =>
      simp only [Except.ok.injEq, exists_eq', true_iff]
      by_contra undeclared
      have impossible := (fails name _).2 ⟨undeclared, rfl⟩
      rw [found] at impossible
      cases impossible

/-- The first name that is undeclared gives the failure. -/
theorem mapM_lookup_eq_error_iff
    (fails : ∀ name error, lookup name = .error error ↔
      ¬ registry.Declares kind name ∧ error = .undeclared kind name)
    {names : List (Option String)} {error : RegistryError} :
    names.mapM lookup = .error error ↔
      ∃ name, registry.IsFirstUndeclared kind names name ∧ error = .undeclared kind name := by
  rw [mapM_eq_error_iff]
  simp only [exists_lookup_iff fails, fails, IsFirstUndeclared]
  constructor
  · rintro ⟨before, name, after, split, declared, undeclared, rfl⟩
    exact ⟨name, ⟨before, after, split, declared, undeclared⟩, rfl⟩
  · rintro ⟨name, ⟨before, after, split, declared, undeclared⟩, rfl⟩
    exact ⟨before, name, after, split, declared, undeclared, rfl⟩

theorem exists_mapM_lookup_iff
    (fails : ∀ name error, lookup name = .error error ↔
      ¬ registry.Declares kind name ∧ error = .undeclared kind name)
    {names : List (Option String)} :
    (∃ things, names.mapM lookup = .ok things) ↔ ∀ name ∈ names, registry.Declares kind name := by
  simp only [mapM_eq_ok_iff, exists_forall₂_iff, exists_lookup_iff fails]

end Lookup

/-- A version is not made because of the first live name that is undeclared, a constant if there
is such. -/
theorem version_eq_error_iff {registry : Registry} (filled : Filled registry.constants) {api : Api}
    {number : String} {live : Names} {error : RegistryError} :
    registry.version api number live = .error error ↔
      ∃ kind name, registry.IsFirstUndeclared kind (live.of kind) name ∧
        (kind = .command → ∀ other ∈ live.constants, registry.Declares .constant other) ∧
        error = .undeclared kind name := by
  have constants := fun name error =>
    @lookupConstant_eq_error_iff registry filled (some api.name) name error
  have commands := fun name error => @lookupCommand_eq_error_iff registry name error
  simp only [Registry.version, bind_eq_error_iff]
  constructor
  · rintro (first | ⟨things, succeeds, first | ⟨_, -, impossible⟩⟩)
    · obtain ⟨name, isFirst, rfl⟩ := (mapM_lookup_eq_error_iff constants).1 first
      exact ⟨.constant, name, isFirst, by simp, rfl⟩
    · obtain ⟨name, isFirst, rfl⟩ := (mapM_lookup_eq_error_iff commands).1 first
      exact ⟨.command, name, isFirst,
        fun _ => (exists_mapM_lookup_iff constants).1 ⟨things, succeeds⟩, rfl⟩
    · cases impossible
  · rintro ⟨kind, name, isFirst, declared, rfl⟩
    cases kind with
    | constant => exact .inl ((mapM_lookup_eq_error_iff constants).2 ⟨name, isFirst, rfl⟩)
    | command =>
        obtain ⟨things, succeeds⟩ := (exists_mapM_lookup_iff constants).2 (declared rfl)
        exact .inr ⟨things, succeeds,
          .inl ((mapM_lookup_eq_error_iff commands).2 ⟨name, isFirst, rfl⟩)⟩

/-- A version is made exactly when all its live names are declared. -/
theorem exists_version_iff {registry : Registry} (filled : Filled registry.constants) {api : Api}
    {number : String} {live : Names} :
    (∃ version, registry.version api number live = .ok version) ↔
      ∀ kind, ∀ name ∈ live.of kind, registry.Declares kind name := by
  have constants := fun name error =>
    @lookupConstant_eq_error_iff registry filled (some api.name) name error
  have commands := fun name error => @lookupCommand_eq_error_iff registry name error
  simp only [Registry.version, bind_eq_ok_iff]
  constructor
  · rintro ⟨_, things, found, others, found', -⟩ kind
    cases kind with
    | constant => exact (exists_mapM_lookup_iff constants).1 ⟨things, found⟩
    | command => exact (exists_mapM_lookup_iff commands).1 ⟨others, found'⟩
  · intro declared
    obtain ⟨things, found⟩ := (exists_mapM_lookup_iff constants).2 (declared .constant)
    obtain ⟨others, found'⟩ := (exists_mapM_lookup_iff commands).2 (declared .command)
    exact ⟨_, things, found, others, found', rfl⟩

end Registry

end GLBindings
