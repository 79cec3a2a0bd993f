/-
# What is on file

Any number of documents may be read, for their constants, their commands or anything else, and a
reading may stop half way.  What is then on file can be told from the declarations alone, in the
order in which they have been read.

* `lookupConstant_of_run`: of the declarations of a constant that one counts which came first for
  the api that asks, else the first for no api, else the first of all.
* `commands_of_run`: commands stand in the order in which their names came first, each as it was
  declared last.  Reading commands stops at the first that cannot be read, leaves what was read
  before it, and when it succeeds would change nothing if it were done again.
-/
import GLBindings.Proofs.Registry.Filing
import GLBindings.Proofs.Registry.Invariant

namespace GLBindings.Registry

open Xml (Element)

set_option autoImplicit false

/-! ## Documents -/

/-- The kind of things that a stage reads the declarations of. -/
def Stage.kind? : Stage → Option Kind
  | .constants => some .constant
  | .commands => some .command
  | _ => none

/-- The documents that declarations of a kind have been read from, in the order of reading. -/
def documentsOf (kind : Kind) (calls : List (Stage × Element)) : List Element :=
  (calls.filter (·.1.kind? = some kind)).map Prod.snd

/-- What the stages for a kind file, and the others leave alone, is filed by a whole run. -/
theorem table_of_run {τ ε : Type} {table : Registry → τ} {file : τ → ε → τ}
    {entries : Element → List ε} {kind : Kind}
    (files : ∀ (registry : Registry) (root : Element) (stage : Stage), stage.kind? = some kind →
      table (stage.read registry root).registry = (entries root).foldl file (table registry))
    (leaves : ∀ (registry : Registry) (root : Element) (stage : Stage), stage.kind? ≠ some kind →
      table (stage.read registry root).registry = table registry)
    (calls : List (Stage × Element)) :
    table (run calls) = ((documentsOf kind calls).flatMap entries).foldl file (table {}) := by
  rw [run]
  generalize ({} : Registry) = registry
  induction calls generalizing registry with
  | nil => rfl
  | cons call rest ih =>
      rw [List.foldl_cons, ih, documentsOf, documentsOf]
      by_cases own : call.1.kind? = some kind
      · rw [List.filter_cons_of_pos (by simpa using own), List.map_cons, List.flatMap_cons,
          List.foldl_append, files registry call.2 call.1 own]
      · rw [List.filter_cons_of_neg (by simpa using own), leaves registry call.2 call.1 own]

/-! ## Constants -/

/-- The declarations of constants in a document that count: those with a name and a value. -/
def constantElements (root : Element) : List Element :=
  ((root.childrenNamed "enums").flatMap (·.childrenNamed "enum")).filter fun e =>
    (e.attribute? "name").any (· ≠ "") && (e.attribute? "value").any (· ≠ "")

def constantsRead (calls : List (Stage × Element)) : List Element :=
  (documentsOf .constant calls).flatMap constantElements

/-- The declaration of a name that counts for an api: the first for the api, else the first for no
api, else the first of all. -/
def declarationFor (declarations : List Element) (name : String) (api : Option String) :
    Option Element :=
  let own := declarations.filter fun e => e.attribute? "name" = some name
  (own.find? fun e => e.attribute? "api" = api).or
    ((own.find? fun e => e.attribute? "api" = none).or own.head?)

def constantIn (e : Element) : Constant where
  name := (e.attribute? "name").getD ""
  value := (e.attribute? "value").getD ""

theorem declaredConstants_eq (root : Element) :
    declaredConstants root =
      (constantElements root).map fun e => (e.attribute? "api", constantIn e) := by
  rw [declaredConstants, constantElements, ← List.filterMap_eq_map, List.filterMap_filter]
  apply List.filterMap_congr
  intro e _
  rw [constantOf?]
  cases name : e.attribute? "name" with
  | none => simp
  | some n =>
      cases value : e.attribute? "value" with
      | none => simp
      | some v =>
          by_cases blank : n = "" ∨ v = ""
          · rcases blank with rfl | rfl <;> simp
          · obtain ⟨hn, hv⟩ := not_or.1 blank
            simp [hn, hv, constantIn, name, value]

/-- All that is on file under a name are the declarations of that name. -/
theorem find?_foldl_declareConstant_eq (declared : List (Option String × Constant)) (name : String)
    (constants : Keyed String (Keyed (Option String) Constant)) :
    (declared.foldl declareConstant constants).find? name =
      match declared.filter (·.2.name = name) with
      | [] => constants.find? name
      | own => some (Keyed.addAll ((constants.find? name).getD []) own) := by
  induction declared generalizing constants with
  | nil => rfl
  | cons entry rest ih =>
      rw [List.foldl_cons, ih, find?_declareConstant]
      by_cases own : entry.2.name = name
      · subst own
        rw [if_pos rfl, List.filter_cons_of_pos (by simp)]
        cases rest.filter (·.2.name = entry.2.name) with
        | nil => rfl
        | cons next others => rfl
      · rw [if_neg (Ne.symm own), List.filter_cons_of_neg (by simpa using own)]

/-- Looking a constant up among declarations of its name. -/
theorem lookupConstant_eq {registry : Registry} {declared : List (Option String × Constant)}
    (filed : registry.constants = declared.foldl declareConstant []) (name : String)
    (api : Option String) {own : Keyed (Option String) Constant}
    (named : declared.filter (·.2.name = name) = own) :
    registry.lookupConstant api (some name) =
      match (own.find? api).or ((own.find? none).or (own.head?.map Prod.snd)) with
      | some constant => .ok constant
      | none => .error (.undeclaredConstant (some name)) := by
  have nothing : Keyed.find? ([] : Keyed String (Keyed (Option String) Constant)) name = none := rfl
  rw [lookupConstant, Option.bind_some, filed, find?_foldl_declareConstant_eq, named, nothing]
  cases own with
  | nil => rfl
  | cons first others =>
      simp only [Option.getD_none, Keyed.find?_addAll, Keyed.head?_addAll]
      rfl

/-- Of the stages only those that read constants bear on them. -/
theorem constants_eq_foldl (calls : List (Stage × Element)) :
    (run calls).constants = ((documentsOf .constant calls).flatMap declaredConstants).foldl
      declareConstant [] := by
  refine table_of_run ?_ ?_ calls
  · intro registry root stage own
    cases stage with
    | constants => rfl
    | notice => cases own
    | commands => cases own
    | features profile => cases own
  · intro registry root stage other
    cases stage with
    | constants => exact absurd rfl other
    | notice =>
        obtain ⟨notice, same⟩ := exists_readNotice_eq registry root
        rw [Stage.read, same]
    | commands =>
        obtain ⟨commands, same⟩ := exists_readEachCommand_eq registry (commandElements root)
        rw [Stage.read, readCommands, same]
    | features profile => rfl

theorem exists_value_of_mem_constantsRead {calls : List (Stage × Element)} {e : Element}
    (member : e ∈ constantsRead calls) :
    e.attribute? "name" = some (constantIn e).name ∧
      e.attribute? "value" = some (constantIn e).value := by
  rw [constantsRead, List.mem_flatMap] at member
  obtain ⟨root, -, member⟩ := member
  rw [constantElements, List.mem_filter] at member
  obtain ⟨-, declares⟩ := member
  rw [constantIn]
  cases name : e.attribute? "name" with
  | none => simp [name] at declares
  | some n =>
      cases value : e.attribute? "value" with
      | none => simp [value] at declares
      | some v => exact ⟨rfl, rfl⟩

/-- A constant is found by the declaration that counts for the api. -/
theorem lookupConstant_eq_declarationFor (calls : List (Stage × Element)) (name : String)
    (api : Option String) :
    (run calls).lookupConstant api (some name) =
      match declarationFor (constantsRead calls) name api with
      | some e => .ok (constantIn e)
      | none => .error (.undeclaredConstant (some name)) := by
  have declared : (documentsOf .constant calls).flatMap declaredConstants =
      (constantsRead calls).map fun e => (e.attribute? "api", constantIn e) := by
    rw [constantsRead, List.map_flatMap]
    exact List.flatMap_congr fun root _ => declaredConstants_eq root
  -- What is filed under the name are the declarations of it, in the order of reading.
  have own : ((constantsRead calls).map fun e => (e.attribute? "api", constantIn e)).filter
      (·.2.name = name) =
      ((constantsRead calls).filter fun e => e.attribute? "name" = some name).map
        fun e => (e.attribute? "api", constantIn e) := by
    rw [List.filter_map]
    congr 1
    apply List.filter_congr
    intro e member
    rw [(exists_value_of_mem_constantsRead member).1]
    simp
  have constantOf : (Prod.snd ∘ fun e : Element => (e.attribute? "api", constantIn e)) =
      constantIn := rfl
  rw [lookupConstant_eq ((constants_eq_foldl calls).trans (congrArg _ declared)) name api own,
    Keyed.find?_map, Keyed.find?_map, List.head?_map, Option.map_map, constantOf, ← Option.map_or,
    ← Option.map_or]
  rw [← declarationFor]
  cases declarationFor (constantsRead calls) name api with
  | none => rfl
  | some e => rfl

theorem declarationFor_eq_none_iff {declarations : List Element} {name : String}
    {api : Option String} :
    declarationFor declarations name api = none ↔
      ∀ e ∈ declarations, e.attribute? "name" ≠ some name := by
  simp only [declarationFor, Option.or_eq_none_iff, List.head?_eq_none_iff, List.filter_eq_nil_iff,
    decide_eq_true_eq]
  constructor
  · exact fun none => none.2.2
  · intro other
    have nothing : declarations.filter (fun e => e.attribute? "name" = some name) = [] := by
      simpa using other
    rw [nothing]
    exact ⟨rfl, rfl, other⟩

theorem mem_of_declarationFor {declarations : List Element} {name : String} {api : Option String}
    {e : Element} (counts : declarationFor declarations name api = some e) :
    e ∈ declarations ∧ e.attribute? "name" = some name := by
  have own : e ∈ declarations.filter fun e => e.attribute? "name" = some name := by
    simp only [declarationFor, Option.or_eq_some_iff] at counts
    rcases counts with forApi | ⟨-, forNone | ⟨-, first⟩⟩
    · exact List.mem_of_find?_eq_some forApi
    · exact List.mem_of_find?_eq_some forNone
    · exact List.mem_of_head? first
  simpa using own

/-- **Of all declarations of a constant the one that counts decides its value.** -/
theorem lookupConstant_of_run (calls : List (Stage × Element)) (name : String)
    (api : Option String) :
    (∀ error, (run calls).lookupConstant api (some name) = .error error ↔
      (∀ e ∈ constantsRead calls, e.attribute? "name" ≠ some name) ∧
        error = .undeclaredConstant (some name)) ∧
    ∀ constant, (run calls).lookupConstant api (some name) = .ok constant ↔
      ∃ e, declarationFor (constantsRead calls) name api = some e ∧
        constant.name = name ∧ e.attribute? "value" = some constant.value := by
  rw [lookupConstant_eq_declarationFor]
  constructor
  · intro error
    rw [← @declarationFor_eq_none_iff _ _ api]
    cases declarationFor (constantsRead calls) name api with
    | none => simp [eq_comm]
    | some e => simp
  · intro constant
    cases counts : declarationFor (constantsRead calls) name api with
    | none => simp
    | some e =>
        obtain ⟨member, named⟩ := mem_of_declarationFor counts
        obtain ⟨own, value⟩ := exists_value_of_mem_constantsRead member
        obtain rfl : (constantIn e).name = name := Option.some.inj (own.symm.trans named)
        constructor
        · intro same
          cases same
          exact ⟨e, rfl, rfl, value⟩
        · rintro ⟨_, same, sameName, sameValue⟩
          cases same
          obtain ⟨n, v⟩ := constant
          subst sameName
          obtain rfl : (constantIn e).value = v := Option.some.inj (value.symm.trans sameValue)
          rfl

/-! ## Commands -/

/-- The commands that are read from some elements, up to the first that cannot be read. -/
def commandsOf (elements : List Element) : List Command :=
  (elements.takeWhile fun e => (readCommand e).isOk).filterMap fun e => (readCommand e).toOption

def stops (elements : List Element) : Option ReadError :=
  match elements.mapM readCommand with
  | .ok _ => none
  | .error failure => some failure

def commandsRead (calls : List (Stage × Element)) : List Command :=
  (documentsOf .command calls).flatMap fun root => commandsOf (commandElements root)

def byName (commands : List Command) : Keyed String Command := commands.map fun c => (c.name, c)

theorem commandsOf_cons_of_ok {e : Element} {command : Command} (read : readCommand e = .ok command)
    (rest : List Element) : commandsOf (e :: rest) = command :: commandsOf rest := by
  rw [commandsOf, List.takeWhile_cons_of_pos (by rw [read]; rfl),
    List.filterMap_cons_some (by rw [read]; rfl), commandsOf]

theorem commandsOf_cons_of_error {e : Element} {failure : ReadError}
    (read : readCommand e = .error failure) (rest : List Element) :
    commandsOf (e :: rest) = [] := by
  have fails : ¬ (readCommand e).isOk = true := by
    rw [read]
    exact Bool.false_ne_true
  rw [commandsOf, List.takeWhile_cons_of_neg (p := fun e => (readCommand e).isOk) fails,
    List.filterMap_nil]

theorem stops_cons_of_ok {e : Element} {command : Command} (read : readCommand e = .ok command)
    (rest : List Element) : stops (e :: rest) = stops rest := by
  rw [stops, stops, List.mapM_cons, read]
  cases rest.mapM readCommand <;> rfl

theorem stops_cons_of_error {e : Element} {failure : ReadError}
    (read : readCommand e = .error failure) (rest : List Element) :
    stops (e :: rest) = some failure := by
  rw [stops, List.mapM_cons, read]
  rfl

/-- Reading commands files those that come before the first that cannot be read. -/
theorem readEachCommand_eq (registry : Registry) (elements : List Element) :
    registry.readEachCommand elements = {
      registry := { registry with
        commands := registry.commands.putAll (byName (commandsOf elements)) }
      failure := stops elements } := by
  induction elements generalizing registry with
  | nil => rfl
  | cons e rest ih =>
      rw [readEachCommand]
      cases read : readCommand e with
      | error failure =>
          rw [commandsOf_cons_of_error read, stops_cons_of_error read]
          rfl
      | ok command =>
          rw [commandsOf_cons_of_ok read, stops_cons_of_ok read]
          exact ih _

/-- Reading stops at the first command that cannot be read. -/
theorem stops_eq_some_iff {elements : List Element} {failure : ReadError} :
    stops elements = some failure ↔ ∃ before e after, elements = before ++ e :: after ∧
      (∀ d ∈ before, ∃ command, readCommand d = .ok command) ∧ readCommand e = .error failure := by
  rw [← mapM_eq_error_iff, stops]
  cases elements.mapM readCommand with
  | error other => simp
  | ok commands => simp

/-- Nothing is read behind an element that cannot be read. -/
theorem commandsOf_append_of_error {e : Element} {failure : ReadError}
    (read : readCommand e = .error failure) (before after : List Element) :
    commandsOf (before ++ e :: after) = commandsOf before := by
  induction before with
  | nil => exact commandsOf_cons_of_error read after
  | cons d before ih =>
      cases first : readCommand d with
      | error other =>
          rw [List.cons_append, commandsOf_cons_of_error first, commandsOf_cons_of_error first]
      | ok command =>
          rw [List.cons_append, commandsOf_cons_of_ok first, commandsOf_cons_of_ok first, ih]

/-- A command that is declared again takes the place of the earlier one. -/
theorem commands_eq_putAll (calls : List (Stage × Element)) :
    (run calls).commands = Keyed.putAll [] (byName (commandsRead calls)) := by
  have filed : (run calls).commands = ((documentsOf .command calls).flatMap
      fun root => byName (commandsOf (commandElements root))).foldl
        (fun filed entry => Keyed.put filed entry.1 entry.2) [] := by
    refine table_of_run ?_ ?_ calls
    · intro registry root stage own
      cases stage with
      | commands =>
          rw [Stage.read, readCommands, readEachCommand_eq]
          rfl
      | notice => cases own
      | constants => cases own
      | features profile => cases own
    · intro registry root stage other
      cases stage with
      | commands => exact absurd rfl other
      | notice =>
          obtain ⟨notice, same⟩ := exists_readNotice_eq registry root
          rw [Stage.read, same]
      | constants => rfl
      | features profile => rfl
  rw [filed, byName, commandsRead, List.map_flatMap]
  rfl

/-- What reading the commands of a document comes to. -/
structure ReadsCommands (registry : Registry) (root : Element) : Prop where
  /-- It fails as the first of the elements does that cannot be read. -/
  failure : ∀ failure, (registry.readCommands root).failure = some failure ↔
    ∃ before e after, commandElements root = before ++ e :: after ∧
      (∀ d ∈ before, ∃ command, readCommand d = .ok command) ∧ readCommand e = .error failure
  /-- Nothing behind that element is read. -/
  behind : ∀ before e after failure, commandElements root = before ++ e :: after →
    readCommand e = .error failure →
      (registry.readCommands root).registry = (registry.readEachCommand before).registry
  /-- Nothing but the commands changes. -/
  others : (registry.readCommands root).registry =
    { registry with commands := (registry.readCommands root).registry.commands }
  /-- Reading them once more comes to the same. -/
  again : (registry.readCommands root).registry.readCommands root = registry.readCommands root

theorem readsCommands {registry : Registry} (distinct : registry.commands.keys.Nodup)
    (root : Element) : ReadsCommands registry root where
  failure failure := by
    rw [readCommands, readEachCommand_eq]
    exact stops_eq_some_iff
  behind before e after failure split read := by
    rw [readCommands, readEachCommand_eq, readEachCommand_eq, split,
      commandsOf_append_of_error read]
  others := by rw [readCommands, readEachCommand_eq]
  again := by
    simp only [readCommands, readEachCommand_eq]
    rw [Keyed.putAll_putAll distinct]

/-- **Commands are filed in the order of their first declarations, as their last ones say.** -/
theorem commands_of_run (calls : List (Stage × Element)) :
    (run calls).commands.keys = ((commandsRead calls).map Command.name).eraseDups ∧
    (∀ name, (run calls).commands.find? name =
      ((commandsRead calls).filter (·.name = name)).getLast?) ∧
    ∀ root, ReadsCommands (run calls) root := by
  have nothing : (Keyed.keys ([] : Keyed String Command)).Nodup := List.nodup_nil
  rw [commands_eq_putAll]
  refine ⟨?_, ?_, ?_⟩
  · rw [Keyed.keys_putAll nothing, byName]
    exact congrArg List.eraseDups List.map_map
  · intro name
    rw [Keyed.find?_putAll, byName, ← List.map_reverse, Keyed.find?_map,
      List.getLast?_eq_head?_reverse, ← List.filter_reverse, List.head?_filter]
    exact Option.or_none.trans Option.map_id'
  · apply readsCommands
    rw [commands_eq_putAll]
    exact Keyed.nodup_keys_putAll nothing _

end GLBindings.Registry
