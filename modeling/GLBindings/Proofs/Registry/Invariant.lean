/-
# What every registry keeps to

Stages of reading in any order, on any documents, whether they succeed or stop half way, lead to
registries of one form (`Registry.WellFormed`): things are filed once each under the names they
bear, nothing on file is without a name, a value or a spelling, and versions are named by their
family and number and list every name once.  On the way a registry only grows (`Extends`): versions
are added at the end, names on file stay where they are, and a constant that has been declared for
an api keeps its value, while a command may be declared anew.

* `WellFormed.read`, `extends_read`: what one stage keeps.
* `wellFormed_of_run`: what whole runs keep.
-/
import GLBindings.Proofs.Declaration.WellFormed
import GLBindings.Proofs.Registry.Interruption

namespace GLBindings

open Registry (Keyed Kind)

set_option autoImplicit false

/-- The types of the command are well-formed and its parameters have names. -/
structure Command.WellFormed (c : Command) : Prop where
  types : ∀ t ∈ c.types, t.WellFormed
  parameters : ∀ p ∈ c.parameters, p.name ≠ ""

/-- The version is named by its family and the digits of its number, and offers everything once. -/
structure Version.WellFormed (v : Version) : Prop where
  family : v.family = "GL" ∨ v.family = "GLES"
  numbered : v.number ≠ ""
  name : v.name = v.family ++ String.ofList (v.number.toList.filter (· != '.'))
  distinct : ∀ kind, (v.names kind).Nodup
  commands : ∀ c ∈ v.commands, c.WellFormed

namespace Registry

open Xml (Element)

/-- Commands are filed once each, under names that are not empty. -/
structure CommandsFiled (commands : Keyed String Command) : Prop where
  distinct : commands.keys.Nodup
  named : ∀ entry ∈ commands, entry.1 ≠ "" ∧ entry.2.name = entry.1
  wellFormed : ∀ entry ∈ commands, entry.2.WellFormed

/-- Constants are filed once for each name and api, under names that are not empty, and each name is
declared for some api. -/
structure ConstantsFiled (constants : Keyed String (Keyed (Option String) Constant)) : Prop where
  distinct : constants.keys.Nodup
  named : ∀ entry ∈ constants, entry.1 ≠ ""
  declared : ∀ entry ∈ constants, entry.2 ≠ [] ∧ entry.2.keys.Nodup
  values : ∀ entry ∈ constants, ∀ declared ∈ entry.2,
    declared.2.name = entry.1 ∧ declared.2.value ≠ ""

structure WellFormed (registry : Registry) : Prop where
  commands : CommandsFiled registry.commands
  constants : ConstantsFiled registry.constants
  versions : ∀ version ∈ registry.versions, version.WellFormed

def declaredFor? (registry : Registry) (name : String) (api : Option String) : Option Constant :=
  (registry.constants.find? name).bind (Keyed.find? · api)

/-- What is in the one registry is in the other, in the same order, commands perhaps declared
anew. -/
structure Extends (old new : Registry) : Prop where
  versions : old.versions <+: new.versions
  commands : old.commands.keys <+: new.commands.keys
  constants : old.constants.keys <+: new.constants.keys
  declared : ∀ name byApi, old.constants.find? name = some byApi →
    ∃ byApi', new.constants.find? name = some byApi' ∧ byApi <+: byApi'

namespace Extends

theorem refl (registry : Registry) : Extends registry registry where
  versions := List.prefix_refl _
  commands := List.prefix_refl _
  constants := List.prefix_refl _
  declared _ byApi found := ⟨byApi, found, List.prefix_refl byApi⟩

theorem trans {first second third : Registry} (before : Extends first second)
    (after : Extends second third) : Extends first third where
  versions := before.versions.trans after.versions
  commands := before.commands.trans after.commands
  constants := before.constants.trans after.constants
  declared := by
    intro name byApi found
    obtain ⟨byApi', found', front⟩ := before.declared name byApi found
    obtain ⟨byApi'', found'', front'⟩ := after.declared name byApi' found'
    exact ⟨byApi'', found'', front.trans front'⟩

/-- A constant that is declared for an api stays the one declared for it. -/
theorem declaredFor? {old new : Registry} (grown : Extends old new) {name : String}
    {api : Option String} {constant : Constant}
    (found : old.declaredFor? name api = some constant) :
    new.declaredFor? name api = some constant := by
  obtain ⟨byApi, filed, own⟩ := Option.bind_eq_some_iff.1 found
  obtain ⟨byApi', filed', front⟩ := grown.declared name byApi filed
  exact Option.bind_eq_some_iff.2 ⟨byApi', filed', Keyed.find?_of_prefix front own⟩

end Extends

/-! ## Reading commands -/

/-- What filing a command that has been read keeps, reading commands keeps, as far as it gets. -/
theorem readEachCommand_keeps {P : Keyed String Command → Prop}
    (step : ∀ commands e command, P commands → readCommand e = .ok command →
      P (commands.put command.name command))
    {registry : Registry} (start : P registry.commands) (elements : List Element) :
    P (registry.readEachCommand elements).registry.commands := by
  induction elements generalizing registry with
  | nil => exact start
  | cons e rest ih =>
      rw [readEachCommand]
      split
      · exact start
      · rename_i command read
        have next : P (registry.commands.put command.name command) :=
          step _ e command start read
        exact @ih { registry with commands := registry.commands.put command.name command } next

/-- Every type and every name in a command come from a declaration. -/
theorem exists_parse_of_readCommand {e : Element} {c : Command} (read : readCommand e = .ok c) :
    (∃ e', Declaration.parse e' = .ok (c.result, c.name)) ∧
      ∀ p ∈ c.parameters, ∃ e', Declaration.parse e' = .ok (p.type, p.name) := by
  rw [readCommand] at read
  split at read
  · cases read
  · rename_i prototype _
    simp only [bind_eq_ok_iff, mapError_eq_ok_iff, mapM_eq_ok_iff] at read
    obtain ⟨⟨result, name⟩, parsed, parameters, each, made⟩ := read
    cases made
    refine ⟨⟨prototype, parsed⟩, ?_⟩
    intro p member
    obtain ⟨e', -, read⟩ := exists_mem_of_forall₂ each member
    simp only [readParameter, bind_eq_ok_iff] at read
    obtain ⟨⟨type, name⟩, parsed, made⟩ := read
    cases made
    exact ⟨e', parsed⟩

theorem forall_types_of_readCommand {P : TypeRef → Prop}
    (each : ∀ {e : Element} {t : TypeRef} {name : String},
      Declaration.parse e = .ok (t, name) → P t)
    {e : Element} {c : Command} (read : readCommand e = .ok c) : ∀ t ∈ c.types, P t := by
  obtain ⟨⟨_, result⟩, parameters⟩ := exists_parse_of_readCommand read
  rw [Command.types, List.forall_mem_cons, List.forall_mem_map]
  refine ⟨each result, ?_⟩
  intro p member
  obtain ⟨_, parsed⟩ := parameters p member
  exact each parsed

/-- Whatever is read as a command has a name and well-formed types. -/
theorem wellFormed_of_readCommand {e : Element} {c : Command} (read : readCommand e = .ok c) :
    c.WellFormed ∧ c.name ≠ "" := by
  obtain ⟨⟨_, result⟩, parameters⟩ := exists_parse_of_readCommand read
  refine ⟨⟨forall_types_of_readCommand (fun parsed => (Declaration.wellFormed_of_parse parsed).1)
    read, ?_⟩, (Declaration.wellFormed_of_parse result).2⟩
  intro p member
  obtain ⟨_, parsed⟩ := parameters p member
  exact (Declaration.wellFormed_of_parse parsed).2

theorem CommandsFiled.put {commands : Keyed String Command} (filed : CommandsFiled commands)
    {command : Command} (formed : command.WellFormed) (named : command.name ≠ "") :
    CommandsFiled (Keyed.put commands command.name command) where
  distinct := Keyed.nodup_keys_put filed.distinct _ _
  named := by
    intro entry member
    rcases Keyed.eq_or_mem_of_mem_put member with rfl | old
    · exact ⟨named, rfl⟩
    · exact filed.named entry old
  wellFormed := by
    intro entry member
    rcases Keyed.eq_or_mem_of_mem_put member with rfl | old
    · exact formed
    · exact filed.wellFormed entry old

theorem CommandsFiled.readCommands {registry : Registry} (filed : CommandsFiled registry.commands)
    (root : Element) : CommandsFiled (registry.readCommands root).registry.commands := by
  refine readEachCommand_keeps ?_ filed (commandElements root)
  intro commands e command filed read
  obtain ⟨formed, named⟩ := wellFormed_of_readCommand read
  exact filed.put formed named

/-! ## Reading constants -/

theorem ne_empty_of_constantOf? {e : Element} {api : Option String} {constant : Constant}
    (declares : constantOf? e = some (api, constant)) :
    constant.name ≠ "" ∧ constant.value ≠ "" := by
  simp only [constantOf?, Option.bind_eq_bind, Option.bind_eq_some_iff] at declares
  obtain ⟨name, -, value, -, made⟩ := declares
  split at made
  · cases made
  · rename_i nonempty
    cases made
    exact not_or.1 nonempty

theorem ConstantsFiled.declareConstant {constants : Keyed String (Keyed (Option String) Constant)}
    (filed : ConstantsFiled constants) {api : Option String} {constant : Constant}
    (nonempty : constant.name ≠ "" ∧ constant.value ≠ "") :
    ConstantsFiled (Registry.declareConstant constants (api, constant)) := by
  -- what was on file under the name before
  have earlier : ((constants.find? constant.name).getD []).keys.Nodup ∧
      ∀ declared ∈ (constants.find? constant.name).getD [],
        declared.2.name = constant.name ∧ declared.2.value ≠ "" := by
    cases found : constants.find? constant.name with
    | none => exact ⟨List.nodup_nil, by simp⟩
    | some byApi =>
        have member := Keyed.mem_of_find? found
        exact ⟨(filed.declared _ member).2, filed.values _ member⟩
  refine ⟨Keyed.nodup_keys_put filed.distinct _ _, ?_, ?_, ?_⟩
  · intro entry member
    rcases Keyed.eq_or_mem_of_mem_put member with rfl | old
    · exact nonempty.1
    · exact filed.named entry old
  · intro entry member
    rcases Keyed.eq_or_mem_of_mem_put member with rfl | old
    · exact ⟨Keyed.addNew_ne_nil _ _ _, Keyed.nodup_keys_addNew earlier.1 _ _⟩
    · exact filed.declared entry old
  · intro entry member declared inside
    rcases Keyed.eq_or_mem_of_mem_put member with rfl | old
    · rcases Keyed.eq_or_mem_of_mem_addNew inside with rfl | before
      · exact ⟨rfl, nonempty.2⟩
      · exact earlier.2 declared before
    · exact filed.values entry old declared inside

theorem ConstantsFiled.readConstants {registry : Registry}
    (filed : ConstantsFiled registry.constants) (root : Element) :
    ConstantsFiled (registry.readConstants root).constants := by
  refine List.foldlRecOn (declaredConstants root) _ filed ?_
  rintro constants filed ⟨api, constant⟩ member
  obtain ⟨e, -, declares⟩ := List.mem_filterMap.1 member
  exact filed.declareConstant (ne_empty_of_constantOf? declares)

theorem constants_prefix_declareConstant
    (constants : Keyed String (Keyed (Option String) Constant))
    (declared : Option String × Constant) :
    constants.keys <+: (Registry.declareConstant constants declared).keys :=
  Keyed.keys_prefix_put _ _ _

/-- A declaration leaves what other declarations have said where it is. -/
theorem exists_find?_declareConstant {constants : Keyed String (Keyed (Option String) Constant)}
    {name : String} {byApi : Keyed (Option String) Constant}
    (found : constants.find? name = some byApi) (declared : Option String × Constant) :
    ∃ byApi', (Registry.declareConstant constants declared).find? name = some byApi' ∧
      byApi <+: byApi' := by
  rw [find?_declareConstant]
  by_cases same : name = declared.2.name
  · subst same
    rw [if_pos rfl, found, Option.getD_some]
    exact ⟨_, rfl, Keyed.prefix_addNew byApi declared.1 declared.2⟩
  · rw [if_neg same]
    exact ⟨byApi, found, List.prefix_refl byApi⟩

/-- Declarations of constants add to what is on file and change none of it. -/
theorem extends_readConstants (registry : Registry) (root : Element) :
    Extends registry (registry.readConstants root) := by
  have kept : Extends registry { registry with
      constants := (declaredConstants root).foldl declareConstant registry.constants } := by
    refine List.foldlRecOn (declaredConstants root) declareConstant
      (motive := fun constants => Extends registry { registry with constants })
      (Extends.refl registry) ?_
    intro constants grown declared _
    refine grown.trans ⟨List.prefix_refl _, List.prefix_refl _,
      constants_prefix_declareConstant _ _, ?_⟩
    intro name byApi found
    exact exists_find?_declareConstant found declared
  exact kept

/-! ## Reading features -/

theorem nodup_of_mem_snapshots {features : List Feature} {snapshot : Snapshot}
    (member : snapshot ∈ snapshots {} features) (kind : Kind) : (snapshot.live.of kind).Nodup := by
  obtain ⟨place, taken⟩ := List.mem_iff_getElem?.1 member
  rw [getElem?_snapshots] at taken
  obtain ⟨feature, -, rfl⟩ := Option.map_eq_some_iff.1 taken
  have fresh : ((Histories.get {} feature.api).of kind) = [] := by
    cases feature.api <;> cases kind <;> rfl
  rw [of_foldl_after, fresh]
  exact nodup_live _

/-- A version that reading adds stands for a feature of the document. -/
theorem exists_of_mem_made {registry : Registry} {l : List Snapshot} {version : Version}
    (member : version ∈ (registry.made l).1) :
    ∃ snapshot ∈ l, snapshot.version registry = .ok version := by
  induction l with
  | nil => cases member
  | cons snapshot rest ih =>
      rw [made] at member
      cases stands : snapshot.version registry with
      | error failure =>
          rw [stands] at member
          cases member
      | ok own =>
          rw [stands] at member
          rcases List.mem_cons.1 member with rfl | later
          · exact ⟨snapshot, List.mem_cons_self, stands⟩
          · obtain ⟨other, inside, stands⟩ := ih later
            exact ⟨other, List.mem_cons_of_mem _ inside, stands⟩

theorem number_ne_empty_of_mem_snapshots {profile : String} {root : Element} {snapshot : Snapshot}
    (member : snapshot ∈ snapshots {} (featuresOf profile root)) :
    snapshot.feature.number ≠ "" := by
  obtain ⟨place, taken⟩ := List.mem_iff_getElem?.1 member
  rw [getElem?_snapshots] at taken
  obtain ⟨feature, found, rfl⟩ := Option.map_eq_some_iff.1 taken
  obtain ⟨e, -, read⟩ := List.mem_filterMap.1 (List.mem_of_getElem? found)
  exact (stands_of_ofElement? read).numbered

/-- A version of live names that are on file is well-formed. -/
theorem wellFormed_of_version {registry : Registry} (keyed : registry.WellKeyed)
    (filed : CommandsFiled registry.commands) {api : Api} {number : String} {live : Names}
    {version : Version} (numbered : number ≠ "") (distinct : ∀ kind, (live.of kind).Nodup)
    (made : registry.version api number live = .ok version) : version.WellFormed := by
  have names := keyed.names_of_version made
  obtain ⟨hfamily, hname, rfl, -, found⟩ := version_eq_ok_iff.1 made
  refine ⟨?_, numbered, ?_, ?_, ?_⟩
  · rw [hfamily]
    cases api <;> decide
  · rw [hname, hfamily, versionName]
  · intro kind
    have once := distinct kind
    rw [← names kind] at once
    exact once.of_map some
  · intro c member
    obtain ⟨name, -, looked⟩ := exists_mem_of_forall₂ found member
    obtain ⟨key, -, entry⟩ := Option.bind_eq_some_iff.1 (lookupCommand_eq_ok_iff.1 looked)
    exact filed.wellFormed _ (Keyed.mem_of_find? entry)

/-! ## Runs -/

/-- What one stage keeps. -/
theorem WellFormed.read {registry : Registry} (formed : registry.WellFormed) (root : Element)
    (stage : Stage) : (stage.read registry root).registry.WellFormed := by
  have keyed : registry.WellKeyed :=
    ⟨fun entry member => (formed.commands.named entry member).2,
      fun entry member declared inside => (formed.constants.values entry member declared inside).1⟩
  cases stage with
  | notice =>
      obtain ⟨notice, same⟩ := exists_readNotice_eq registry root
      rw [Stage.read, same]
      exact ⟨formed.commands, formed.constants, formed.versions⟩
  | constants => exact ⟨formed.commands, formed.constants.readConstants root, formed.versions⟩
  | commands =>
      have filed := formed.commands.readCommands root
      obtain ⟨commands, same⟩ := exists_readEachCommand_eq registry (commandElements root)
      rw [readCommands, same] at filed
      rw [Stage.read, readCommands, same]
      exact ⟨filed, formed.constants, formed.versions⟩
  | features profile =>
      rw [Stage.read, readFeatures_eq]
      refine ⟨formed.commands, formed.constants, ?_⟩
      intro version member
      rcases List.mem_append.1 member with old | added
      · exact formed.versions version old
      · obtain ⟨snapshot, inside, made⟩ := exists_of_mem_made added
        exact wellFormed_of_version keyed formed.commands
          (number_ne_empty_of_mem_snapshots inside) (nodup_of_mem_snapshots inside) made

/-- One stage adds to what is there. -/
theorem extends_read (registry : Registry) (root : Element) (stage : Stage) :
    Extends registry (stage.read registry root).registry := by
  cases stage with
  | notice =>
      obtain ⟨notice, same⟩ := exists_readNotice_eq registry root
      rw [Stage.read, same]
      exact ⟨List.prefix_refl _, List.prefix_refl _, List.prefix_refl _,
        (Extends.refl registry).declared⟩
  | constants => exact extends_readConstants registry root
  | commands =>
      have grown : registry.commands.keys <+:
          (registry.readCommands root).registry.commands.keys := by
        refine readEachCommand_keeps (P := fun commands => registry.commands.keys <+: commands.keys)
          ?_ (List.prefix_refl _) (commandElements root)
        intro commands e command front _
        exact front.trans (Keyed.keys_prefix_put _ _ _)
      obtain ⟨commands, same⟩ := exists_readEachCommand_eq registry (commandElements root)
      rw [readCommands, same] at grown
      rw [Stage.read, readCommands, same]
      exact ⟨List.prefix_refl _, grown, List.prefix_refl _, (Extends.refl registry).declared⟩
  | features profile =>
      rw [Stage.read, readFeatures_eq]
      exact ⟨List.prefix_append _ _, List.prefix_refl _, List.prefix_refl _,
        (Extends.refl registry).declared⟩

/-- The registry that stages lead to, each on a document of its own, from one in which nothing has
been read; a stage that fails leaves what it has read. -/
def run (calls : List (Stage × Element)) : Registry :=
  calls.foldl (fun registry call => (call.1.read registry call.2).registry) {}

/-- However reading goes on, a registry only grows. -/
theorem extends_run_append (calls more : List (Stage × Element)) :
    Extends (run calls) (run (calls ++ more)) := by
  rw [run, run, List.foldl_append]
  refine List.foldlRecOn (motive := Extends (run calls)) more _ (Extends.refl _) ?_
  intro registry grown call _
  exact grown.trans (extends_read registry call.2 call.1)

/-- **Every run leads to a well-formed registry, and whatever follows only adds to it.** -/
theorem wellFormed_of_run (calls : List (Stage × Element)) :
    (run calls).WellFormed ∧
    ∀ more, Extends (run calls) (run (calls ++ more)) ∧
      ∀ name api constant, (run calls).declaredFor? name api = some constant →
        (run (calls ++ more)).declaredFor? name api = some constant := by
  constructor
  · refine List.foldlRecOn (motive := WellFormed) calls _ ?_ ?_
    · refine ⟨⟨List.nodup_nil, ?_, ?_⟩, ⟨List.nodup_nil, ?_, ?_, ?_⟩, ?_⟩ <;>
        exact fun _ member => absurd member List.not_mem_nil
    · intro registry formed call _
      exact formed.read call.2 call.1
  · intro more
    have grown := extends_run_append calls more
    exact ⟨grown, fun name api constant found => grown.declaredFor? found⟩

end Registry

end GLBindings
