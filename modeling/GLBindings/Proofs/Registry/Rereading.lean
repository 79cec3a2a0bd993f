/-
# Reading a document again

A document that has been read has nothing left to declare: its notice is there, a constant keeps the
value it was given first, and a command is declared as it was declared last.  Its features count
anew with every reading, and what versions they lead to is decided by the constants and commands on
file, not by the versions that are there (`versionsOf_congr`).  So reading a document as a whole a
second time changes nothing but that the same versions come once more
(`readWhole_of_readWhole`).

* `readNotice_of_settled`, `readConstants_of_settled`, `readCommands_of_settled`: a stage for
  declarations has nothing to do where it has been taken before.
* `readWhole_of_read`: what a second reading does, and what any reading of features depends on.
-/
import GLBindings.Proofs.Load
import GLBindings.Proofs.Registry.OnFile

namespace GLBindings.Registry

open Xml (Element)

set_option autoImplicit false

/-! ## Whole readings -/

def wholeReading (profile : String) : List Stage :=
  [.notice, .constants, .commands, .features profile]

/-- Takes the stages on a document one after the other, each of which has to succeed. -/
def readWhole (registry : Registry) (root : Element) (profile : String) :
    Except ReadError Registry :=
  (wholeReading profile).foldlM (fun registry stage => (stage.read registry root).result) registry

/-- From a registry in which nothing has been read, this is reading a registry. -/
theorem readWhole_fresh (root : Element) (profile : String) :
    readWhole {} root profile = Registry.read root profile := by
  simp only [readWhole, wholeReading, List.foldlM_cons, List.foldlM_nil, bind_pure, Registry.read]
  rfl

/-! ## Notices and constants -/

section

variable {registry later : Registry} {root : Element}

/-- A notice that has been taken over is taken over again. -/
theorem readNotice_of_settled (settled : later.notice = (registry.readNotice root).notice) :
    later.readNotice root = later := by
  obtain ⟨notice, constants, commands, versions⟩ := later
  rw [readNotice] at settled ⊢
  split
  · rfl
  · rename_i comment found
    simp only [found] at settled
    split
    · rfl
    · rename_i written
      rw [if_neg written] at settled
      obtain rfl : notice = Text.trim comment.text := settled
      rfl

def IsDeclared (constants : Keyed String (Keyed (Option String) Constant))
    (declared : Option String × Constant) : Prop :=
  ∃ byApi, constants.find? declared.2.name = some byApi ∧ ∃ constant,
    byApi.find? declared.1 = some constant

theorem isDeclared_declareConstant (constants : Keyed String (Keyed (Option String) Constant))
    (declared : Option String × Constant) :
    IsDeclared (declareConstant constants declared) declared := by
  refine ⟨_, by rw [find?_declareConstant, if_pos rfl], ?_⟩
  rw [Keyed.find?_addNew]
  cases ((constants.find? declared.2.name).getD []).find? declared.1 with
  | some constant => exact ⟨constant, rfl⟩
  | none => exact ⟨declared.2, by simp [Keyed.find?]⟩

/-- What has been declared stays declared. -/
theorem IsDeclared.declareConstant {constants : Keyed String (Keyed (Option String) Constant)}
    {declared : Option String × Constant} (known : IsDeclared constants declared)
    (other : Option String × Constant) :
    IsDeclared (Registry.declareConstant constants other) declared := by
  obtain ⟨byApi, filed, constant, found⟩ := known
  obtain ⟨byApi', filed', front⟩ := exists_find?_declareConstant filed other
  exact ⟨byApi', filed', constant, Keyed.find?_of_prefix front found⟩

/-- Declaring it again changes nothing. -/
theorem IsDeclared.declareConstant_eq_self
    {constants : Keyed String (Keyed (Option String) Constant)}
    {declared : Option String × Constant} (known : IsDeclared constants declared) :
    Registry.declareConstant constants declared = constants := by
  obtain ⟨byApi, filed, constant, found⟩ := known
  obtain ⟨api, own⟩ := declared
  have same : byApi.addNew api own = byApi := by
    rw [Keyed.addNew, found]
  rw [Registry.declareConstant]
  dsimp only at filed ⊢
  rw [filed, Option.getD_some, same]
  exact Keyed.put_of_find? filed

theorem isDeclared_foldl_declareConstant (declared : List (Option String × Constant))
    (constants : Keyed String (Keyed (Option String) Constant)) :
    ∀ entry ∈ declared, IsDeclared (declared.foldl declareConstant constants) entry := by
  induction declared generalizing constants with
  | nil => simp
  | cons first rest ih =>
      rw [List.foldl_cons, List.forall_mem_cons]
      refine ⟨?_, ih _⟩
      exact List.foldlRecOn (motive := (IsDeclared · first)) rest declareConstant
        (isDeclared_declareConstant constants first) fun _ known other _ =>
          known.declareConstant other

theorem foldl_declareConstant_of_isDeclared {declared : List (Option String × Constant)}
    {constants : Keyed String (Keyed (Option String) Constant)}
    (known : ∀ entry ∈ declared, IsDeclared constants entry) :
    declared.foldl declareConstant constants = constants := by
  induction declared with
  | nil => rfl
  | cons first rest ih =>
      rw [List.forall_mem_cons] at known
      rw [List.foldl_cons, known.1.declareConstant_eq_self, ih known.2]

/-- Since the first declaration counts, declaring the same constants again changes nothing. -/
theorem readConstants_of_settled
    (settled : later.constants = (registry.readConstants root).constants) :
    later.readConstants root = later := by
  have known : ∀ entry ∈ declaredConstants root, IsDeclared later.constants entry := by
    rw [settled]
    exact isDeclared_foldl_declareConstant (declaredConstants root) registry.constants
  rw [readConstants, foldl_declareConstant_of_isDeclared known]

/-! ## Commands -/

/-- Since the last declaration counts, reading the same commands again changes nothing and ends as
the first time. -/
theorem readCommands_of_settled (distinct : registry.commands.keys.Nodup)
    (settled : later.commands = (registry.readCommands root).registry.commands) :
    later.readCommands root =
      { registry := later, failure := (registry.readCommands root).failure } := by
  have filed : later.commands =
      registry.commands.putAll (byName (commandsOf (commandElements root))) := by
    rw [settled, readCommands, readEachCommand_eq]
  have again : later.commands.putAll (byName (commandsOf (commandElements root))) =
      later.commands := by
    rw [filed, Keyed.putAll_putAll distinct]
  rw [readCommands, readCommands, readEachCommand_eq, readEachCommand_eq, again]

end

/-! ## Features -/

/-- What features lead to is decided by the constants and commands on file. -/
theorem versionsOf_congr {one other : Registry} (constants : one.constants = other.constants)
    (commands : one.commands = other.commands) (histories : Histories) (features : List Feature) :
    one.versionsOf histories features = other.versionsOf histories features := by
  have same : ∀ api number live, one.version api number live = other.version api number live := by
    intro api number live
    obtain ⟨notice, _, _, versions⟩ := one
    subst constants commands
    rfl
  induction features generalizing histories with
  | nil => rfl
  | cons feature rest ih => simp only [versionsOf, same, ih]

/-- What a reading of features adds, and how it ends, does not depend on the versions that are
there. -/
theorem exists_readFeatures_eq {one other : Registry} (constants : one.constants = other.constants)
    (commands : one.commands = other.commands) (root : Element) (profile : String) :
    ∃ added failure,
      one.readFeatures root profile =
        { registry := { one with versions := one.versions ++ added }, failure } ∧
      other.readFeatures root profile =
        { registry := { other with versions := other.versions ++ added }, failure } := by
  refine ⟨_, _, rfl, ?_⟩
  rw [readFeatures, versionsOf_congr constants commands]

/-- Versions depend on the constants and commands on file, and on nothing else. -/
theorem Adds.congr {one other : Registry} {profile : String} {root : Element}
    {added : List Version} (adds : Adds one profile root added)
    (constants : one.constants = other.constants) (commands : one.commands = other.commands) :
    Adds other profile root added := by
  apply versionsOf_eq_ok_iff.1
  rw [← versionsOf_congr constants commands]
  exact versionsOf_eq_ok_iff.2 adds

/-! ## A second reading -/

/-- The stages for declarations are independent of each other. -/
theorem readDeclarations_eq (registry : Registry) (root : Element) :
    ((registry.readNotice root).readConstants root).readCommands root = {
      registry := { registry with
        notice := (registry.readNotice root).notice
        constants := (registry.readConstants root).constants
        commands := (registry.readCommands root).registry.commands }
      failure := (registry.readCommands root).failure } := by
  obtain ⟨notice, noticed⟩ := exists_readNotice_eq registry root
  rw [noticed, readCommands, readCommands, readEachCommand_eq, readEachCommand_eq]
  rfl

/-- A document is read as a whole when its commands are and its features add versions. -/
theorem readWhole_eq_ok_iff {before after : Registry} {root : Element} {profile : String} :
    before.readWhole root profile = .ok after ↔
      (before.readCommands root).failure = none ∧
        ∃ added, Adds after profile root added ∧ after = {
          notice := (before.readNotice root).notice
          constants := (before.readConstants root).constants
          commands := (before.readCommands root).registry.commands
          versions := before.versions ++ added } := by
  have stages : before.readWhole root profile =
      ((((before.readNotice root).readConstants root).readCommands root).result >>= fun declared =>
        (declared.readFeatures root profile).result) := by
    simp only [readWhole, wholeReading, List.foldlM_cons, List.foldlM_nil, bind_pure]
    rfl
  simp only [stages, readDeclarations_eq, bind_eq_ok_iff, result_eq_ok_iff]
  constructor
  · rintro ⟨_, ⟨readable, rfl⟩, complete, rfl⟩
    obtain ⟨added, adds, featured⟩ := exists_adds complete
    -- The versions that are there already have no say in what is added.
    rw [featured]
    exact ⟨readable, added, adds.congr rfl rfl, rfl⟩
  · rintro ⟨readable, added, adds, rfl⟩
    have own : Adds { before with
        notice := (before.readNotice root).notice
        constants := (before.readConstants root).constants
        commands := (before.readCommands root).registry.commands } profile root added :=
      adds.congr rfl rfl
    exact ⟨_, ⟨readable, rfl⟩, by rw [own.readFeatures_eq], by rw [own.readFeatures_eq]⟩

/-- A document that has been read only adds its versions once more. -/
theorem readWhole_of_readWhole {before after : Registry} {root : Element} {profile : String}
    (distinct : before.commands.keys.Nodup) (read : before.readWhole root profile = .ok after) :
    ∃ added, after.versions = before.versions ++ added ∧
      after.readWhole root profile =
        .ok { after with versions := after.versions ++ added } := by
  obtain ⟨readable, added, adds, same⟩ := readWhole_eq_ok_iff.1 read
  have notice : after.readNotice root = after :=
    readNotice_of_settled (by rw [same])
  have constants : after.readConstants root = after :=
    readConstants_of_settled (by rw [same])
  have commands : after.readCommands root =
      { registry := after, failure := (before.readCommands root).failure } :=
    readCommands_of_settled distinct (by rw [same])
  refine ⟨added, by rw [same], readWhole_eq_ok_iff.2 ⟨?_, added, ?_, ?_⟩⟩
  · rw [commands, readable]
  · exact adds.congr rfl rfl
  · rw [notice, constants, commands]

/-- **Reading a document a second time declares nothing new, and its versions come once more;
nothing that a reading of features adds depends on the versions that are there.** -/
theorem readWhole_of_read (root : Element) (profile : String) :
    (∀ registry, Registry.read root profile = .ok registry →
      registry.readWhole root profile =
        .ok { registry with versions := registry.versions ++ registry.versions }) ∧
    ∀ one other : Registry, one.constants = other.constants → one.commands = other.commands →
      ∃ added failure,
        one.readFeatures root profile =
          { registry := { one with versions := one.versions ++ added }, failure } ∧
        other.readFeatures root profile =
          { registry := { other with versions := other.versions ++ added }, failure } := by
  constructor
  · intro registry read
    have fresh : ({} : Registry).commands.keys.Nodup := List.nodup_nil
    rw [← readWhole_fresh] at read
    obtain ⟨added, versions, again⟩ := readWhole_of_readWhole fresh read
    obtain rfl : registry.versions = added := versions
    exact again
  · intro one other constants commands
    exact exists_readFeatures_eq constants commands root profile

/-- The document declares a command twice; the second reading finds it as the first has left it. -/
theorem readWhole_of_read_sample :
    ∃ registry, Registry.read GLBindings.Sample.root = .ok registry ∧
    registry.versions.map (·.name) = ["GLES10", "GLES20"] ∧
    registry.readWhole GLBindings.Sample.root "core" =
      .ok { registry with versions := registry.versions ++ registry.versions } ∧
    ∃ added failure,
      registry.readFeatures GLBindings.Sample.root =
        { registry := { registry with versions := registry.versions ++ added }, failure } ∧
      Registry.readFeatures { registry with versions := [] } GLBindings.Sample.root =
        { registry := { registry with versions := added }, failure } := by
  have loads : (Registry.read GLBindings.Sample.root).map Registry.spec =
      .ok GLBindings.Sample.spec := by
    decide +kernel
  obtain ⟨registry, read, spec⟩ := map_eq_ok_iff.1 loads
  have versions : registry.versions = GLBindings.Sample.spec.versions := congrArg Spec.versions spec
  obtain ⟨again, independent⟩ := readWhole_of_read GLBindings.Sample.root "core"
  refine ⟨registry, read, ?_, again registry read, independent _ _ rfl rfl⟩
  rw [versions]
  decide

end GLBindings.Registry
