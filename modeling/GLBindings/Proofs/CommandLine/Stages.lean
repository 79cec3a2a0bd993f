/-
# Stages on a machine

What each stage of a run does on a machine.  A stage leads from a machine to an outcome and to
another machine (`Leads`), in which what has been printed does not count; so printing is passed over
(`Leads.tell`), and a stage is known by what its parts lead to (`Leads.bind`, `Leads.fail`).  The
stages before generating have one lemma for each way in which they end; of generating it is only
said that it fetches nothing (`unfetching_generate`).
-/
import GLBindings.CommandLine.Machine
import GLBindings.Proofs.Files.Writing

namespace GLBindings.CommandLine

open Files (Path Tree Location FileError)

set_option autoImplicit false

/-! ## What stages lead to -/

/-- From the machine the stage leads to an outcome and to another machine, but for what is
printed. -/
def Leads {α : Type} (stage : Stage (StateM Machine) α) (machine : Machine)
    (outcome : Except Ending α) (after : Machine) : Prop :=
  ∀ printed, ∃ printed', stage.run.run { machine with printed } =
    (outcome, { after with printed := printed' })

/-- The action only prints. -/
def Tells (action : StateM Machine Unit) : Prop :=
  ∀ machine, ∃ printed, action.run machine = ((), { machine with printed })

theorem tells_printLine (line : String) : Tells (Machine.host.printLine line) :=
  fun _ => ⟨_, rfl⟩

theorem tells_printLines (lines : List String) : Tells (Machine.host.printLines lines) := by
  induction lines with
  | nil => exact fun machine => ⟨machine.printed, rfl⟩
  | cons line rest ih =>
      intro machine
      obtain ⟨printed, more⟩ := ih { machine with printed := machine.printed ++ (line ++ "\n") }
      exact ⟨printed, more⟩

namespace Leads

variable {α β : Type} {stage : Stage (StateM Machine) α} {next : α → Stage (StateM Machine) β}
  {machine middle after : Machine}

theorem pure (a : α) (machine : Machine) : Leads (pure a) machine (.ok a) machine :=
  fun printed => ⟨printed, rfl⟩

theorem throw (ending : Ending) (machine : Machine) :
    Leads (α := α) (throw ending) machine (.error ending) machine :=
  fun printed => ⟨printed, rfl⟩

/-- A stage that succeeds hands over to the next. -/
theorem bind {a : α} {outcome : Except Ending β} (first : Leads stage machine (.ok a) middle)
    (second : Leads (next a) middle outcome after) :
    Leads (stage >>= next) machine outcome after := by
  intro printed
  obtain ⟨between, runs⟩ := first printed
  obtain ⟨final, runs'⟩ := second between
  refine ⟨final, ?_⟩
  rw [ExceptT.run_bind, StateT.run_bind, runs]
  exact runs'

/-- A stage that fails keeps the next from running. -/
theorem fail {ending : Ending} (fails : Leads stage machine (.error ending) after) :
    Leads (stage >>= next) machine (.error ending) after := by
  intro printed
  obtain ⟨final, runs⟩ := fails printed
  refine ⟨final, ?_⟩
  rw [ExceptT.run_bind, StateT.run_bind, runs]
  rfl

theorem tell {action : StateM Machine Unit} (tells : Tells action) (machine : Machine) :
    Leads (liftM action) machine (.ok ()) machine := by
  intro printed
  obtain ⟨between, runs⟩ := tells { machine with printed }
  refine ⟨between, ?_⟩
  rw [ExceptT.run_liftM, StateT.run_map, runs]
  rfl

/-- What a stage leads to is what running it gives, up to what is printed. -/
theorem runs {outcome : Except Ending α} (leads : Leads stage machine outcome after) :
    ∃ printed, stage.run.run machine = (outcome, { after with printed }) :=
  leads machine.printed

/-- What a stage leads to is settled by the machine. -/
theorem outcome_eq {outcome other : Except Ending α} {after' : Machine}
    (leads : Leads stage machine outcome after) (leads' : Leads stage machine other after') :
    outcome = other := by
  obtain ⟨_, runs⟩ := leads.runs
  obtain ⟨_, runs'⟩ := leads'.runs
  exact (Prod.mk.inj (runs.symm.trans runs')).1

end Leads

/-! ## Settling -/

section

variable {options : Options} {profile : String}

theorem settle_of_absent (absent : options.profile = none) (machine : Machine) :
    Leads (settle Machine.host options) machine (.error (.broken (.valueAbsent .profile)))
      machine := by
  rw [settle, absent]
  exact .fail (.throw _ machine)

theorem settle_of_unknown (given : options.profile = some profile) (unknown : profile ∉ profiles)
    (machine : Machine) :
    Leads (settle Machine.host options) machine (.error (.exit 1)) machine := by
  have refused : ∃ error, options.settings profile = .error error := by
    rw [Options.settings, checkProfile, if_neg unknown]
    exact ⟨_, rfl⟩
  obtain ⟨error, refused⟩ := refused
  rw [settle, given]
  refine .bind (.pure profile machine) ?_
  rw [refused]
  exact .bind (.tell (tells_printLine _) machine)
    (.bind (.tell (tells_printLines _) machine) (.throw _ machine))

theorem settle_of_known (given : options.profile = some profile) (known : profile ∈ profiles)
    (machine : Machine) : ∃ settings, settings.profile = profile ∧
      Leads (settle Machine.host options) machine (.ok settings) machine := by
  have accepted : ∃ settings, options.settings profile = .ok settings ∧
      settings.profile = profile := by
    rw [Options.settings, checkProfile, if_pos known]
    exact ⟨_, rfl, rfl⟩
  obtain ⟨settings, accepted, same⟩ := accepted
  refine ⟨settings, same, ?_⟩
  rw [settle, given]
  refine .bind (.pure profile machine) ?_
  rw [accepted]
  exact .pure settings machine

end

/-! ## Fetching -/

def FetchError.ending : FetchError → Ending
  | .failed _ => .exit 1
  | .broken error => .broken (.file error)

/-- The registry is not there, or it is asked for all the same. -/
def Options.Needs (options : Options) (tree : Tree) (path : Path) : Prop :=
  tree.contains path = .ok false ∨
    tree.contains path = .ok true ∧ options.download = true ∧ options.force = true

namespace Machine

variable {machine : Machine} {path : Path}

/-- What fetching does, whatever has been printed: it leaves the files as they are, unless it
succeeds in writing the one that it is for. -/
theorem exists_fetch_eq (machine : Machine) (path : Path) : ∃ answer tree,
    (∀ printed, fetch { machine with printed } path =
      (answer, { machine with printed, tree, fetches := machine.fetches ++ [path] })) ∧
    (tree = machine.tree ∨
      answer = .ok () ∧ ∃ bytes, machine.tree.write path bytes = .ok tree) := by
  unfold fetch
  dsimp only
  cases machine.download with
  | nothing => exact ⟨_, _, fun _ => rfl, .inl rfl⟩
  | fails reason => exact ⟨_, _, fun _ => rfl, .inl rfl⟩
  | content bytes =>
      dsimp only
      split
      · rename_i tree written
        exact ⟨_, tree, fun _ => rfl, .inr ⟨rfl, bytes, written⟩⟩
      · exact ⟨_, _, fun _ => rfl, .inl rfl⟩
      · exact ⟨_, _, fun _ => rfl, .inl rfl⟩

/-- Fetching does not depend on what has been printed. -/
theorem fetch_printed (machine : Machine) (path : Path) (printed : String) :
    fetch { machine with printed } path =
      ((machine.fetch path).1, { (machine.fetch path).2 with printed }) := by
  obtain ⟨answer, tree, fetches, -⟩ := exists_fetch_eq machine path
  have unchanged := fetches machine.printed
  rw [fetches, unchanged]

theorem fetches_fetch (machine : Machine) (path : Path) :
    (machine.fetch path).2.fetches = machine.fetches ++ [path] := by
  obtain ⟨answer, tree, fetches, -⟩ := exists_fetch_eq machine path
  rw [fetches machine.printed]

/-- Fetching writes the registry or changes no file at all. -/
theorem tree_fetch (machine : Machine) (path : Path) :
    (machine.fetch path).2.tree = machine.tree ∨
      ∃ bytes, machine.tree.write path bytes = .ok (machine.fetch path).2.tree := by
  obtain ⟨answer, tree, fetches, same | ⟨-, bytes, written⟩⟩ := exists_fetch_eq machine path
  · exact .inl (by rw [fetches machine.printed, same])
  · exact .inr ⟨bytes, by rw [fetches machine.printed, written]⟩

theorem entry?_fetch {location : Location} (elsewhere : location ≠ path.target) :
    (machine.fetch path).2.tree.entry? location = machine.tree.entry? location := by
  rcases machine.tree_fetch path with same | ⟨bytes, written⟩
  · rw [same]
  · obtain ⟨place, located, -, written⟩ := Tree.write_eq_ok written
    rw [written, Tree.entry?_set_of_ne (Tree.eq_target_of_locate located ▸ elsewhere)]

/-- After fetching it can still be told whether the registry is there. -/
theorem exists_contains_fetch {there : Bool} (known : machine.tree.contains path = .ok there) :
    ∃ there, (machine.fetch path).2.tree.contains path = .ok there := by
  rcases machine.tree_fetch path with same | ⟨bytes, written⟩
  · rw [same]
    exact ⟨there, known⟩
  · obtain ⟨location, located, -⟩ := Tree.read_eq_ok_iff.1 (Tree.read_of_write written)
    rw [Tree.contains, located]
    exact ⟨_, rfl⟩

end Machine

/-! ## Making sure of the registry -/

section

variable {options : Options} {machine : Machine} {path : Path}

/-- An answer that the machine gives as it is either serves the stage or breaks it off. -/
theorem leads_orBreak {α : Type} {answer : StateM Machine (Except FileError α)}
    {told : Except FileError α}
    (asks : ∀ printed, answer.run { machine with printed } = (told, { machine with printed })) :
    Leads (orBreak answer) machine (told.mapError fun error => .broken (.file error)) machine := by
  intro printed
  refine ⟨printed, ?_⟩
  rw [orBreak, ExceptT.run_bind, StateT.run_bind, ExceptT.run_liftM, StateT.run_map, asks]
  cases told with
  | error error => rfl
  | ok a => rfl

theorem leads_contains {told : Except FileError Bool} (asks : machine.tree.contains path = told) :
    Leads (orBreak (Machine.host.contains path)) machine
      (told.mapError fun error => .broken (.file error)) machine := by
  subst asks
  exact leads_orBreak fun _ => rfl

theorem leads_read {told : Except FileError (List UInt8)} (asks : machine.tree.read path = told) :
    Leads (orBreak (Machine.host.read path)) machine
      (told.mapError fun error => .broken (.file error)) machine := by
  subst asks
  exact leads_orBreak fun _ => rfl

theorem obtain_of_there (there : machine.tree.contains path = .ok true) :
    Leads (obtain Machine.host path false) machine (.ok ()) machine := by
  rw [obtain]
  exact .bind (leads_contains there) (.tell (tells_printLine _) machine)

theorem obtain_of_untold {error : FileError} (untold : machine.tree.contains path = .error error)
    (force : Bool) :
    Leads (obtain Machine.host path force) machine (.error (.broken (.file error))) machine := by
  rw [obtain]
  exact .fail (leads_contains untold)

/-- The registry is fetched, and a failure to do so ends the run. -/
theorem obtain_of_needed {there force : Bool} (told : machine.tree.contains path = .ok there)
    (needed : (there && !force) = false) :
    Leads (obtain Machine.host path force) machine
      ((machine.fetch path).1.mapError FetchError.ending) (machine.fetch path).2 := by
  have fetching : Leads (liftM (Machine.host.fetch path)) machine (.ok (machine.fetch path).1)
      (machine.fetch path).2 := by
    intro printed
    refine ⟨printed, ?_⟩
    rw [ExceptT.run_liftM, StateT.run_map]
    exact congrArg (fun result => (Except.ok result.1, result.2))
      (machine.fetch_printed path printed)
  rw [obtain]
  refine .bind (leads_contains told) ?_
  rw [needed, if_neg Bool.false_ne_true]
  refine .bind (.tell (tells_printLine _) machine) (.bind fetching ?_)
  match (machine.fetch path).1 with
  | .ok () => exact .tell (tells_printLine _) _
  | .error (.failed reason) => exact .bind (.tell (tells_printLine _) _) (.throw _ _)
  | .error (.broken error) => exact .throw _ _

/-- Fetches the registry if it is asked for or not there. -/
def supply {m : Type → Type} [Monad m] (host : Host m) (options : Options) (path : Path) :
    Stage m Unit := do
  if options.download then obtain host path options.force
  else if ← orBreak (host.contains path) then return ()
  else obtain host path options.force

/-- Ends the run unless the registry is there. -/
def confirm {m : Type → Type} [Monad m] (host : Host m) (path : Path) : Stage m Path := do
  if ← orBreak (host.contains path) then return path
  host.printLine ("gl.xml not found at " ++ path.toString ++ ". Use --download to fetch it.")
  throw (.exit 1)

/-- Making sure of the registry means supplying it and then confirming that it is there. -/
theorem ensureRegistry_eq {m : Type → Type} [Monad m] [LawfulMonad m] (host : Host m)
    (given : options.registry = some path) :
    ensureRegistry host options = supply host options path >>= fun _ => confirm host path := by
  unfold ensureRegistry
  rw [given, orAbsent, pure_bind, supply]
  split
  · rw [pure_bind]
    rfl
  · rw [map_eq_pure_bind, bind_assoc, bind_assoc]
    congr 1
    funext there
    cases there with
    | true => simp [confirm]
    | false => simp [confirm]

theorem supply_of_untold {error : FileError} (untold : machine.tree.contains path = .error error) :
    Leads (supply Machine.host options path) machine (.error (.broken (.file error))) machine := by
  rw [supply]
  split
  · exact obtain_of_untold untold options.force
  · exact .fail (leads_contains untold)

/-- A registry that is there stays as it is, unless it is asked for anew. -/
theorem supply_of_there (there : machine.tree.contains path = .ok true)
    (idle : ¬ (options.download = true ∧ options.force = true)) :
    Leads (supply Machine.host options path) machine (.ok ()) machine := by
  rw [supply]
  split
  · rename_i download
    have noForce : options.force = false := by
      rw [← Bool.not_eq_true]
      exact fun force => idle ⟨download, force⟩
    rw [noForce]
    exact obtain_of_there there
  · exact .bind (leads_contains there) (.pure () machine)

/-- What is needed is fetched, and the stage fails if that does. -/
theorem supply_of_needs (needs : options.Needs machine.tree path) :
    Leads (supply Machine.host options path) machine
      ((machine.fetch path).1.mapError FetchError.ending) (machine.fetch path).2 := by
  rw [supply]
  rcases needs with missing | ⟨there, download, force⟩
  · split
    · exact obtain_of_needed missing rfl
    · exact .bind (leads_contains missing) (obtain_of_needed missing rfl)
  · rw [if_pos download]
    exact obtain_of_needed there (by rw [force]; rfl)

theorem confirm_of_there (there : machine.tree.contains path = .ok true) :
    Leads (confirm Machine.host path) machine (.ok path) machine := by
  rw [confirm]
  exact .bind (leads_contains there) (.pure path machine)

theorem confirm_of_missing (missing : machine.tree.contains path = .ok false) :
    Leads (confirm Machine.host path) machine (.error (.exit 1)) machine := by
  rw [confirm]
  exact .bind (leads_contains missing)
    (.bind (.tell (tells_printLine _) machine) (.throw _ machine))

end

/-! ## Reading -/

def loadEnding : LoadError → Ending
  | .document error => .broken (.document error)
  | .read _ => .exit 1

section

variable {machine : Machine} {path : Path}

theorem readSpec_of_unreadable {error : FileError}
    (unreadable : machine.tree.read path = .error error) (profile : String) :
    Leads (readSpec Machine.host path profile) machine (.error (.broken (.file error)))
      machine := by
  rw [readSpec]
  exact .bind (.tell (tells_printLine _) machine) (.fail (leads_read unreadable))

theorem readSpec_of_read {bytes : List UInt8} (read : machine.tree.read path = .ok bytes)
    (profile : String) : Leads (readSpec Machine.host path profile) machine
      ((Spec.load bytes profile).mapError loadEnding) machine := by
  rw [readSpec]
  refine .bind (.tell (tells_printLine _) machine) (.bind (leads_read read) ?_)
  match Spec.load bytes profile with
  | .ok spec => exact .pure spec machine
  | .error (.document error) => exact .throw _ machine
  | .error (.read error) => exact .bind (.tell (tells_printLine _) machine) (.throw _ machine)

end

/-! ## Generating -/

def Unfetching {α : Type} (stage : Stage (StateM Machine) α) : Prop :=
  ∀ machine, (stage.run.run machine).2.fetches = machine.fetches

namespace Unfetching

variable {α β : Type} {stage : Stage (StateM Machine) α} {next : α → Stage (StateM Machine) β}

theorem pure (a : α) : Unfetching (pure a) := fun _ => rfl

theorem throw (ending : Ending) : Unfetching (α := α) (throw ending) := fun _ => rfl

theorem bind (first : Unfetching stage) (second : ∀ a, Unfetching (next a)) :
    Unfetching (stage >>= next) := by
  intro machine
  rw [ExceptT.run_bind, StateT.run_bind]
  have kept := first machine
  generalize stage.run.run machine = result at kept ⊢
  obtain ⟨outcome, middle⟩ := result
  rw [← kept]
  cases outcome with
  | error ending => rfl
  | ok a => exact second a middle

theorem lift {action : StateM Machine α}
    (keeps : ∀ machine, (action.run machine).2.fetches = machine.fetches) :
    Unfetching (liftM action) := by
  intro machine
  rw [ExceptT.run_liftM, StateT.run_map]
  exact keeps machine

theorem map {f : α → β} (keeps : Unfetching stage) : Unfetching (f <$> stage) := by
  rw [map_eq_pure_bind]
  exact .bind keeps fun a => .pure (f a)

theorem tell {action : StateM Machine Unit} (tells : Tells action) : Unfetching (liftM action) := by
  refine .lift fun machine => ?_
  obtain ⟨printed, runs⟩ := tells machine
  rw [runs]

end Unfetching

theorem unfetching_writePackages (generator : Bindings.Generator) (output : Path) :
    Unfetching (writePackages Machine.host generator output) := by
  rw [writePackages]
  refine .bind (.lift fun _ => rfl) fun failure => ?_
  cases failure with
  | none => exact .tell (tells_printLines _)
  | some failure => exact .throw _

/-- Generating fetches nothing. -/
theorem unfetching_generate (options : Options) (settings : Settings) (spec : Spec) :
    Unfetching (generate Machine.host options settings spec) := by
  unfold generate
  extract_lets summarize write
  have summarizes : ∀ done, Unfetching (summarize done) := fun _ =>
    .bind (.tell (tells_printLines _)) fun _ => .tell (tells_printLine _)
  have writes : ∀ generatedAt, Unfetching (write generatedAt) := by
    intro generatedAt
    refine .bind (.tell (tells_printLines _)) fun _ => .bind (.tell (tells_printLine _)) fun _ => ?_
    split
    · refine .bind ?_ fun output => .bind (unfetching_writePackages _ output) summarizes
      cases options.output with
      | none => exact .throw _
      | some output => exact .pure output
    · exact summarizes ()
  split
  · exact .bind (.pure none) writes
  · exact .bind (.map (.lift fun _ => rfl)) writes

end GLBindings.CommandLine
