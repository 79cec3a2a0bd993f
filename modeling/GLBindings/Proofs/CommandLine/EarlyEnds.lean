/-
# Ends before generating

A run settles on a profile, makes sure of the registry and reads it before it generates anything
(`prepare`).  Up to there it prints, and fetches the registry at most once, which is all that can
change the files (`Supplies`).  So whatever ends a run early leaves everything but the registry
alone; what does end it is listed in `EndsEarly`, together with how it ends.

* `leads_of_endsEarly`, `leads_of_ready`, `endsEarly_or_ready`: how preparing ends, in all cases.
* `ends_early`: when the registry is fetched, what ends a run early, and what is left unchanged.

Whether the registry is there is asked before it is fetched.  Where a name is too long for any file
there is no answer, and the run breaks off without fetching (`overlong_not_fetched`).
-/
import GLBindings.Proofs.CommandLine.Stages
import GLBindings.Proofs.Load

namespace GLBindings.CommandLine

open Files (Path Tree Location FileError IsName)

set_option autoImplicit false

/-! ## What ends a run early -/

/-- The options ask for a profile that there is, and name a path for the registry. -/
structure Options.Asks (options : Options) (profile : String) (path : Path) : Prop where
  given : options.profile = some profile
  known : profile ∈ profiles
  registry : options.registry = some path

/-- The registry is fetched to the path. -/
def Options.Fetches (options : Options) (tree : Tree) (path : Path) : Prop :=
  (∃ profile, options.Asks profile path) ∧ options.Needs tree path

/-- The registry is there to be read, on the machine as it is or after fetching it. -/
inductive HasRegistry (machine : Machine) (options : Options) (path : Path) : Machine → Prop where
  | kept (there : machine.tree.contains path = .ok true)
      (idle : ¬ (options.download = true ∧ options.force = true)) :
      HasRegistry machine options path machine
  | fetched (needs : options.Needs machine.tree path) (succeeds : (machine.fetch path).1 = .ok ())
      (there : (machine.fetch path).2.tree.contains path = .ok true) :
      HasRegistry machine options path (machine.fetch path).2

/-- What ends a run with the options before it generates, and how. -/
inductive EndsEarly (machine : Machine) (options : Options) : Ending → Prop where
  | profileAbsent (absent : options.profile = none) :
      EndsEarly machine options (.broken (.valueAbsent .profile))
  | profileUnknown {profile : String} (given : options.profile = some profile)
      (unknown : profile ∉ profiles) : EndsEarly machine options (.exit 1)
  | registryAbsent {profile : String} (given : options.profile = some profile)
      (known : profile ∈ profiles) (absent : options.registry = none) :
      EndsEarly machine options (.broken (.valueAbsent .registry))
  /-- It cannot be told whether the registry is there. -/
  | untold {profile : String} {path : Path} {error : FileError} (asks : options.Asks profile path)
      (untold : machine.tree.contains path = .error error) :
      EndsEarly machine options (.broken (.file error))
  | fetchFails {path : Path} {error : FetchError} (fetches : options.Fetches machine.tree path)
      (fails : (machine.fetch path).1 = .error error) : EndsEarly machine options error.ending
  /-- Fetching has brought nothing. -/
  | missing {path : Path} (fetches : options.Fetches machine.tree path)
      (succeeds : (machine.fetch path).1 = .ok ())
      (missing : (machine.fetch path).2.tree.contains path = .ok false) :
      EndsEarly machine options (.exit 1)
  | unreadable {profile : String} {path : Path} {ready : Machine} {error : FileError}
      (asks : options.Asks profile path) (has : HasRegistry machine options path ready)
      (unreadable : ready.tree.read path = .error error) :
      EndsEarly machine options (.broken (.file error))
  | document {profile : String} {path : Path} {ready : Machine} {bytes : List UInt8}
      {error : Xml.DocumentError} (asks : options.Asks profile path)
      (has : HasRegistry machine options path ready) (read : ready.tree.read path = .ok bytes)
      (malformed : Spec.load bytes profile = .error (.document error)) :
      EndsEarly machine options (.broken (.document error))
  /-- A declaration cannot be read, or something is required that is not declared. -/
  | refused {profile : String} {path : Path} {ready : Machine} {bytes : List UInt8}
      {error : ReadError} (asks : options.Asks profile path)
      (has : HasRegistry machine options path ready) (read : ready.tree.read path = .ok bytes)
      (refused : Spec.load bytes profile = .error (.read error)) :
      EndsEarly machine options (.exit 1)

section

variable {machine ready : Machine} {options : Options} {profile : String} {path : Path}

/-- Where the registry is there in the end, its path is what the stage gives. -/
theorem ensureRegistry_of_has (registry : options.registry = some path)
    (has : HasRegistry machine options path ready) :
    Leads (ensureRegistry Machine.host options) machine (.ok path) ready := by
  rw [ensureRegistry_eq Machine.host registry]
  cases has with
  | kept there idle => exact .bind (supply_of_there there idle) (confirm_of_there there)
  | fetched needs succeeds there =>
      have supplied := supply_of_needs needs
      rw [succeeds] at supplied
      exact .bind supplied (confirm_of_there there)

/-- Once there is a registry, preparing ends as reading it does. -/
theorem prepare_of_has (asks : options.Asks profile path)
    (has : HasRegistry machine options path ready) :
    ∃ settings, settings.profile = profile ∧ ∀ outcome,
      Leads (readSpec Machine.host path profile) ready outcome ready →
        Leads (prepare Machine.host options) machine (outcome.map fun spec => (settings, spec))
          ready := by
  obtain ⟨settings, same, settles⟩ := settle_of_known asks.given asks.known machine
  refine ⟨settings, same, ?_⟩
  subst same
  intro outcome reads
  rw [prepare]
  refine .bind settles (.bind (ensureRegistry_of_has asks.registry has) ?_)
  cases outcome with
  | error ending => exact .fail reads
  | ok spec => exact .bind reads (.pure (settings, spec) ready)

/-- A run that cannot have the registry ends as the attempt does. -/
theorem prepare_of_ensureRegistry {after : Machine} {ending : Ending}
    (given : options.profile = some profile) (known : profile ∈ profiles)
    (fails : Leads (ensureRegistry Machine.host options) machine (.error ending) after) :
    Leads (prepare Machine.host options) machine (.error ending) after := by
  obtain ⟨settings, -, settles⟩ := settle_of_known given known machine
  rw [prepare]
  exact .bind settles (.fail fails)

/-- Once the registry has been read, preparing ends as loading it does. -/
theorem prepare_of_read (asks : options.Asks profile path)
    (has : HasRegistry machine options path ready) {bytes : List UInt8}
    (read : ready.tree.read path = .ok bytes) {loaded : Except LoadError Spec}
    (loads : Spec.load bytes profile = loaded) : ∃ settings,
      Leads (prepare Machine.host options) machine
        ((loaded.mapError loadEnding).map fun spec => (settings, spec)) ready := by
  obtain ⟨settings, -, prepares⟩ := prepare_of_has asks has
  subst loads
  exact ⟨settings, prepares _ (readSpec_of_read read profile)⟩

/-- The machine as preparing leaves it: the registry has been fetched if it had to be. -/
inductive Supplies (machine : Machine) (options : Options) : Machine → Prop where
  | idle (never : ∀ path, ¬ options.Fetches machine.tree path) : Supplies machine options machine
  | fetches {path : Path} (fetches : options.Fetches machine.tree path) :
      Supplies machine options (machine.fetch path).2

/-- However the registry came to be there, it was fetched only if it was needed. -/
theorem HasRegistry.supplies (asks : options.Asks profile path)
    (has : HasRegistry machine options path ready) : Supplies machine options ready := by
  cases has with
  | kept there idle =>
      refine .idle ?_
      rintro other ⟨⟨_, asks'⟩, needs⟩
      cases asks.registry.symm.trans asks'.registry
      rcases needs with missing | ⟨-, asked⟩
      · cases missing.symm.trans there
      · exact idle asked
  | fetched needs succeeds there => exact .fetches ⟨⟨profile, asks⟩, needs⟩

/-- Each of the causes ends a run early. -/
theorem leads_of_endsEarly {ending : Ending} (ends : EndsEarly machine options ending) :
    ∃ after, Supplies machine options after ∧
      Leads (prepare Machine.host options) machine (.error ending) after := by
  cases ends with
  | profileAbsent absent =>
      refine ⟨machine, .idle ?_, ?_⟩
      · rintro path ⟨⟨_, asks⟩, -⟩
        cases absent.symm.trans asks.given
      · rw [prepare]
        exact .fail (settle_of_absent absent machine)
  | profileUnknown given unknown =>
      refine ⟨machine, .idle ?_, ?_⟩
      · rintro path ⟨⟨_, asks⟩, -⟩
        cases given.symm.trans asks.given
        exact unknown asks.known
      · rw [prepare]
        exact .fail (settle_of_unknown given unknown machine)
  | registryAbsent given known absent =>
      refine ⟨machine, .idle ?_, prepare_of_ensureRegistry given known ?_⟩
      · rintro path ⟨⟨_, asks⟩, -⟩
        cases absent.symm.trans asks.registry
      · rw [ensureRegistry, absent]
        exact .fail (.throw _ machine)
  | untold asks untold =>
      refine ⟨machine, .idle ?_, prepare_of_ensureRegistry asks.given asks.known ?_⟩
      · rintro path ⟨⟨_, asks'⟩, needs⟩
        cases asks.registry.symm.trans asks'.registry
        rcases needs with missing | ⟨there, -⟩
        · cases missing.symm.trans untold
        · cases there.symm.trans untold
      · rw [ensureRegistry_eq Machine.host asks.registry]
        exact .fail (supply_of_untold untold)
  | fetchFails fetches fails =>
      obtain ⟨_, asks⟩ := fetches.1
      refine ⟨_, .fetches fetches, prepare_of_ensureRegistry asks.given asks.known ?_⟩
      have supplied := supply_of_needs fetches.2
      rw [fails] at supplied
      rw [ensureRegistry_eq Machine.host asks.registry]
      exact .fail supplied
  | missing fetches succeeds missing =>
      obtain ⟨_, asks⟩ := fetches.1
      refine ⟨_, .fetches fetches, prepare_of_ensureRegistry asks.given asks.known ?_⟩
      have supplied := supply_of_needs fetches.2
      rw [succeeds] at supplied
      rw [ensureRegistry_eq Machine.host asks.registry]
      exact .bind supplied (confirm_of_missing missing)
  | unreadable asks has unreadable =>
      obtain ⟨_, -, prepares⟩ := prepare_of_has asks has
      exact ⟨_, has.supplies asks, prepares _ (readSpec_of_unreadable unreadable _)⟩
  | document asks has read malformed =>
      obtain ⟨_, prepares⟩ := prepare_of_read asks has read malformed
      exact ⟨_, has.supplies asks, prepares⟩
  | refused asks has read refused =>
      obtain ⟨_, prepares⟩ := prepare_of_read asks has read refused
      exact ⟨_, has.supplies asks, prepares⟩

/-- The registry holds a specification, which the run generates from. -/
inductive Ready (machine : Machine) (options : Options) (spec : Spec) : Prop where
  | intro {profile : String} {path : Path} {ready : Machine} {bytes : List UInt8}
      (asks : options.Asks profile path) (has : HasRegistry machine options path ready)
      (read : ready.tree.read path = .ok bytes) (loads : Spec.load bytes profile = .ok spec) :
      Ready machine options spec

/-- From a registry that can be read a specification is prepared. -/
theorem leads_of_ready {spec : Spec} (ready : Ready machine options spec) :
    ∃ settings after, Supplies machine options after ∧
      Leads (prepare Machine.host options) machine (.ok (settings, spec)) after := by
  obtain ⟨asks, has, read, loads⟩ := ready
  obtain ⟨settings, prepares⟩ := prepare_of_read asks has read loads
  exact ⟨settings, _, has.supplies asks, prepares⟩

theorem endsEarly_or_ready_of_has {ready : Machine} (asks : options.Asks profile path)
    (has : HasRegistry machine options path ready) :
    (∃ ending, EndsEarly machine options ending) ∨ ∃ spec, Ready machine options spec := by
  cases read : ready.tree.read path with
  | error error => exact .inl ⟨_, .unreadable asks has read⟩
  | ok bytes =>
      match loads : Spec.load bytes profile with
      | .error (.document error) => exact .inl ⟨_, .document asks has read loads⟩
      | .error (.read error) => exact .inl ⟨_, .refused asks has read loads⟩
      | .ok spec => exact .inr ⟨spec, .intro asks has read loads⟩

end

/-- The causes are all that keeps a run from generating. -/
theorem endsEarly_or_ready (machine : Machine) (options : Options) :
    (∃ ending, EndsEarly machine options ending) ∨ ∃ spec, Ready machine options spec := by
  match given : options.profile with
  | none => exact .inl ⟨_, .profileAbsent given⟩
  | some profile =>
  by_cases known : profile ∈ profiles
  · match registry : options.registry with
    | none => exact .inl ⟨_, .registryAbsent given known registry⟩
    | some path =>
    have asks : options.Asks profile path := ⟨given, known, registry⟩
    cases told : machine.tree.contains path with
    | error error => exact .inl ⟨_, .untold asks told⟩
    | ok there =>
    -- The registry is fetched if it is needed, and is there otherwise.
    by_cases needs : options.Needs machine.tree path
    · have fetches : options.Fetches machine.tree path := ⟨⟨profile, asks⟩, needs⟩
      match succeeds : (machine.fetch path).1 with
      | .error error => exact .inl ⟨_, .fetchFails fetches succeeds⟩
      | .ok () =>
          obtain ⟨there, told'⟩ := machine.exists_contains_fetch told
          cases there with
          | false => exact .inl ⟨_, .missing fetches succeeds told'⟩
          | true => exact endsEarly_or_ready_of_has asks (.fetched needs succeeds told')
    · rw [Options.Needs, not_or, told] at needs
      cases there with
      | false => exact absurd rfl needs.1
      | true =>
          exact endsEarly_or_ready_of_has asks (.kept told fun asked => needs.2 ⟨rfl, asked⟩)
  · exact .inl ⟨_, .profileUnknown given known⟩

/-- Whether and how preparing ends a run. -/
theorem exists_prepare (machine : Machine) (options : Options) :
    ∃ outcome after, Leads (prepare Machine.host options) machine outcome after ∧
      Supplies machine options after ∧
      ∀ ending, outcome = .error ending ↔ EndsEarly machine options ending := by
  have settled : ∀ {outcome after},
      Leads (prepare Machine.host options) machine outcome after →
        ∀ ending, EndsEarly machine options ending → outcome = .error ending := by
    intro outcome after leads ending ends
    obtain ⟨_, -, leads'⟩ := leads_of_endsEarly ends
    exact leads.outcome_eq leads'
  rcases endsEarly_or_ready machine options with ⟨ending, ends⟩ | ⟨spec, ready⟩
  · obtain ⟨after, supplies, leads⟩ := leads_of_endsEarly ends
    refine ⟨_, after, leads, supplies, fun other => ⟨?_, settled leads other⟩⟩
    intro same
    cases same
    exact ends
  · obtain ⟨settings, after, supplies, leads⟩ := leads_of_ready ready
    refine ⟨_, after, leads, supplies, fun other => ⟨?_, settled leads other⟩⟩
    intro impossible
    cases impossible

/-! ## Runs -/

def endingOf : Except Ending Unit → Ending
  | .ok () => .exit 0
  | .error ending => ending

theorem run_of_refused {arguments : List String} {error : UsageError}
    (refused : readArguments arguments = .error error) (machine : Machine) :
    machine.run arguments =
      (.exit 2, { machine with reported := machine.reported ++ error.report }) := by
  rw [Machine.run, run.eq_def, refused]
  rfl

theorem run_of_help {arguments : List String} (asked : readArguments arguments = .ok .help)
    (machine : Machine) :
    machine.run arguments = (.exit 0, { machine with printed := machine.printed ++ help }) := by
  rw [Machine.run, run.eq_def, asked]
  rfl

theorem run_of_options {machine : Machine} {arguments : List String} {options : Options}
    (asked : readArguments arguments = .ok (.run options)) :
    machine.run arguments =
      (endingOf ((runOptions Machine.host options).run.run machine).1,
        ((runOptions Machine.host options).run.run machine).2) := by
  rw [Machine.run, run.eq_def, asked]
  dsimp only
  rw [StateT.run_bind]
  generalize (runOptions Machine.host options).run.run machine = result
  obtain ⟨outcome, after⟩ := result
  cases outcome with
  | error ending => rfl
  | ok done => rfl

/-- A run that cannot be prepared is over. -/
theorem run_of_unprepared {machine after : Machine} {arguments : List String} {options : Options}
    {ending : Ending} (asked : readArguments arguments = .ok (.run options))
    (prepares : (prepare Machine.host options).run.run machine = (.error ending, after)) :
    machine.run arguments = (ending, after) := by
  rw [run_of_options asked, runOptions, ExceptT.run_bind, StateT.run_bind, prepares]
  rfl

/-- A run that is prepared generates from what it has read, on the machine as it is then. -/
theorem run_of_prepared {machine after : Machine} {arguments : List String} {options : Options}
    {ready : Settings × Spec} (asked : readArguments arguments = .ok (.run options))
    (prepares : (prepare Machine.host options).run.run machine = (.ok ready, after)) :
    machine.run arguments =
      (endingOf ((generate Machine.host options ready.1 ready.2).run.run after).1,
        ((generate Machine.host options ready.1 ready.2).run.run after).2) := by
  rw [run_of_options asked, runOptions, ExceptT.run_bind, StateT.run_bind, prepares]
  rfl

/-- All that a run fetches it fetches while it prepares. -/
theorem fetches_run {machine after : Machine} {arguments : List String} {options : Options}
    {outcome : Except Ending (Settings × Spec)}
    (asked : readArguments arguments = .ok (.run options))
    (leads : Leads (prepare Machine.host options) machine outcome after) :
    (machine.run arguments).2.fetches = after.fetches := by
  obtain ⟨printed, prepares⟩ := leads.runs
  cases outcome with
  | error ending => rw [run_of_unprepared asked prepares]
  | ok ready =>
      rw [run_of_prepared asked prepares]
      exact unfetching_generate options ready.1 ready.2 { after with printed }

/-- At most one path is fetched, and only the one that needs it. -/
theorem Supplies.attempts {machine after : Machine} {options : Options}
    (supplies : Supplies machine options after) :
    ∃ attempted, after.fetches = machine.fetches ++ attempted ∧ attempted.length ≤ 1 ∧
      ∀ path, path ∈ attempted ↔ options.Fetches machine.tree path := by
  cases supplies with
  | idle never =>
      refine ⟨[], (List.append_nil _).symm, Nat.zero_le 1, fun path => ?_⟩
      exact iff_of_false List.not_mem_nil (never path)
  | @fetches path fetches =>
      refine ⟨[path], machine.fetches_fetch path, Nat.le_refl 1, fun other => ?_⟩
      rw [List.mem_singleton]
      constructor
      · rintro rfl
        exact fetches
      · rintro ⟨⟨_, asks⟩, -⟩
        obtain ⟨_, asks'⟩ := fetches.1
        exact Option.some.inj (asks.registry.symm.trans asks'.registry)

/-- Nothing but the place of the registry changes. -/
theorem Supplies.entry?_eq {machine after : Machine} {options : Options}
    (supplies : Supplies machine options after) {location : Location}
    (elsewhere : ∀ path, options.registry = some path → location ≠ path.target) :
    after.tree.entry? location = machine.tree.entry? location := by
  cases supplies with
  | idle never => rfl
  | fetches fetches =>
      obtain ⟨_, asks⟩ := fetches.1
      exact Machine.entry?_fetch (elsewhere _ asks.registry)

/-- What a run attempts to fetch is the registry, if it is needed. -/
theorem exists_attempts (machine : Machine) (arguments : List String) :
    ∃ attempted, (machine.run arguments).2.fetches = machine.fetches ++ attempted ∧
      attempted.length ≤ 1 ∧
      ∀ path, path ∈ attempted ↔ ∃ options,
        readArguments arguments = .ok (.run options) ∧ options.Fetches machine.tree path := by
  match asked : readArguments arguments with
  | .error error =>
      rw [run_of_refused asked]
      exact ⟨[], (List.append_nil _).symm, Nat.zero_le 1, fun path => by simp⟩
  | .ok .help =>
      rw [run_of_help asked]
      exact ⟨[], (List.append_nil _).symm, Nat.zero_le 1, fun path => by simp⟩
  | .ok (.run options) =>
      obtain ⟨outcome, after, leads, supplies, -⟩ := exists_prepare machine options
      obtain ⟨attempted, fetches, once, exact⟩ := supplies.attempts
      refine ⟨attempted, (fetches_run asked leads).trans fetches, once, fun path => ?_⟩
      rw [exact]
      constructor
      · exact fun fetches => ⟨options, rfl, fetches⟩
      · rintro ⟨_, same, fetches⟩
        cases same
        exact fetches

/-- **A run that ends early leaves all but the registry alone.**  In every run the registry is
fetched at most once, and exactly when it is needed.  Refused arguments and help change no file.
All other runs prepare and then generate.  What ends a run while it prepares is one of the causes of
`EndsEarly`; the run then ends as that says, and wherever the path of the registry does not lead
everything is as it was. -/
theorem ends_early (machine : Machine) (arguments : List String) :
    (∃ attempted, (machine.run arguments).2.fetches = machine.fetches ++ attempted ∧
      attempted.length ≤ 1 ∧
      ∀ path, path ∈ attempted ↔ ∃ options,
        readArguments arguments = .ok (.run options) ∧ options.Fetches machine.tree path) ∧
    (∀ error, readArguments arguments = .error error →
      (machine.run arguments).1 = .exit 2 ∧ (machine.run arguments).2.tree = machine.tree) ∧
    (readArguments arguments = .ok .help →
      (machine.run arguments).1 = .exit 0 ∧ (machine.run arguments).2.tree = machine.tree) ∧
    ∀ options, readArguments arguments = .ok (.run options) →
      (∀ ready after, (prepare Machine.host options).run.run machine = (.ok ready, after) →
        machine.run arguments =
          (endingOf ((generate Machine.host options ready.1 ready.2).run.run after).1,
            ((generate Machine.host options ready.1 ready.2).run.run after).2)) ∧
      ∀ ending,
        (∀ after, (prepare Machine.host options).run.run machine = (.error ending, after) →
          machine.run arguments = (ending, after)) ∧
        (((prepare Machine.host options).run.run machine).1 = .error ending ↔
          EndsEarly machine options ending) ∧
        (EndsEarly machine options ending →
          (machine.run arguments).1 = ending ∧
          ∀ location, (∀ path, options.registry = some path → location ≠ path.target) →
            (machine.run arguments).2.tree.entry? location = machine.tree.entry? location) := by
  refine ⟨exists_attempts machine arguments, ?_, ?_, ?_⟩
  · intro error refused
    rw [run_of_refused refused]
    exact ⟨rfl, rfl⟩
  · intro asked
    rw [run_of_help asked]
    exact ⟨rfl, rfl⟩
  · intro options asked
    obtain ⟨outcome, after, leads, supplies, ends⟩ := exists_prepare machine options
    obtain ⟨printed, prepares⟩ := leads.runs
    refine ⟨fun _ _ => run_of_prepared asked, fun ending => ⟨fun _ => run_of_unprepared asked,
      ?_, fun early => ?_⟩⟩
    · rw [prepares, ← ends]
    · rw [(ends ending).2 early] at prepares
      rw [run_of_unprepared asked prepares]
      exact ⟨rfl, fun location elsewhere => supplies.entry?_eq elsewhere⟩

namespace Sample

/-- A machine without a network, on which there is no registry. -/
def machine : Machine where
  tree := { entries := [(["notes.txt"], .file [35])] }
  clock := { year := 2024, month := 2, day := 29 }
  download := .fails "offline"

theorem endsEarly_machine : EndsEarly machine {} (.exit 1) := by
  have fetches : Options.Fetches {} machine.tree (Path.ofString "gl.xml") :=
    ⟨⟨"core", rfl, by decide, rfl⟩, .inl rfl⟩
  have fails : (machine.fetch (Path.ofString "gl.xml")).1 = .error (.failed "offline") := rfl
  exact .fetchFails fetches fails

/-- The same machine with a registry. -/
def suppliedMachine : Machine :=
  { machine with tree := { entries := [(["gl.xml"], .file GLBindings.Sample.bytes)] } }

theorem ready_suppliedMachine : Ready suppliedMachine {} GLBindings.Sample.spec := by
  have asks : Options.Asks {} "core" (Path.ofString "gl.xml") := ⟨rfl, by decide, rfl⟩
  have there : suppliedMachine.tree.contains (Path.ofString "gl.xml") = .ok true := rfl
  have read : suppliedMachine.tree.read (Path.ofString "gl.xml") =
      .ok GLBindings.Sample.bytes := rfl
  exact .intro asks (.kept there fun asked => Bool.false_ne_true asked.1) read
    GLBindings.Sample.load_bytes

end Sample

/-- Refused arguments, help, a registry that cannot be fetched, and one that is there. -/
theorem ends_early_sample :
    (readArguments ["--nope"] = .error (.unrecognized ["--nope"]) ∧
      (Sample.machine.run ["--nope"]).1 = .exit 2 ∧
      (Sample.machine.run ["--nope"]).2.tree = Sample.machine.tree) ∧
    (readArguments ["-h"] = .ok .help ∧ (Sample.machine.run ["-h"]).1 = .exit 0 ∧
      (Sample.machine.run ["-h"]).2.tree = Sample.machine.tree) ∧
    readArguments [] = .ok (.run {}) ∧ EndsEarly Sample.machine {} (.exit 1) ∧
      (Sample.machine.run []).1 = .exit 1 ∧
      (∀ path, ({} : Options).registry = some path → ["notes.txt"] ≠ path.target) ∧
      (Sample.machine.run []).2.tree.entry? ["notes.txt"] =
        Sample.machine.tree.entry? ["notes.txt"] ∧
    ∃ ready after,
      (prepare Machine.host {}).run.run Sample.suppliedMachine = (.ok ready, after) ∧
      Sample.suppliedMachine.run [] =
        (endingOf ((generate Machine.host {} ready.1 ready.2).run.run after).1,
          ((generate Machine.host {} ready.1 ready.2).run.run after).2) := by
  have elsewhere : ∀ path, ({} : Options).registry = some path → ["notes.txt"] ≠ path.target := by
    intro path given
    cases given
    decide +kernel
  obtain ⟨-, refused, -, -⟩ := ends_early Sample.machine ["--nope"]
  obtain ⟨-, -, helped, -⟩ := ends_early Sample.machine ["-h"]
  obtain ⟨-, -, -, early⟩ := ends_early Sample.machine []
  obtain ⟨-, -, early⟩ := (early {} rfl).2 (.exit 1)
  obtain ⟨ending, others⟩ := early Sample.endsEarly_machine
  obtain ⟨settings, _, -, leads⟩ := leads_of_ready Sample.ready_suppliedMachine
  obtain ⟨printed, prepares⟩ := leads.runs
  obtain ⟨-, -, -, prepared⟩ := ends_early Sample.suppliedMachine []
  exact ⟨⟨rfl, refused _ rfl⟩, ⟨rfl, helped rfl⟩, rfl, Sample.endsEarly_machine, ending, elsewhere,
    others _ elsewhere, _, _, prepares, (prepared {} rfl).1 _ _ prepares⟩

/-! ## Names that are too long -/

/-- Of a name that no file can have it cannot be told whether it is there. -/
theorem contains_of_overlong {name : String} (isName : IsName name)
    (possible : '\x00' ∉ name.toList) (fits : name.utf8ByteSize < 4096)
    (overlong : 255 < name.utf8ByteSize) (tree : Tree) :
    tree.contains (Path.ofString name) = .error .nameTooLong := by
  have text : Path.toString { components := [name] } = name := by simp [Path.toString]
  have follows : tree.follow [] [name] = .error .nameTooLong := by
    rw [Tree.follow, Tree.entry?_of_isAbove rfl]
    exact if_neg (Nat.not_le.2 overlong)
  have locates : tree.locate { components := [name] } = .error .nameTooLong := by
    rw [Tree.locate, text]
    simp [possible, fits, follows]
  rw [Files.ofString_of_isName isName, Tree.contains, locates]

namespace Sample

theorem utf8ByteSize_replicate (n : Nat) :
    (String.ofList (List.replicate n 'a')).utf8ByteSize = n := by
  induction n with
  | zero => rfl
  | succ n ih =>
      rw [List.replicate_succ', String.ofList_append, String.utf8ByteSize_append, ih]
      rfl

/-- One character more than a name can have. -/
def overlongName : String := String.ofList (List.replicate 256 'a')

theorem toList_overlongName : overlongName.toList = 'a' :: List.replicate 255 'a' :=
  String.toList_ofList

theorem contains_overlongName :
    machine.tree.contains (Path.ofString overlongName) = .error .nameTooLong := by
  have size : overlongName.utf8ByteSize = 256 := utf8ByteSize_replicate 256
  have free : ∀ c, c ≠ 'a' → c ∉ overlongName.toList := by
    intro c other member
    rw [toList_overlongName, ← List.replicate_succ] at member
    exact other (List.eq_of_mem_replicate member)
  have differs : ∀ text : String, text.toList.length < 256 → overlongName ≠ text := by
    rintro text short rfl
    rw [toList_overlongName, List.length_cons, List.length_replicate] at short
    omega
  have isName : IsName overlongName := ⟨free '/' (by decide), differs "" (by decide),
    differs "." (by decide), differs ".." (by decide)⟩
  exact contains_of_overlong isName (free '\x00' (by decide)) (by omega) (by omega) _

/-- A fetch is asked for, to a path at which nothing can be. -/
def overlongArguments : List String := ["--download", "--force", "--gl-xml", overlongName]

def overlongOptions : Options where
  registry := some (Path.ofString overlongName)
  download := true
  force := true

theorem readArguments_overlong : readArguments overlongArguments = .ok (.run overlongOptions) := by
  have operand : kindOf overlongName = .ok .operand := by
    rw [kindOf.eq_def, toList_overlongName]
    rfl
  rw [readArguments, overlongArguments]
  simp only [kindsOf, operand]
  rfl

end Sample

/-- A registry that is not there and asked for is still not fetched if its name is too long. -/
theorem overlong_not_fetched :
    ¬ ∀ path, path ∈ (Sample.machine.run Sample.overlongArguments).2.fetches ↔
      ∃ options profile, readArguments Sample.overlongArguments = .ok (.run options) ∧
        options.Asks profile path ∧
        (Sample.machine.tree.at? path = none ∨
          options.download = true ∧ options.force = true) := by
  intro claimed
  have asks : Sample.overlongOptions.Asks "core" (Path.ofString Sample.overlongName) :=
    ⟨rfl, by decide, rfl⟩
  have fetched := (claimed _).2 ⟨_, _, Sample.readArguments_overlong, asks, .inr ⟨rfl, rfl⟩⟩
  obtain ⟨attempted, fetches, -, exact⟩ :=
    exists_attempts Sample.machine Sample.overlongArguments
  rw [fetches] at fetched
  obtain ⟨options, read, -, needs⟩ := (exact _).1 fetched
  rcases needs with missing | ⟨there, -⟩
  · cases missing.symm.trans Sample.contains_overlongName
  · cases there.symm.trans Sample.contains_overlongName

end GLBindings.CommandLine
