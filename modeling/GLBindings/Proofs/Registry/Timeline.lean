/-
# Timelines

Features of different apis follow each other in any order, and each continues the history of its own
api.  A timeline (`snapshots`) lists for every feature what its api offers right after it; versions
are `made` of its snapshots, one of each up to the first that something is missing for
(`versionsOf_eq_made`).  What stands in a snapshot is decided by the features of the same api alone
(`getElem?_snapshots`), for names of either kind (`of_foldl_after`).
-/
import GLBindings.Proofs.Outcome
import GLBindings.Proofs.Registry.Live
import GLBindings.Proofs.Registry.Reached

namespace GLBindings.Registry

set_option autoImplicit false

/-! ## Kinds of names -/

inductive Kind where
  | constant
  | command
  deriving DecidableEq

def Kind.tag : Kind → String
  | .constant => "enum"
  | .command => "command"

def Names.of (names : Names) : Kind → List (Option String)
  | .constant => names.constants
  | .command => names.commands

/-- What a feature does to the names of a kind. -/
def Feature.change (kind : Kind) (feature : Feature) : Change where
  required := feature.required.of kind
  removed := feature.removed.of kind

theorem of_after (kind : Kind) (names : Names) (feature : Feature) :
    (names.after feature).of kind =
      advance (names.of kind) (feature.change kind).required (feature.change kind).removed := by
  cases kind with
  | constant => rfl
  | command => rfl

theorem of_foldl_after (kind : Kind) (names : Names) (features : List Feature) :
    (features.foldl Names.after names).of kind =
      liveFrom (names.of kind) (features.map (Feature.change kind)) := by
  induction features generalizing names with
  | nil => rfl
  | cons feature rest ih =>
      rw [List.foldl_cons, ih, of_after]
      rfl

/-! ## Snapshots -/

/-- A feature, and what its api offers right after it. -/
structure Snapshot where
  feature : Feature
  live : Names

def Snapshot.version (registry : Registry) (snapshot : Snapshot) : Except RegistryError Version :=
  registry.version snapshot.feature.api snapshot.feature.number snapshot.live

def snapshots (histories : Histories) : List Feature → List Snapshot
  | [] => []
  | feature :: rest =>
      let live := (histories.get feature.api).after feature
      ⟨feature, live⟩ :: snapshots (histories.set feature.api live) rest

def featuresFor (api : Api) (features : List Feature) : List Feature :=
  features.filter fun feature => feature.api = api

theorem length_snapshots (histories : Histories) (features : List Feature) :
    (snapshots histories features).length = features.length := by
  induction features generalizing histories with
  | nil => rfl
  | cons feature rest ih => simp only [snapshots, List.length_cons, ih]

/-- Each snapshot is decided by the features of its api up to its own. -/
theorem getElem?_snapshots (histories : Histories) (features : List Feature) (i : Nat) :
    (snapshots histories features)[i]? = features[i]?.map fun feature =>
      ⟨feature, (featuresFor feature.api (features.take (i + 1))).foldl Names.after
        (histories.get feature.api)⟩ := by
  induction features generalizing histories i with
  | nil => rfl
  | cons first rest ih =>
      cases i with
      | zero => simp [snapshots, featuresFor]
      | succ i =>
          rw [snapshots, List.getElem?_cons_succ, List.getElem?_cons_succ, ih]
          apply congrArg (fun found => Option.map found rest[i]?)
          funext feature
          rw [List.take_succ_cons, featuresFor, featuresFor, Histories.get_set]
          by_cases same : feature.api = first.api
          · simp [same]
          · have other : first.api ≠ feature.api := Ne.symm same
            simp [same, other]

/-- The versions that snapshots stand for, up to the first that stands for none. -/
def made (registry : Registry) : List Snapshot → List Version × Option RegistryError
  | [] => ([], none)
  | snapshot :: rest =>
      match snapshot.version registry with
      | .error failure => ([], some failure)
      | .ok version =>
          let (versions, failure) := registry.made rest
          (version :: versions, failure)

/-- Features are turned into versions one snapshot at a time. -/
theorem versionsOf_eq_made (registry : Registry) (histories : Histories)
    (features : List Feature) :
    registry.versionsOf histories features = registry.made (snapshots histories features) := by
  induction features generalizing histories with
  | nil => rfl
  | cons feature rest ih =>
      rw [versionsOf, snapshots, made, Snapshot.version]
      dsimp only
      cases registry.version feature.api feature.number
          ((histories.get feature.api).after feature) with
      | error failure => rfl
      | ok version => simp only [ih]

/-- All snapshots are made into versions exactly when each is. -/
theorem made_eq_ok_iff {registry : Registry} {l : List Snapshot} {versions : List Version} :
    registry.made l = (versions, none) ↔
      List.Forall₂ (fun snapshot version => snapshot.version registry = .ok version)
        l versions := by
  induction l generalizing versions with
  | nil =>
      rw [made, List.forall₂_nil_left_iff, Prod.mk.injEq]
      simp [eq_comm]
  | cons snapshot rest ih =>
      rw [made, List.forall₂_cons_left_iff]
      cases snapshot.version registry with
      | error failure => simp
      | ok version =>
          dsimp only
          constructor
          · intro same
            obtain ⟨rfl, none⟩ := Prod.mk.inj same
            exact ⟨version, _, rfl, ih.1 (Prod.ext rfl none), rfl⟩
          · rintro ⟨own, others, ⟨⟩, hothers, rfl⟩
            rw [ih.2 hothers]

/-- Features lead to versions exactly when each snapshot does. -/
theorem versionsOf_eq_ok_iff {registry : Registry} {histories : Histories}
    {features : List Feature} {versions : List Version} :
    registry.versionsOf histories features = (versions, none) ↔
      List.Forall₂ (fun snapshot version => snapshot.version registry = .ok version)
        (snapshots histories features) versions := by
  rw [versionsOf_eq_made, made_eq_ok_iff]

/-! ## Versions -/

/-- A version is made of what its live names lead to. -/
theorem version_eq_ok_iff {registry : Registry} {api : Api} {number : String} {live : Names}
    {version : Version} :
    registry.version api number live = .ok version ↔
      version.family = api.family ∧ version.name = versionName api.family number ∧
        version.number = number ∧
        List.Forall₂
          (fun name constant => registry.lookupConstant (some api.name) name = .ok constant)
          live.constants version.constants ∧
        List.Forall₂ (fun name command => registry.lookupCommand name = .ok command)
          live.commands version.commands := by
  simp only [Registry.version, bind_eq_ok_iff, mapM_eq_ok_iff]
  constructor
  · rintro ⟨constants, hconstants, commands, hcommands, made⟩
    cases made
    exact ⟨rfl, rfl, rfl, hconstants, hcommands⟩
  · rintro ⟨hfamily, hname, hnumber, hconstants, hcommands⟩
    refine ⟨version.constants, hconstants, version.commands, hcommands, ?_⟩
    rw [← hfamily, ← hnumber] at hname
    rw [← hfamily, ← hnumber, ← hname]
    rfl

theorem map_some_eq_of_forall₂ {α : Type} {name : α → String} {found : Option String → α → Prop}
    (named : ∀ key a, found key a → some (name a) = key) {keys : List (Option String)}
    {things : List α} (each : List.Forall₂ found keys things) :
    (things.map name).map some = keys := by
  induction each with
  | nil => rfl
  | cons first _ ih => rw [List.map_cons, List.map_cons, named _ _ first, ih]

end GLBindings.Registry

namespace GLBindings

open Registry (Kind Names Api)

def Version.names (version : Version) : Kind → List String
  | .constant => version.constants.map Constant.name
  | .command => version.commands.map Command.name

/-- Where things are filed under their names, a version offers exactly the live names. -/
theorem Registry.WellKeyed.names_of_version {registry : Registry} (keyed : registry.WellKeyed)
    {api : Api} {number : String} {live : Names} {version : Version}
    (made : registry.version api number live = .ok version) (kind : Kind) :
    (version.names kind).map some = live.of kind := by
  obtain ⟨-, -, -, hconstants, hcommands⟩ := Registry.version_eq_ok_iff.1 made
  cases kind with
  | constant =>
      refine Registry.map_some_eq_of_forall₂ ?_ hconstants
      intro name constant found
      exact keyed.name_of_lookupConstant found
  | command =>
      refine Registry.map_some_eq_of_forall₂ ?_ hcommands
      intro name command found
      exact keyed.name_of_lookupCommand found

end GLBindings
