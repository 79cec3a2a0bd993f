/-
# Readings that stop

Reading the features of a document stops at the first that has a live name nothing is declared
under, and leaves what the document up to that feature leads to.  `failure_of_readFeatures` says
when a reading stops, at which feature and because of which name, and that nothing but versions has
been added by then.  What stands further down in a document has no influence on any of this.
-/
import GLBindings.Proofs.Registry.Cumulative
import GLBindings.Proofs.Registry.Declared
import GLBindings.Proofs.Registry.Birth
import Mathlib.Data.Nat.Find

namespace GLBindings.Registry

open Xml (Element Node)

set_option autoImplicit false

/-! ## Snapshots one after another -/

variable {registry : Registry}

theorem made_eq_none_iff {l : List Snapshot} :
    (registry.made l).2 = none ↔
      ∀ snapshot ∈ l, ∃ version, snapshot.version registry = .ok version := by
  rw [← exists_forall₂_iff]
  simp only [← made_eq_ok_iff, Prod.ext_iff]
  simp

/-- Where all snapshots stand for versions, those that follow come next. -/
theorem made_append_of_none {first : List Snapshot} (whole : (registry.made first).2 = none)
    (later : List Snapshot) :
    registry.made (first ++ later) =
      ((registry.made first).1 ++ (registry.made later).1, (registry.made later).2) := by
  induction first with
  | nil => rfl
  | cons snapshot rest ih =>
      rw [List.cons_append, made, made]
      rw [made] at whole
      cases stands : snapshot.version registry with
      | error failure =>
          rw [stands] at whole
          cases whole
      | ok version =>
          rw [stands] at whole
          simp only [ih whole, List.cons_append]

/-- Where one does not, those that follow make no difference. -/
theorem made_append_of_ne_none {first : List Snapshot} (stopped : (registry.made first).2 ≠ none)
    (later : List Snapshot) : registry.made (first ++ later) = registry.made first := by
  induction first with
  | nil => exact absurd rfl stopped
  | cons snapshot rest ih =>
      rw [List.cons_append, made, made]
      rw [made] at stopped
      cases stands : snapshot.version registry with
      | error failure => rfl
      | ok version =>
          rw [stands] at stopped
          simp only [ih stopped]

theorem prefix_snapshots {first features : List Feature} (front : first <+: features)
    (histories : Histories) : snapshots histories first <+: snapshots histories features := by
  obtain ⟨later, rfl⟩ := front
  induction first generalizing histories with
  | nil => exact List.nil_prefix
  | cons feature rest ih => exact List.cons_prefix_cons.2 ⟨rfl, ih _⟩

/-- Reading features adds the versions that their snapshots stand for. -/
theorem readFeatures_eq (registry : Registry) (root : Element) (profile : String) :
    registry.readFeatures root profile = {
      registry := { registry with versions := registry.versions ++
        (registry.made (snapshots {} (featuresOf profile root))).1 }
      failure := (registry.made (snapshots {} (featuresOf profile root))).2.map .registry } := by
  rw [readFeatures, versionsOf_eq_made]

/-! ## Documents cut off and continued -/

/-- The document without what stands from a place in its content on. -/
def cutAt (root : Element) (place : Nat) : Element :=
  { root with content := root.content.take place }

def continuedBy (root : Element) (more : List Node) : Element :=
  { root with content := root.content ++ more }

/-- A document is its front continued by the rest. -/
theorem continuedBy_cutAt (root : Element) (place : Nat) :
    continuedBy (cutAt root place) (root.content.drop place) = root := by
  obtain ⟨name, attributes, content⟩ := root
  rw [continuedBy, cutAt, List.take_append_drop]

theorem childrenNamed_continuedBy (root : Element) (more : List Node) (name : String) :
    (continuedBy root more).childrenNamed name =
      root.childrenNamed name ++ (more.filterMap Node.element?).filter (·.name == name) := by
  rw [continuedBy, Element.childrenNamed, Element.childrenNamed, Element.children,
    List.filterMap_append, List.filter_append]
  rfl

/-- A document that goes on has the features it had in front. -/
theorem prefix_featuresOf (profile : String) (root : Element) (more : List Node) :
    featuresOf profile root <+: featuresOf profile (continuedBy root more) := by
  rw [featuresOf, featuresOf, childrenNamed_continuedBy, List.filterMap_append]
  exact List.prefix_append _ _

theorem prefix_eligible (root : Element) (more : List Node) :
    eligible root <+: eligible (continuedBy root more) := by
  rw [eligible, eligible, childrenNamed_continuedBy, List.filter_append]
  exact List.prefix_append _ _

theorem eligible_cutAt {root : Element} {place count : Nat}
    (counted : (eligible (cutAt root place)).length = count) :
    eligible (cutAt root place) = (eligible root).take count := by
  have front := prefix_eligible (cutAt root place) (root.content.drop place)
  rw [continuedBy_cutAt, List.prefix_iff_eq_take, counted] at front
  exact front

theorem snapshots_cutAt {root : Element} {place count : Nat}
    (counted : (eligible (cutAt root place)).length = count) (profile : String) :
    snapshots {} (featuresOf profile (cutAt root place)) =
      (snapshots {} (featuresOf profile root)).take count := by
  have front := prefix_featuresOf profile (cutAt root place) (root.content.drop place)
  rw [continuedBy_cutAt] at front
  have front := List.prefix_iff_eq_take.1 (prefix_snapshots front {})
  rw [length_snapshots, ← (forall₂_featuresOf profile _).length_eq, counted] at front
  exact front

/-- An entry that is kept stands somewhere in the list, behind all that are kept before it. -/
theorem exists_getElem?_of_filterMap {α β : Type} {f : α → Option β} {l : List α} {i : Nat} {b : β}
    (kept : (l.filterMap f)[i]? = some b) :
    ∃ place a, l[place]? = some a ∧ f a = some b ∧ ((l.take place).filterMap f).length = i := by
  induction l generalizing i with
  | nil => cases kept
  | cons a rest ih =>
      cases first : f a with
      | none =>
          rw [List.filterMap_cons_none first] at kept
          obtain ⟨place, c, stands, hc, counted⟩ := ih kept
          refine ⟨place + 1, c, stands, hc, ?_⟩
          rw [List.take_succ_cons, List.filterMap_cons_none first, counted]
      | some d =>
          rw [List.filterMap_cons_some first] at kept
          cases i with
          | zero =>
              cases kept
              exact ⟨0, a, rfl, first, rfl⟩
          | succ i =>
              obtain ⟨place, c, stands, hc, counted⟩ := ih kept
              refine ⟨place + 1, c, stands, hc, ?_⟩
              rw [List.take_succ_cons, List.filterMap_cons_some first, List.length_cons, counted]

def eligible? (node : Node) : Option Element :=
  node.element?.filter fun e => e.name == "feature" && decide (IsEligible e)

theorem eligible_eq_filterMap (root : Element) :
    eligible root = root.content.filterMap eligible? := by
  rw [eligible, Element.childrenNamed, Element.children, List.filter_filter,
    List.filter_filterMap]
  apply List.filterMap_congr
  intro node _
  rw [eligible?]
  congr 1
  funext e
  exact Bool.and_comm _ _

/-- A document can be cut right before each feature that counts. -/
theorem exists_cutAt {root : Element} {place : Nat} {feature : Element}
    (found : (eligible root)[place]? = some feature) :
    ∃ position, root.content[position]? = some (.element feature) ∧
      (eligible (cutAt root position)).length = place := by
  rw [eligible_eq_filterMap] at found
  obtain ⟨position, node, stands, counts, counted⟩ := exists_getElem?_of_filterMap found
  refine ⟨position, ?_, by rw [eligible_eq_filterMap]; exact counted⟩
  rw [stands]
  cases node with
  | text s => cases counts
  | element e =>
      obtain ⟨same, -⟩ := Option.filter_eq_some_iff.1 counts
      cases same
      rfl

/-! ## Undeclared names -/

/-- The names that are live after the features include one that is undeclared. -/
def Lacks (registry : Registry) (profile : String) (features : List Element) : Prop :=
  ∃ kind name, IsAlive profile kind features name ∧ ¬ registry.Declares kind name

/-- Something undeclared is live right after the feature at the place, for its api. -/
def LacksAt (registry : Registry) (profile : String) (root : Element) (place : Nat) : Prop :=
  ∃ feature, (eligible root)[place]? = some feature ∧
    registry.Lacks profile (historyAt (eligible root) place feature)

/-- Of the live names of a kind that are undeclared the name is the first: it was born before the
others. -/
def IsFirstMissing (registry : Registry) (profile : String) (kind : Kind) (features : List Element)
    (name : Option String) : Prop :=
  IsAlive profile kind features name ∧ ¬ registry.Declares kind name ∧
    ∃ birth, IsBirth (features.map (changeOf profile kind)) name birth ∧
      ∀ other place, IsAlive profile kind features other → ¬ registry.Declares kind other →
        IsBirth (features.map (changeOf profile kind)) other place → birth ≤ place

/-- The failure names what is missing: the first undeclared constant, or if there is none the first
undeclared command. -/
def Blames (registry : Registry) (profile : String) (features : List Element)
    (failure : ReadError) : Prop :=
  ∃ kind name, registry.IsFirstMissing profile kind features name ∧
    (kind = .command → ∀ other, IsAlive profile .constant features other →
      registry.Declares .constant other) ∧
    failure = .registry (.undeclared kind name) ∧
    failure.message = "Feature requires undeclared " ++ kind.tag ++ " " ++ name.getD "None"

/-- Live names stand in the order of their births, so the first that is undeclared was born before
the others. -/
theorem isFirstMissing_of_isFirstUndeclared {profile : String} {kind : Kind}
    {features : List Element} {name : Option String}
    (isFirst : registry.IsFirstUndeclared kind (live (features.map (changeOf profile kind))) name) :
    registry.IsFirstMissing profile kind features name := by
  obtain ⟨before, after, split, declared, undeclared⟩ := isFirst
  have alive : name ∈ live (features.map (changeOf profile kind)) := by
    rw [split]
    exact List.mem_append_right _ List.mem_cons_self
  obtain ⟨birth, born⟩ := exists_isBirth alive
  refine ⟨mem_live_iff_isAlive.1 alive, undeclared, birth, born, ?_⟩
  intro other place otherAlive otherUndeclared otherBorn
  by_cases same : other = name
  · subst same
    exact Nat.le_of_eq (IsFirstPlace.unique born otherBorn)
  · apply Nat.le_of_lt
    rw [← idxOf_live_lt_iff born otherBorn, split,
      List.idxOf_append_of_notMem fun member => undeclared (declared _ member),
      List.idxOf_append_of_notMem fun member => otherUndeclared (declared _ member),
      List.idxOf_cons_self, List.idxOf_cons_ne after (Ne.symm same)]
    omega

/-- A snapshot stands for a version unless something undeclared is live at its place. -/
theorem exists_version_iff_not_lacksAt (filled : Filled registry.constants) {profile : String}
    {root : Element} {place : Nat} {snapshot : Snapshot}
    (taken : (snapshots {} (featuresOf profile root))[place]? = some snapshot) :
    (∃ version, snapshot.version registry = .ok version) ↔
      ¬ registry.LacksAt profile root place := by
  have bound : place < (eligible root).length := by
    rw [(forall₂_featuresOf profile root).length_eq, ← length_snapshots {}]
    exact (List.getElem?_eq_some_iff.1 taken).1
  obtain ⟨own, hown, -, names_of⟩ := exists_snapshot profile (List.getElem?_eq_getElem bound)
  cases taken.symm.trans hown
  rw [Snapshot.version, exists_version_iff filled]
  simp only [names_of, mem_live_iff_isAlive]
  constructor
  · rintro declared ⟨feature, found, kind, name, alive, undeclared⟩
    cases (List.getElem?_eq_getElem bound).symm.trans found
    exact undeclared (declared kind name alive)
  · intro complete kind name alive
    by_contra undeclared
    exact complete ⟨_, List.getElem?_eq_getElem bound, kind, name, alive, undeclared⟩

/-- Versions are made as long as nothing that is live is lacking. -/
theorem made_snapshots_eq_none_iff (filled : Filled registry.constants) (profile : String)
    (root : Element) (count : Nat) :
    (registry.made ((snapshots {} (featuresOf profile root)).take count)).2 = none ↔
      ∀ place < count, ¬ registry.LacksAt profile root place := by
  rw [made_eq_none_iff]
  constructor
  · rintro each place before ⟨feature, found, lacks⟩
    obtain ⟨snapshot, taken, -⟩ := exists_snapshot profile found
    have member : snapshot ∈ (snapshots {} (featuresOf profile root)).take count := by
      rw [List.mem_iff_getElem?]
      exact ⟨place, by rw [List.getElem?_take_of_lt before, taken]⟩
    exact (exists_version_iff_not_lacksAt filled taken).1 (each snapshot member)
      ⟨feature, found, lacks⟩
  · intro complete snapshot member
    obtain ⟨place, taken⟩ := List.mem_iff_getElem?.1 member
    rw [List.getElem?_take] at taken
    split at taken
    · rename_i before
      exact (exists_version_iff_not_lacksAt filled taken).2 (complete place before)
    · cases taken

/-! ## Where reading stops -/

/-- Reading stops at the feature with the number `place`, which stands at `position` in the
document: its failure blames a name that is live there, and it leaves what a reading of the document
cut off before the feature leaves, which succeeds. -/
structure StopsAt (registry : Registry) (profile : String) (root : Element) (place position : Nat) :
    Prop where
  before : eligible (cutAt root position) = (eligible root).take place
  blames : ∃ feature failure, root.content[position]? = some (.element feature) ∧
    (eligible root)[place]? = some feature ∧
    (registry.readFeatures root profile).failure = some failure ∧
    registry.Blames profile (historyAt (eligible root) place feature) failure
  kept : registry.readFeatures (cutAt root position) profile =
    { registry := (registry.readFeatures root profile).registry, failure := none }

/-- Reading succeeds when nothing undeclared is ever live. -/
theorem failure_eq_none_iff (filled : Filled registry.constants) (root : Element)
    (profile : String) :
    (registry.readFeatures root profile).failure = none ↔
      ∀ place, ¬ registry.LacksAt profile root place := by
  have whole := made_snapshots_eq_none_iff filled profile root
    (snapshots {} (featuresOf profile root)).length
  rw [List.take_length] at whole
  rw [readFeatures_eq, Option.map_eq_none_iff, whole]
  constructor
  · rintro complete place ⟨feature, found, lacks⟩
    refine complete place ?_ ⟨feature, found, lacks⟩
    rw [length_snapshots, ← (forall₂_featuresOf profile root).length_eq]
    exact (List.getElem?_eq_some_iff.1 found).1
  · intro complete place _
    exact complete place

/-- At the first place where something is missing no version can be made, and the versions are those
of the places before it. -/
theorem exists_made_eq (filled : Filled registry.constants) {profile : String} {root : Element}
    {place : Nat} (lacks : registry.LacksAt profile root place)
    (isFirst : ∀ earlier < place, ¬ registry.LacksAt profile root earlier) {snapshot : Snapshot}
    (taken : (snapshots {} (featuresOf profile root))[place]? = some snapshot) :
    ∃ error, snapshot.version registry = .error error ∧
      registry.made (snapshots {} (featuresOf profile root)) =
        ((registry.made ((snapshots {} (featuresOf profile root)).take place)).1, some error) := by
  have split : snapshots {} (featuresOf profile root) =
      (snapshots {} (featuresOf profile root)).take place ++
        snapshot :: (snapshots {} (featuresOf profile root)).drop (place + 1) := by
    obtain ⟨bound, here⟩ := List.getElem?_eq_some_iff.1 taken
    rw [← here, ← List.drop_eq_getElem_cons bound, List.take_append_drop]
  have whole := (made_snapshots_eq_none_iff filled profile root place).2 isFirst
  cases outcome : snapshot.version registry with
  | error error =>
      refine ⟨error, rfl, ?_⟩
      rw [congrArg registry.made split, made_append_of_none whole, made, outcome]
      simp
  | ok version =>
      exact absurd lacks ((exists_version_iff_not_lacksAt filled taken).1 ⟨version, outcome⟩)

/-- Reading stops at the first feature for which something is lacking. -/
theorem exists_stopsAt (filled : Filled registry.constants) {profile : String} {root : Element}
    {place : Nat} (lacks : registry.LacksAt profile root place)
    (isFirst : ∀ earlier < place, ¬ registry.LacksAt profile root earlier) :
    ∃ position, registry.StopsAt profile root place position := by
  obtain ⟨feature, found, -⟩ := id lacks
  obtain ⟨position, stands, counted⟩ := exists_cutAt found
  obtain ⟨snapshot, taken, -, names_of⟩ := exists_snapshot profile found
  obtain ⟨error, fails, stopped⟩ := exists_made_eq filled lacks isFirst taken
  have reading := registry.readFeatures_eq root profile
  rw [stopped] at reading
  refine ⟨position, eligible_cutAt counted, ?_, ?_⟩
  · refine ⟨feature, .registry error, stands, found, by rw [reading]; rfl, ?_⟩
    obtain ⟨kind, name, missing, declared, rfl⟩ := (version_eq_error_iff filled).1 fails
    rw [names_of] at missing
    refine ⟨kind, name, isFirstMissing_of_isFirstUndeclared missing, ?_, rfl,
      RegistryError.message_undeclared kind name⟩
    intro second other alive
    rw [← mem_live_iff_isAlive, ← names_of] at alive
    exact declared second other alive
  · -- Up to the cut nothing is lacking, and the same versions are made.
    have whole := (made_snapshots_eq_none_iff filled profile root place).2 isFirst
    rw [readFeatures_eq, snapshots_cutAt counted, whole, reading]
    rfl

/-- What follows a failure is never read, and no continuation takes back a version. -/
theorem readFeatures_continuedBy {root : Element} {profile : String} (more : List Node) :
    ((registry.readFeatures root profile).failure ≠ none →
      registry.readFeatures (continuedBy root more) profile = registry.readFeatures root profile) ∧
    (registry.readFeatures root profile).registry.versions <+:
      (registry.readFeatures (continuedBy root more) profile).registry.versions := by
  obtain ⟨later, split⟩ := prefix_snapshots (prefix_featuresOf profile root more) {}
  rw [readFeatures_eq, readFeatures_eq, ← split]
  by_cases whole : (registry.made (snapshots {} (featuresOf profile root))).2 = none
  · constructor
    · intro stopped
      exact absurd (Option.map_eq_none_iff.2 whole) stopped
    · rw [made_append_of_none whole]
      exact (List.prefix_append_right_inj _).2 (List.prefix_append _ _)
  · rw [made_append_of_ne_none whole]
    exact ⟨fun _ => rfl, List.prefix_refl _⟩

/-- **Reading stops at the first feature with a live name that is undeclared, and leaves what the
document up to there leads to.** -/
theorem failure_of_readFeatures {registry : Registry} (reached : Reached registry) (root : Element)
    (profile : String) :
    ((registry.readFeatures root profile).failure ≠ none ↔
      ∃ place, registry.LacksAt profile root place) ∧
    (∀ place, registry.LacksAt profile root place →
      (∀ earlier < place, ¬ registry.LacksAt profile root earlier) →
        ∃ position, registry.StopsAt profile root place position) ∧
    (∃ added, (registry.readFeatures root profile).registry =
      { registry with versions := registry.versions ++ added }) ∧
    ∀ more,
      ((registry.readFeatures root profile).failure ≠ none →
        registry.readFeatures (continuedBy root more) profile =
          registry.readFeatures root profile) ∧
      (registry.readFeatures root profile).registry.versions <+:
        (registry.readFeatures (continuedBy root more) profile).registry.versions := by
  refine ⟨?_, ?_, ?_, ?_⟩
  · rw [Ne, failure_eq_none_iff reached.filled, not_forall_not]
  · intro place lacks isFirst
    exact exists_stopsAt reached.filled lacks isFirst
  · exact ⟨_, congrArg Reading.registry (registry.readFeatures_eq root profile)⟩
  · intro more
    exact readFeatures_continuedBy more

namespace Sample

/-- Nothing is declared under `glLost` and `GL_LOST`.  The first feature requires the one and
removes it again, and the second requires it for another profile only; the third needs both, and the
fourth comes too late to remove them. -/
def broken : Element := ⟨"registry", [], [
  feature "gl" "1.0" [
    block "remove" "core" [entry "command" "glLost"],
    block "require" "core" [entry "command" "glBegin", entry "command" "glLost"]],
  feature "gles1" "1.0" [
    block "require" "core" [entry "command" "glEnd"],
    block "require" "compatibility" [entry "command" "glLost"]],
  feature "gl" "3.0" [
    block "require" "core" [entry "command" "glLost", entry "enum" "GL_LOST"]],
  feature "gl" "3.1" [
    block "remove" "core" [entry "command" "glLost", entry "enum" "GL_LOST"]]]⟩

end Sample

theorem failure_of_readFeatures_sample :
    (Sample.registry.readFeatures Sample.broken "core").failure =
        some (.registry (.undeclaredConstant (some "GL_LOST"))) ∧
      (Sample.registry.readFeatures Sample.broken "core").registry.versions.map (·.name) =
        ["GL10", "GLES10"] ∧
      ∃ place position, Sample.registry.LacksAt "core" Sample.broken place ∧
        Sample.registry.StopsAt "core" Sample.broken place position := by
  have stopped : (Sample.registry.readFeatures Sample.broken "core").failure =
      some (.registry (.undeclaredConstant (some "GL_LOST"))) := by
    decide +kernel
  obtain ⟨stops_iff, stops, -, -⟩ := failure_of_readFeatures Sample.reached Sample.broken "core"
  have lacks := stops_iff.1 (by simp [stopped])
  classical
  obtain ⟨position, stopsAt⟩ :=
    stops (Nat.find lacks) (Nat.find_spec lacks) fun _ before => Nat.find_min lacks before
  exact ⟨stopped, by decide +kernel, Nat.find lacks, position, Nat.find_spec lacks, stopsAt⟩

end GLBindings.Registry
