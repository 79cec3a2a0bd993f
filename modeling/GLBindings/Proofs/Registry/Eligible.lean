/-
# Features as a document writes them

Which features of a document count, which of their blocks apply, and what those mention, said of the
elements themselves.  A document's features are its eligible elements, one for one and in order
(`forall₂_featuresOf`), each with the changes that its applicable blocks mention
(`Stands.change_eq`).
-/
import GLBindings.Proofs.Registry.Timeline

namespace GLBindings.Registry

open Xml (Element)

set_option autoImplicit false

/-- A feature counts if its api is one that bindings are made for and it has a number. -/
def IsEligible (e : Element) : Prop :=
  (e.attribute? "api" = some "gl" ∨ e.attribute? "api" = some "gles1" ∨
    e.attribute? "api" = some "gles2") ∧
  ∃ number ∈ e.attribute? "number", number ≠ ""

instance (e : Element) : Decidable (IsEligible e) := inferInstanceAs (Decidable (_ ∧ _))

def eligible (root : Element) : List Element :=
  (root.childrenNamed "feature").filter (IsEligible ·)

/-- A block applies unless it is meant for another profile or for another api than its feature's. -/
def IsApplicable (profile : String) (feature block : Element) : Prop :=
  (block.attribute? "profile" = none ∨ block.attribute? "profile" = some profile) ∧
    (block.attribute? "api" = none ∨ block.attribute? "api" = feature.attribute? "api")

instance (profile : String) (feature block : Element) :
    Decidable (IsApplicable profile feature block) := inferInstanceAs (Decidable (_ ∧ _))

def applicable (profile tag : String) (feature : Element) : List Element :=
  (feature.childrenNamed tag).filter (IsApplicable profile feature ·)

/-- An applicable block with the tag mentions the name among its entries of the kind. -/
def Mentions (profile tag : String) (kind : Kind) (feature : Element) (name : String) : Prop :=
  ∃ block ∈ applicable profile tag feature, ∃ entry ∈ block.childrenNamed kind.tag,
    entry.attribute? "name" = some name

/-- The features up to the one at the place that share its api, that one last. -/
def historyAt (features : List Element) (place : Nat) (feature : Element) : List Element :=
  (features.take (place + 1)).filter fun e => e.attribute? "api" = feature.attribute? "api"

/-! ## What a feature stands for -/

/-- The changes to the names of a kind that the applicable blocks of a feature mention. -/
def changeOf (profile : String) (kind : Kind) (feature : Element) : Change where
  required := mentions kind.tag (applicable profile "require" feature)
  removed := mentions kind.tag (applicable profile "remove" feature)

theorem mem_mentions_iff {profile tag : String} {kind : Kind} {feature : Element} {name : String} :
    some name ∈ mentions kind.tag (applicable profile tag feature) ↔
      Mentions profile tag kind feature name := by
  simp only [mentions, Mentions, List.mem_flatMap, List.mem_map]

/-- Among the features, one requires the name and none from there on removes it; all entries without
a name share the one that is missing. -/
def IsAlive (profile : String) (kind : Kind) (features : List Element) (name : Option String) :
    Prop :=
  ∃ earlier feature later, features = earlier ++ feature :: later ∧
    name ∈ mentions kind.tag (applicable profile "require" feature) ∧
    ∀ other ∈ feature :: later, name ∉ mentions kind.tag (applicable profile "remove" other)

theorem mem_live_iff_isAlive {profile : String} {kind : Kind} {features : List Element}
    {name : Option String} :
    name ∈ live (features.map (changeOf profile kind)) ↔ IsAlive profile kind features name := by
  rw [mem_live_iff]
  constructor
  · rintro ⟨before, change, after, split, required, kept⟩
    obtain ⟨earlier, rest, rfl, rfl, hrest⟩ := List.map_eq_append_iff.1 split
    obtain ⟨feature, later, rfl, rfl, rfl⟩ := List.map_eq_cons_iff.1 hrest
    rw [← List.map_cons, List.forall_mem_map] at kept
    exact ⟨earlier, feature, later, rfl, required, kept⟩
  · rintro ⟨earlier, feature, later, rfl, required, kept⟩
    refine ⟨_, _, _, by rw [List.map_append, List.map_cons], required, ?_⟩
    rw [← List.map_cons, List.forall_mem_map]
    exact kept

structure Stands (profile : String) (e : Element) (feature : Feature) : Prop where
  api : e.attribute? "api" = some feature.api.name
  number : e.attribute? "number" = some feature.number
  numbered : feature.number ≠ ""
  change_eq : ∀ kind, feature.change kind = changeOf profile kind e

theorem ofName?_eq_some_iff {name : String} {api : Api} :
    Api.ofName? name = some api ↔ name = api.name := by
  constructor
  · intro known
    rw [Api.ofName?] at known
    split at known
    · rename_i same
      cases known
      exact same
    · split at known
      · rename_i same
        cases known
        exact same
      · split at known
        · rename_i same
          cases known
          exact same
        · cases known
  · rintro rfl
    cases api <;> decide

theorem name_injective : Function.Injective Api.name := by
  intro a b same
  have known := ofName?_eq_some_iff.2 same
  rw [ofName?_eq_some_iff.2 rfl] at known
  exact Option.some.inj known

theorem isEligible_iff {e : Element} :
    IsEligible e ↔ ∃ api : Api, e.attribute? "api" = some api.name ∧
      ∃ number, e.attribute? "number" = some number ∧ number ≠ "" := by
  constructor
  · rintro ⟨api, numbered⟩
    rcases api with gl | gles1 | gles2
    · exact ⟨.gl, gl, numbered⟩
    · exact ⟨.gles1, gles1, numbered⟩
    · exact ⟨.gles2, gles2, numbered⟩
  · rintro ⟨api, known, numbered⟩
    refine ⟨?_, numbered⟩
    cases api with
    | gl => exact .inl known
    | gles1 => exact .inr (.inl known)
    | gles2 => exact .inr (.inr known)

theorem applies_eq {profile : String} {api : Api} {feature block : Element}
    (own : feature.attribute? "api" = some api.name) :
    applies api profile block = decide (IsApplicable profile feature block) := by
  rw [Bool.eq_iff_iff, decide_eq_true_iff]
  unfold applies IsApplicable
  rw [own]
  cases block.attribute? "profile" <;> cases block.attribute? "api" <;> simp

theorem stands_of_ofElement? {profile : String} {e : Element} {feature : Feature}
    (read : Feature.ofElement? profile e = some feature) : Stands profile e feature := by
  simp only [Feature.ofElement?, Option.bind_eq_bind, Option.bind_eq_some_iff] at read
  obtain ⟨name, hname, api, hapi, number, hnumber, read⟩ := read
  cases ofName?_eq_some_iff.1 hapi
  split at read
  · cases read
  · rename_i numbered
    cases read
    refine ⟨hname, hnumber, numbered, ?_⟩
    intro kind
    have blocks : ∀ tag, (e.childrenNamed tag).filter (applies api profile) =
        applicable profile tag e := by
      intro tag
      exact List.filter_congr fun block _ => applies_eq hname
    cases kind with
    | constant => simp [Feature.change, Names.ofBlocks, Names.of, changeOf, blocks, Kind.tag]
    | command => simp [Feature.change, Names.ofBlocks, Names.of, changeOf, blocks, Kind.tag]

theorem isSome_ofElement? {profile : String} {e : Element} :
    (Feature.ofElement? profile e).isSome = decide (IsEligible e) := by
  cases read : Feature.ofElement? profile e with
  | some feature =>
      have stands := stands_of_ofElement? read
      have counts : IsEligible e :=
        isEligible_iff.2 ⟨_, stands.api, _, stands.number, stands.numbered⟩
      simp [counts]
  | none =>
      have skipped : ¬ IsEligible e := by
        intro counts
        obtain ⟨api, known, number, hnumber, numbered⟩ := isEligible_iff.1 counts
        have tracked : Api.ofName? api.name = some api := ofName?_eq_some_iff.2 rfl
        simp [Feature.ofElement?, known, tracked, hnumber, numbered] at read
      simp [skipped]

/-- The features of a document are its eligible elements. -/
theorem forall₂_featuresOf (profile : String) (root : Element) :
    List.Forall₂ (Stands profile) (eligible root) (featuresOf profile root) := by
  rw [eligible, featuresOf]
  induction root.childrenNamed "feature" with
  | nil => exact .nil
  | cons e rest ih =>
      have counted := @isSome_ofElement? profile e
      cases read : Feature.ofElement? profile e with
      | some feature =>
          have counts : IsEligible e := by
            rw [read] at counted
            exact of_decide_eq_true counted.symm
          rw [List.filter_cons, if_pos (decide_eq_true counts), List.filterMap_cons_some read]
          exact .cons (stands_of_ofElement? read) ih
      | none =>
          have skipped : ¬ IsEligible e := by
            rw [read] at counted
            exact of_decide_eq_false counted.symm
          rw [List.filter_cons, if_neg (by simpa using skipped), List.filterMap_cons_none read]
          exact ih

/-- The changes in the history of a feature. -/
theorem changes_eq {profile : String} (kind : Kind) {elements : List Element}
    {features : List Feature} (stand : List.Forall₂ (Stands profile) elements features)
    {place : Nat} {e : Element} {feature : Feature} (own : Stands profile e feature) :
    (featuresFor feature.api (features.take (place + 1))).map (Feature.change kind) =
      (historyAt elements place e).map (changeOf profile kind) := by
  have taken := List.forall₂_take (place + 1) stand
  rw [featuresFor, historyAt, own.api]
  generalize elements.take (place + 1) = elements at taken ⊢
  generalize features.take (place + 1) = features at taken ⊢
  induction taken with
  | nil => rfl
  | @cons first feature' elements' features' stands _ ih =>
      by_cases same : feature'.api = feature.api
      · have known : first.attribute? "api" = some feature.api.name := by rw [stands.api, same]
        simp only [List.filter_cons, same, known, decide_true, if_true, List.map_cons, ih,
          stands.change_eq]
      · have other : ¬ first.attribute? "api" = some feature.api.name := by
          rw [stands.api]
          intro known
          exact same (name_injective (Option.some.inj known))
        simp only [List.filter_cons, same, other, decide_false, Bool.false_eq_true, if_false, ih]

/-- The snapshot at a place is of the feature there, and shows the names that its history leaves. -/
theorem exists_snapshot (profile : String) {root : Element} {place : Nat} {e : Element}
    (he : (eligible root)[place]? = some e) :
    ∃ snapshot, (snapshots {} (featuresOf profile root))[place]? = some snapshot ∧
      Stands profile e snapshot.feature ∧
      ∀ kind, snapshot.live.of kind =
        live ((historyAt (eligible root) place e).map (changeOf profile kind)) := by
  have stand := forall₂_featuresOf profile root
  obtain ⟨feature, hfeature, stands⟩ := exists_getElem?_of_forall₂ stand he
  have taken := getElem?_snapshots {} (featuresOf profile root) place
  rw [hfeature, Option.map_some] at taken
  refine ⟨_, taken, stands, ?_⟩
  intro kind
  have fresh : ((Histories.get {} feature.api).of kind) = [] := by
    cases feature.api <;> cases kind <;> rfl
  rw [of_foldl_after, fresh, changes_eq kind stand stands, live]

/-! ## The versions that a document adds -/

/-- The versions are what the features of the document lead to. -/
def Adds (registry : Registry) (profile : String) (root : Element) (added : List Version) : Prop :=
  List.Forall₂ (fun snapshot version => snapshot.version registry = .ok version)
    (snapshots {} (featuresOf profile root)) added

/-- Reading features that succeeds leads to a version for each of them and changes nothing else. -/
theorem exists_adds {registry : Registry} {root : Element} {profile : String}
    (succeeds : (registry.readFeatures root profile).failure = none) :
    ∃ added, Adds registry profile root added ∧
      (registry.readFeatures root profile).registry =
        { registry with versions := registry.versions ++ added } := by
  rw [readFeatures] at succeeds ⊢
  cases made : registry.versionsOf {} (featuresOf profile root) with
  | mk added failure =>
      simp only [made, Option.map_eq_none_iff] at succeeds ⊢
      subst succeeds
      exact ⟨added, versionsOf_eq_ok_iff.1 made, rfl⟩

namespace Adds

variable {registry : Registry} {profile : String} {root : Element} {added : List Version}

theorem readFeatures_eq (adds : Adds registry profile root added) :
    registry.readFeatures root profile =
      { registry := { registry with versions := registry.versions ++ added }
        failure := none } := by
  rw [readFeatures, versionsOf_eq_ok_iff.2 adds]
  rfl

theorem length_eq (adds : Adds registry profile root added) :
    added.length = (eligible root).length := by
  have snapshotted := List.Forall₂.length_eq adds
  rw [length_snapshots] at snapshotted
  rw [← snapshotted, (forall₂_featuresOf profile root).length_eq]

/-- The version at a place is made for the feature there, of the names that its history leaves. -/
theorem exists_made (adds : Adds registry profile root added) {place : Nat} {e : Element}
    {version : Version} (he : (eligible root)[place]? = some e)
    (hversion : added[place]? = some version) :
    ∃ feature names, Stands profile e feature ∧
      registry.version feature.api feature.number names = .ok version ∧
      ∀ kind, names.of kind =
        live ((historyAt (eligible root) place e).map (changeOf profile kind)) := by
  obtain ⟨snapshot, taken, stands, names_of⟩ := exists_snapshot profile he
  obtain ⟨made, hmade, ok⟩ := exists_getElem?_of_forall₂ adds taken
  cases hversion.symm.trans hmade
  exact ⟨snapshot.feature, snapshot.live, stands, ok, names_of⟩

/-- What a version offers is what its history leaves. -/
theorem names_eq (adds : Adds registry profile root added) (keyed : registry.WellKeyed)
    {place : Nat} {e : Element} {version : Version} (he : (eligible root)[place]? = some e)
    (hversion : added[place]? = some version) (kind : Kind) :
    (version.names kind).map some =
      live ((historyAt (eligible root) place e).map (changeOf profile kind)) := by
  obtain ⟨feature, names, -, made, names_of⟩ := adds.exists_made he hversion
  rw [keyed.names_of_version made, names_of]

end Adds

end GLBindings.Registry
