/-
# Apis apart

The features of different apis stand in one document in any order, and two of the apis share a
family.  Still each api goes its own way: a document from which the features of all other apis are
taken out leads to the same versions of the api (`readFeatures_onlyFeaturesOf`), so what the others
require and remove has no influence on it.
-/
import GLBindings.Proofs.Registry.Cumulative

namespace GLBindings.Registry

open Xml (Element Node)

set_option autoImplicit false

/-! ## Snapshots of one api -/

theorem map_feature_snapshots (histories : Histories) (features : List Feature) :
    (snapshots histories features).map Snapshot.feature = features := by
  induction features generalizing histories with
  | nil => rfl
  | cons feature rest ih => rw [snapshots, List.map_cons, ih]

/-- An api's snapshots are the same with the features of others in between and without them.  The
induction keeps the names that are live for the api the same on both sides. -/
theorem filter_snapshots {api : Api} {histories own : Histories}
    (same : histories.get api = own.get api) (features : List Feature) :
    (snapshots histories features).filter (·.feature.api = api) =
      snapshots own (featuresFor api features) := by
  induction features generalizing histories own with
  | nil => rfl
  | cons feature rest ih =>
      rw [featuresFor, snapshots]
      by_cases mine : feature.api = api
      · subst mine
        rw [List.filter_cons_of_pos (by simp), List.filter_cons_of_pos (by simp), snapshots, same]
        congr 1
        exact ih (by simp)
      · rw [List.filter_cons_of_neg (by simpa using mine),
          List.filter_cons_of_neg (by simpa using mine)]
        have other : api ≠ feature.api := Ne.symm mine
        exact ih (by simp [other, same])

/-! ## Documents of one api -/

def IsFeatureOf (api : Api) (e : Element) : Prop :=
  e.attribute? "api" = some api.name ∧ ∃ number ∈ e.attribute? "number", number ≠ ""

instance (api : Api) (e : Element) : Decidable (IsFeatureOf api e) :=
  inferInstanceAs (Decidable (_ ∧ _))

/-- Whether a piece of content stays when only the features of the api are kept. -/
def staysFor (api : Api) : Node → Bool
  | .text _ => true
  | .element e => e.name != "feature" || decide (IsFeatureOf api e)

/-- The document without the features of other apis and those that have no number. -/
def onlyFeaturesOf (api : Api) (root : Element) : Element :=
  { root with content := root.content.filter (staysFor api) }

def versionsFor (api : Api) (features : List Element) (versions : List Version) : List Version :=
  ((features.zip versions).filter fun made => made.1.attribute? "api" = some api.name).map Prod.snd

theorem childrenNamed_onlyFeaturesOf (api : Api) (root : Element) :
    (onlyFeaturesOf api root).childrenNamed "feature" =
      (root.childrenNamed "feature").filter (IsFeatureOf api ·) := by
  rw [onlyFeaturesOf, Element.childrenNamed, Element.childrenNamed, Element.children,
    Element.children, List.filterMap_filter, List.filter_filterMap, List.filter_filterMap,
    List.filter_filterMap]
  apply List.filterMap_congr
  intro node _
  cases node with
  | text s => rfl
  | element e =>
      by_cases isFeature : e.name = "feature"
      · by_cases mine : IsFeatureOf api e
        · simp [staysFor, Node.element?, isFeature, mine, Option.filter]
        · simp [staysFor, Node.element?, isFeature, mine, Option.filter]
      · simp [staysFor, Node.element?, isFeature, Option.filter]

theorem Stands.isFeatureOf_iff {profile : String} {e : Element} {feature : Feature}
    (stands : Stands profile e feature) (api : Api) : IsFeatureOf api e ↔ feature.api = api := by
  rw [IsFeatureOf, stands.api, stands.number, Option.some_inj, name_injective.eq_iff]
  constructor
  · rintro ⟨same, -⟩
    exact same
  · intro same
    exact ⟨same, feature.number, rfl, stands.numbered⟩

/-- Leaving out elements of a document leaves out their features. -/
theorem featuresOf_onlyFeaturesOf (profile : String) (api : Api) (root : Element) :
    featuresOf profile (onlyFeaturesOf api root) = featuresFor api (featuresOf profile root) := by
  rw [featuresOf, featuresOf, childrenNamed_onlyFeaturesOf, featuresFor]
  induction root.childrenNamed "feature" with
  | nil => rfl
  | cons e rest ih =>
      cases read : Feature.ofElement? profile e with
      | none =>
          rw [List.filterMap_cons_none read, ← ih, List.filter_cons]
          split
          · rw [List.filterMap_cons_none read]
          · rfl
      | some feature =>
          have own := (stands_of_ofElement? read).isFeatureOf_iff api
          rw [List.filterMap_cons_some read]
          by_cases mine : feature.api = api
          · rw [List.filter_cons_of_pos (by simpa using own.2 mine),
              List.filterMap_cons_some read, List.filter_cons_of_pos (by simpa using mine), ih]
          · rw [List.filter_cons_of_neg (by simpa [own] using mine),
              List.filter_cons_of_neg (by simpa using mine), ih]

/-! ## Versions of one api -/

/-- Entries that are picked out on either side still belong together. -/
theorem forall₂_filter {α β γ : Type} {R : α → β → Prop} {S : β → γ → Prop} {p : α → Bool}
    {q : β → Bool} (agree : ∀ a b, R a b → p a = q b) {as : List α} {bs : List β} {cs : List γ}
    (first : List.Forall₂ R as bs) (second : List.Forall₂ S bs cs) :
    List.Forall₂ S (bs.filter q) (((as.zip cs).filter fun pair => p pair.1).map Prod.snd) := by
  induction first generalizing cs with
  | nil =>
      cases second
      exact .nil
  | @cons a b as bs related _ ih =>
      cases second with
      | @cons _ c _ cs made others =>
          rw [List.zip_cons_cons, List.filter_cons, List.filter_cons, agree a b related]
          by_cases picked : q b = true
          · rw [if_pos picked, if_pos picked]
            exact .cons made (ih others)
          · rw [if_neg picked, if_neg picked]
            exact ih others

variable {registry : Registry} {profile : String} {root : Element} {added : List Version}

theorem forall₂_stands_snapshots (profile : String) (root : Element) :
    List.Forall₂ (fun e snapshot => Stands profile e snapshot.feature) (eligible root)
      (snapshots {} (featuresOf profile root)) := by
  rw [← List.forall₂_map_right_iff, map_feature_snapshots]
  exact forall₂_featuresOf profile root

/-- The document of one api adds the versions of that api. -/
theorem Adds.onlyFeaturesOf (adds : Adds registry profile root added) (api : Api) :
    Adds registry profile (onlyFeaturesOf api root) (versionsFor api (eligible root) added) := by
  rw [Adds, featuresOf_onlyFeaturesOf, ← filter_snapshots rfl, versionsFor]
  refine forall₂_filter (p := fun e => decide (e.attribute? "api" = some api.name)) ?_
    (forall₂_stands_snapshots profile root) adds
  intro e snapshot stands
  rw [decide_eq_decide, stands.api, Option.some_inj, name_injective.eq_iff]

/-- Documents with the same features of an api lead to the same versions of it. -/
theorem versionsFor_eq {other : Element} {added' : List Version}
    (adds : Adds registry profile root added) (adds' : Adds registry profile other added')
    {api : Api} (same : (onlyFeaturesOf api other).childrenNamed "feature" =
      (onlyFeaturesOf api root).childrenNamed "feature") :
    versionsFor api (eligible other) added' = versionsFor api (eligible root) added := by
  have reading : registry.readFeatures (onlyFeaturesOf api other) profile =
      registry.readFeatures (onlyFeaturesOf api root) profile := by
    rw [readFeatures, readFeatures, featuresOf, featuresOf, same]
  rw [(adds.onlyFeaturesOf api).readFeatures_eq, (adds'.onlyFeaturesOf api).readFeatures_eq]
    at reading
  have versions := congrArg (fun reading => reading.registry.versions) reading
  exact List.append_cancel_left versions

/-- **An api's versions are those of its own features, whatever other apis require and remove.** -/
theorem readFeatures_onlyFeaturesOf {registry : Registry} {root : Element} {profile : String}
    (succeeds : (registry.readFeatures root profile).failure = none) :
    ∃ added : List Version,
      (registry.readFeatures root profile).registry =
        { registry with versions := registry.versions ++ added } ∧
      List.Forall₂ IsVersionOf (eligible root) added ∧
      ∀ api,
        registry.readFeatures (onlyFeaturesOf api root) profile =
          { registry := { registry with
              versions := registry.versions ++ versionsFor api (eligible root) added }
            failure := none } ∧
        ∀ other, (registry.readFeatures other profile).failure = none →
          (onlyFeaturesOf api other).childrenNamed "feature" =
            (onlyFeaturesOf api root).childrenNamed "feature" →
          ∃ added' : List Version,
            (registry.readFeatures other profile).registry =
              { registry with versions := registry.versions ++ added' } ∧
            versionsFor api (eligible other) added' = versionsFor api (eligible root) added := by
  obtain ⟨added, adds, read⟩ := exists_adds succeeds
  refine ⟨added, read, adds.forall₂_isVersionOf, ?_⟩
  intro api
  refine ⟨(adds.onlyFeaturesOf api).readFeatures_eq, ?_⟩
  intro other succeeds' same
  obtain ⟨added', adds', read'⟩ := exists_adds succeeds'
  exact ⟨added', read', versionsFor_eq adds adds' same⟩

/-! ## Two apis of one family -/

namespace Sample

/-- Features of two apis of one family take turns, and in between stand some that do not count. -/
def mixed : Element := ⟨"registry", [], [
  feature "gles1" "1.0" [
    block "require" "core" [entry "command" "glBegin", entry "command" "glEnd"]],
  feature "gles2" "2.0" [
    block "require" "core" [entry "command" "glFlush", entry "command" "glBegin"]],
  feature "glsc2" "2.0" [block "require" "core" [entry "command" "glLost"]],
  feature "gles1" "1.1" [block "remove" "core" [entry "command" "glBegin"]],
  feature "gles2" "" [block "require" "core" [entry "command" "glLost"]],
  feature "gles2" "3.0" [block "require" "core" [entry "command" "glEnd"]]]⟩

end Sample

theorem readFeatures_onlyFeaturesOf_sample :
    (Sample.registry.readFeatures Sample.mixed "core").failure = none ∧
      (Sample.registry.readFeatures Sample.mixed "core").registry.versions.map
          (fun v => (v.name, v.names .command)) =
        [("GLES10", ["glBegin", "glEnd"]), ("GLES20", ["glFlush", "glBegin"]),
          ("GLES11", ["glEnd"]), ("GLES30", ["glFlush", "glBegin", "glEnd"])] ∧
      ∃ added : List Version,
        (Sample.registry.readFeatures Sample.mixed "core").registry.versions = added ∧
        ∀ api, (Sample.registry.readFeatures (onlyFeaturesOf api Sample.mixed)
          "core").registry.versions = versionsFor api (eligible Sample.mixed) added := by
  have succeeds : (Sample.registry.readFeatures Sample.mixed "core").failure = none := by
    decide +kernel
  obtain ⟨added, read, -, apart⟩ := readFeatures_onlyFeaturesOf succeeds
  have fresh : Sample.registry.versions = [] := by decide +kernel
  refine ⟨succeeds, by decide +kernel, added, ?_, ?_⟩
  · rw [read, fresh]
    rfl
  · intro api
    rw [(apart api).1, fresh]
    rfl

end GLBindings.Registry
