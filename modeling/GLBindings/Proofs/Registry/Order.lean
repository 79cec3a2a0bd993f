/-
# The order of a version's contents

A version lists every name once, in the order of the births of the names: the birth of a name is the
first requirement of it that lies after the last feature removing it (`order_of_readFeatures`).  So
a name keeps its place while it is live, however often it is required again, and one that was
removed comes back at the end.  Where an api never removes anything of a kind, each version begins
with what earlier ones list.
-/
import GLBindings.Proofs.Registry.Birth
import GLBindings.Proofs.Registry.Cumulative

namespace GLBindings

open Registry (Kind)
open Xml (Element)

set_option autoImplicit false

/-- What the version lists of the kind is what the other begins with. -/
def Version.Begins (version : Version) (kind : Kind) (other : Version) : Prop :=
  match kind with
  | .constant => version.constants <+: other.constants
  | .command => version.commands <+: other.commands

namespace Registry

/-- What the applicable blocks of the features require, in document order, each mention with the
number of its feature. -/
def requirements (profile : String) (kind : Kind) (features : List Element) :
    List (Nat × Option String) :=
  features.zipIdx.flatMap fun (feature, i) =>
    (applicable profile "require" feature).flatMap fun block =>
      (block.childrenNamed kind.tag).map fun entry => (i, entry.attribute? "name")

/-- The place, among what the features require, of the first mention of the name that lies after
every feature that removes it. -/
def IsBirthMention (profile : String) (kind : Kind) (features : List Element) (name : String)
    (place : Nat) : Prop :=
  IsFirstPlace (requirements profile kind features) (fun mention =>
    (∀ i feature, features[i]? = some feature → Mentions profile "remove" kind feature name →
      i < mention.1) ∧ mention.2 = some name) place

/-- The names are listed once each, in the order of their birth mentions. -/
structure ListsByBirth (profile : String) (kind : Kind) (features : List Element)
    (names : List String) : Prop where
  distinct : names.Nodup
  born : ∀ name ∈ names, ∃ birth, IsBirthMention profile kind features name birth
  order : ∀ n ∈ names, ∀ m ∈ names, ∀ p q, IsBirthMention profile kind features n p →
    IsBirthMention profile kind features m q → (names.idxOf n < names.idxOf m ↔ p < q)

def NeverRemoves (profile : String) (kind : Kind) (api : String) (features : List Element) : Prop :=
  ∀ feature ∈ features, feature.attribute? "api" = some api →
    ∀ name, ¬ Mentions profile "remove" kind feature name

theorem requirements_eq (profile : String) (kind : Kind) (features : List Element) :
    requirements profile kind features = mentionsFrom 0 (features.map (changeOf profile kind)) := by
  rw [requirements, mentionsFrom, List.zipIdx_map, List.flatMap_map]
  apply List.flatMap_congr
  rintro ⟨feature, i⟩ _
  simp [changeOf, mentions, List.map_flatMap, Function.comp_def]

theorem isBirthMention_iff {profile : String} {kind : Kind} {features : List Element}
    {name : String} {place : Nat} :
    IsBirthMention profile kind features name place ↔
      IsBirth (features.map (changeOf profile kind)) (some name) place := by
  have same : ∀ i : Nat,
      (∀ j feature, features[j]? = some feature → Mentions profile "remove" kind feature name →
        j < i) ↔
      ∀ j change, (features.map (changeOf profile kind))[j]? = some change →
        some name ∈ change.removed → j < i := by
    intro i
    simp only [List.getElem?_map, Option.map_eq_some_iff]
    constructor
    · rintro after j change ⟨feature, found, rfl⟩ removed
      exact after j feature found (mem_mentions_iff.1 removed)
    · intro after j feature found removed
      exact after j _ ⟨feature, found, rfl⟩ (mem_mentions_iff.2 removed)
  simp only [IsBirthMention, IsBirth, requirements_eq, same]

/-- Of two features of one api the later has the longer history. -/
theorem historyAt_prefix (features : List Element) {i j : Nat} {e f : Element} (before : i ≤ j)
    (same : e.attribute? "api" = f.attribute? "api") :
    historyAt features i e <+: historyAt features j f := by
  rw [historyAt, historyAt, same]
  exact (List.take_prefix_take_left (Nat.succ_le_succ before)).filter _

namespace Adds

variable {registry : Registry} {profile : String} {root : Element} {added : List Version}

section Place

variable {place : Nat} {feature : Element} {version : Version}

theorem listsByBirth (adds : Adds registry profile root added) (keyed : registry.WellKeyed)
    (hfeature : (eligible root)[place]? = some feature) (hversion : added[place]? = some version)
    (kind : Kind) :
    ListsByBirth profile kind (historyAt (eligible root) place feature) (version.names kind) := by
  have whole := adds.names_eq keyed hfeature hversion kind
  have idxOf_some : ∀ name : String,
      ((version.names kind).map some).idxOf (some name) = (version.names kind).idxOf name := by
    intro name
    exact idxOf_map (fun _ _ => Option.some.inj) name _
  refine ⟨?_, ?_, ?_⟩
  · have distinct := nodup_live
      ((historyAt (eligible root) place feature).map (changeOf profile kind))
    rw [← whole] at distinct
    exact distinct.of_map some
  · intro name member
    have alive := List.mem_map_of_mem (f := some) member
    rw [whole] at alive
    obtain ⟨birth, first⟩ := exists_isBirth alive
    exact ⟨birth, isBirthMention_iff.2 first⟩
  · intro n _ m _ p q first second
    rw [← idxOf_some n, ← idxOf_some m, whole]
    exact idxOf_live_lt_iff (isBirthMention_iff.1 first) (isBirthMention_iff.1 second)

end Place

/-- Where an api never removes a name of the kind, what is live for one of its features is what
later ones begin with. -/
theorem live_prefix (adds : Adds registry profile root added) (keyed : registry.WellKeyed)
    {kind : Kind} {api : String} (never : NeverRemoves profile kind api (eligible root)) {i j : Nat}
    (before : i ≤ j) {e f : Element} {v : Version} (he : (eligible root)[i]? = some e)
    (hv : added[i]? = some v) (hapi : e.attribute? "api" = some api)
    (same : e.attribute? "api" = f.attribute? "api") :
    live ((historyAt (eligible root) i e).map (changeOf profile kind)) <+:
      live ((historyAt (eligible root) j f).map (changeOf profile kind)) := by
  obtain ⟨later, split⟩ := historyAt_prefix (eligible root) before same
  rw [← split, List.map_append]
  apply prefix_live_append
  intro change member name alive removed
  obtain ⟨feature, hfeature, rfl⟩ := List.mem_map.1 member
  rw [← adds.names_eq keyed he hv, List.mem_map] at alive
  obtain ⟨written, -, rfl⟩ := alive
  have inHistory : feature ∈ historyAt (eligible root) j f := by
    rw [← split]
    exact List.mem_append_right _ hfeature
  obtain ⟨taken, own⟩ := List.mem_filter.1 inHistory
  have own : feature.attribute? "api" = some api := by
    rw [← hapi, same]
    exact of_decide_eq_true own
  exact never feature (List.mem_of_mem_take taken) own written (mem_mentions_iff.1 removed)

/-- Where an api never removes anything of the kind, each of its versions begins with what earlier
ones list. -/
theorem begins_of_neverRemoves (adds : Adds registry profile root added)
    (keyed : registry.WellKeyed) {kind : Kind} {api : String}
    (never : NeverRemoves profile kind api (eligible root)) {i j : Nat} (before : i ≤ j)
    {e f : Element} {v w : Version} (he : (eligible root)[i]? = some e)
    (hf : (eligible root)[j]? = some f) (hv : added[i]? = some v) (hw : added[j]? = some w)
    (hapi : e.attribute? "api" = some api) (hapi' : f.attribute? "api" = some api) :
    v.Begins kind w := by
  have front := adds.live_prefix keyed never before he hv hapi (hapi.trans hapi'.symm)
  obtain ⟨first, firstNames, hfirst, made, names_of⟩ := adds.exists_made he hv
  obtain ⟨second, secondNames, hsecond, made', names_of'⟩ := adds.exists_made hf hw
  rw [← names_of, ← names_of'] at front
  -- Constants are looked up for the api, which is the same for both.
  have sameApi : first.api = second.api := by
    apply name_injective
    rw [← Option.some_inj, ← hfirst.api, ← hsecond.api, hapi, hapi']
  obtain ⟨-, -, -, constants, commands⟩ := version_eq_ok_iff.1 made
  obtain ⟨-, -, -, constants', commands'⟩ := version_eq_ok_iff.1 made'
  rw [← sameApi] at constants'
  cases kind with
  | constant => exact forall₂_prefix front constants constants'
  | command => exact forall₂_prefix front commands commands'

end Adds

/-- **A version lists its names once each, in the order of their births.** -/
theorem order_of_readFeatures {registry : Registry} (reached : Reached registry) (root : Element)
    (profile : String) (succeeds : (registry.readFeatures root profile).failure = none) :
    ∃ added : List Version,
      (registry.readFeatures root profile).registry =
        { registry with versions := registry.versions ++ added } ∧
      List.Forall₂ IsVersionOf (eligible root) added ∧
      (∀ (place : Nat) (feature : Element) (version : Version),
        (eligible root)[place]? = some feature → added[place]? = some version → ∀ kind,
          ListsByBirth profile kind (historyAt (eligible root) place feature)
            (version.names kind)) ∧
      ∀ (api : String) (i j : Nat) (e f : Element) (v w : Version), i ≤ j →
        (eligible root)[i]? = some e → (eligible root)[j]? = some f →
        added[i]? = some v → added[j]? = some w →
        e.attribute? "api" = some api → f.attribute? "api" = some api →
          (NeverRemoves profile .constant api (eligible root) → v.constants <+: w.constants) ∧
          (NeverRemoves profile .command api (eligible root) → v.commands <+: w.commands) := by
  have keyed := reached.wellKeyed
  obtain ⟨added, adds, read⟩ := exists_adds succeeds
  refine ⟨added, read, adds.forall₂_isVersionOf, ?_, ?_⟩
  · intro place feature version hfeature hversion kind
    exact adds.listsByBirth keyed hfeature hversion kind
  · intro api i j e f v w before he hf hv hw hapi hapi'
    constructor
    · intro never
      exact adds.begins_of_neverRemoves keyed never before he hf hv hw hapi hapi'
    · intro never
      exact adds.begins_of_neverRemoves keyed never before he hf hv hw hapi hapi'

theorem order_of_readFeatures_sample :
    (Sample.registry.readFeatures Sample.root "core").failure = none ∧
      ∃ added : List Version,
        (Sample.registry.readFeatures Sample.root "core").registry.versions = added ∧
        ∀ (place : Nat) (feature : Element) (version : Version),
          (eligible Sample.root)[place]? = some feature → added[place]? = some version →
            ∀ kind, ListsByBirth "core" kind (historyAt (eligible Sample.root) place feature)
              (version.names kind) := by
  have succeeds : (Sample.registry.readFeatures Sample.root "core").failure = none := by
    decide +kernel
  obtain ⟨added, read, -, lists, -⟩ :=
    order_of_readFeatures Sample.reached Sample.root "core" succeeds
  have fresh : Sample.registry.versions = [] := by decide +kernel
  refine ⟨succeeds, added, ?_, lists⟩
  rw [read, fresh]
  rfl

end Registry

end GLBindings
