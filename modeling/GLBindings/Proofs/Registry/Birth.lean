/-
# Births

A live name stands where it came in, and it came in with the first mention that no change has undone
since: its birth.  Names that are required again while they are live stay in place; names that are
removed and required again are born again.  `idxOf_live_lt_iff` says that the order of the live
names is the order of their births among all mentions.
-/
import GLBindings.Proofs.Registry.Live

namespace GLBindings.Registry

set_option autoImplicit false

/-- The place is the first one in the list where the condition holds. -/
structure IsFirstPlace {α : Type} (l : List α) (P : α → Prop) (place : Nat) : Prop where
  holds : ∃ a, l[place]? = some a ∧ P a
  first : ∀ earlier, earlier < place → ∀ a, l[earlier]? = some a → ¬ P a

namespace IsFirstPlace

variable {α : Type} {P : α → Prop}

theorem zero_iff {a : α} {l : List α} : IsFirstPlace (a :: l) P 0 ↔ P a := by
  constructor
  · rintro ⟨⟨b, found, holds⟩, -⟩
    cases found
    exact holds
  · intro holds
    exact ⟨⟨a, rfl, holds⟩, fun earlier before => absurd before (Nat.not_lt_zero earlier)⟩

theorem succ_iff {a : α} {l : List α} {place : Nat} :
    IsFirstPlace (a :: l) P (place + 1) ↔ ¬ P a ∧ IsFirstPlace l P place := by
  constructor
  · rintro ⟨holds, first⟩
    refine ⟨first 0 (Nat.succ_pos place) a rfl, holds, ?_⟩
    intro earlier before
    exact first (earlier + 1) (Nat.succ_lt_succ before)
  · rintro ⟨not, holds, first⟩
    refine ⟨holds, ?_⟩
    intro earlier before b found
    cases earlier with
    | zero =>
        cases found
        exact not
    | succ earlier => exact first earlier (Nat.lt_of_succ_lt_succ before) b found

theorem exists_of_mem {l : List α} {a : α} (member : a ∈ l) (holds : P a) :
    ∃ place, IsFirstPlace l P place := by
  induction l with
  | nil => cases member
  | cons b rest ih =>
      by_cases now : P b
      · exact ⟨0, zero_iff.2 now⟩
      · have later : a ∈ rest :=
          (List.mem_cons.1 member).resolve_left fun same => now (same ▸ holds)
        obtain ⟨place, first⟩ := ih later
        exact ⟨place + 1, succ_iff.2 ⟨now, first⟩⟩

/-- There is only one first place. -/
theorem unique {l : List α} {p q : Nat} (first : IsFirstPlace l P p)
    (second : IsFirstPlace l P q) : p = q := by
  obtain ⟨a, ha, holdsAt⟩ := first.holds
  obtain ⟨b, hb, holdsAt'⟩ := second.holds
  rcases Nat.lt_trichotomy p q with less | same | greater
  · exact absurd holdsAt (second.first p less a ha)
  · exact same
  · exact absurd holdsAt' (first.first q greater b hb)

end IsFirstPlace

/-- Among the entries that count, names stand in the order of the first places of their entries. -/
theorem idxOf_map_filter_lt_iff {α β : Type} [BEq β] [LawfulBEq β] {counts : α → Bool}
    {name : α → β} {n m : β} {l : List α} {p q : Nat}
    (first : IsFirstPlace l (fun a => counts a = true ∧ name a = n) p)
    (second : IsFirstPlace l (fun a => counts a = true ∧ name a = m) q) :
    ((l.filter counts).map name).idxOf n < ((l.filter counts).map name).idxOf m ↔ p < q := by
  induction l generalizing p q with
  | nil =>
      obtain ⟨⟨a, found, -⟩, -⟩ := first
      cases found
  | cons a rest ih =>
      by_cases counted : counts a = true
      · rw [List.filter_cons_of_pos counted, List.map_cons, idxOf_cons_lt_iff]
        cases p with
        | zero =>
            have hn := (IsFirstPlace.zero_iff.1 first).2
            cases q with
            | zero => simp [(IsFirstPlace.zero_iff.1 second).2]
            | succ q =>
                have hm := (IsFirstPlace.succ_iff.1 second).1
                simp only [counted, true_and, hn] at hm
                simp [hn, hm]
        | succ p =>
            obtain ⟨hn, first⟩ := IsFirstPlace.succ_iff.1 first
            simp only [counted, true_and] at hn
            cases q with
            | zero => simp [(IsFirstPlace.zero_iff.1 second).2]
            | succ q =>
                obtain ⟨hm, second⟩ := IsFirstPlace.succ_iff.1 second
                simp only [counted, true_and] at hm
                rw [ih first second]
                simp [hn, hm]
      · -- What does not count is in neither first place, and moves both by one.
        rw [List.filter_cons_of_neg counted]
        cases p with
        | zero => exact absurd (IsFirstPlace.zero_iff.1 first).1 counted
        | succ p =>
            cases q with
            | zero => exact absurd (IsFirstPlace.zero_iff.1 second).1 counted
            | succ q =>
                rw [ih (IsFirstPlace.succ_iff.1 first).2 (IsFirstPlace.succ_iff.1 second).2]
                exact Nat.succ_lt_succ_iff.symm

/-! ## Mentions and their births -/

/-- The mentions in the changes, in order, each with the number of its change. -/
def mentionsFrom (start : Nat) (changes : List Change) : List (Nat × Option String) :=
  (changes.zipIdx start).flatMap fun (change, i) => change.required.map fun name => (i, name)

/-- The survivors are the mentions that the changes from their own on keep. -/
theorem survivors_eq (start : Nat) (changes : List Change) :
    survivors changes = ((mentionsFrom start changes).filter fun mention =>
      keptBy (changes.drop (mention.1 - start)) mention.2).map Prod.snd := by
  induction changes generalizing start with
  | nil => rfl
  | cons change later ih =>
      have own : ((change.required.map fun name => (start, name)).filter fun mention =>
          keptBy ((change :: later).drop (mention.1 - start)) mention.2).map Prod.snd =
            change.required.filter (keptBy (change :: later)) := by
        rw [List.filter_map, List.map_map]
        simp [Function.comp_def]
      -- Behind a later mention the changes are the same, with one more in front of all.
      have others : ((mentionsFrom (start + 1) later).filter fun mention =>
          keptBy ((change :: later).drop (mention.1 - start)) mention.2) =
            (mentionsFrom (start + 1) later).filter fun mention =>
              keptBy (later.drop (mention.1 - (start + 1))) mention.2 := by
        apply List.filter_congr
        rintro ⟨i, name⟩ member
        obtain ⟨⟨other, j⟩, indexed, named⟩ := List.mem_flatMap.1 member
        simp only [List.mem_map, Prod.mk.injEq] at named
        obtain ⟨-, -, rfl, -⟩ := named
        have bound := (List.mem_zipIdx indexed).1
        have beyond : j - start = (j - (start + 1)) + 1 := by omega
        simp only [beyond, List.drop_succ_cons]
      have split : mentionsFrom start (change :: later) =
          change.required.map (fun name => (start, name)) ++ mentionsFrom (start + 1) later := by
        rw [mentionsFrom, List.zipIdx_cons, List.flatMap_cons]
        rfl
      rw [split, List.filter_append, List.map_append, own, others, ← ih, survivors]

/-- A name is kept from a change on if all changes that remove it come before. -/
theorem keptBy_drop_iff {changes : List Change} {name : Option String} {i : Nat} :
    keptBy (changes.drop i) name = true ↔
      ∀ j change, changes[j]? = some change → name ∈ change.removed → j < i := by
  simp only [keptBy, List.all_eq_true, Bool.not_eq_true', List.contains_eq_mem,
    decide_eq_false_iff_not]
  constructor
  · intro kept j change found removed
    by_contra late
    refine kept change ?_ removed
    rw [List.mem_iff_getElem?]
    exact ⟨j - i, by rw [List.getElem?_drop, Nat.add_sub_of_le (Nat.le_of_not_lt late), found]⟩
  · intro early change member removed
    obtain ⟨j, found⟩ := List.mem_iff_getElem?.1 member
    rw [List.getElem?_drop] at found
    have := early (i + j) change found removed
    omega

/-- The place, among all mentions, of the one that the name came in with: the first that lies after
every change that removes it. -/
def IsBirth (changes : List Change) (name : Option String) (place : Nat) : Prop :=
  IsFirstPlace (mentionsFrom 0 changes) (fun mention =>
    (∀ j change, changes[j]? = some change → name ∈ change.removed → j < mention.1) ∧
      mention.2 = name) place

theorem isBirth_iff {changes : List Change} {name : Option String} {place : Nat} :
    IsBirth changes name place ↔
      IsFirstPlace (mentionsFrom 0 changes) (fun mention =>
        keptBy (changes.drop (mention.1 - 0)) mention.2 = true ∧ mention.2 = name) place := by
  have same : (fun mention : Nat × Option String =>
      (∀ j change, changes[j]? = some change → name ∈ change.removed → j < mention.1) ∧
        mention.2 = name) = fun mention =>
      keptBy (changes.drop (mention.1 - 0)) mention.2 = true ∧ mention.2 = name := by
    funext mention
    rw [Nat.sub_zero, keptBy_drop_iff]
    apply propext
    constructor
    · rintro ⟨after, rfl⟩
      exact ⟨after, rfl⟩
    · rintro ⟨after, rfl⟩
      exact ⟨after, rfl⟩
  rw [IsBirth, same]

/-- What is live has been born. -/
theorem exists_isBirth {changes : List Change} {name : Option String}
    (alive : name ∈ live changes) : ∃ place, IsBirth changes name place := by
  rw [live_eq_eraseDups_survivors, List.mem_eraseDups, survivors_eq 0, List.mem_map] at alive
  obtain ⟨mention, member, rfl⟩ := alive
  obtain ⟨mentioned, kept⟩ := List.mem_filter.1 member
  simp only [isBirth_iff]
  exact IsFirstPlace.exists_of_mem mentioned ⟨kept, rfl⟩

/-- **Live names stand in the order of their births.** -/
theorem idxOf_live_lt_iff {changes : List Change} {n m : Option String} {p q : Nat}
    (first : IsBirth changes n p) (second : IsBirth changes m q) :
    (live changes).idxOf n < (live changes).idxOf m ↔ p < q := by
  rw [live_eq_eraseDups_survivors, idxOf_eraseDups_lt_iff, survivors_eq 0]
  exact idxOf_map_filter_lt_iff (isBirth_iff.1 first) (isBirth_iff.1 second)

end GLBindings.Registry
