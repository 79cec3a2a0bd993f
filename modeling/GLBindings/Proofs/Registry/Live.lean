/-
# Live names

The names of one kind that an api offers after some of its features.  Each feature is a `Change`: it
requires names and then removes names, and `advance` takes one change after the other.  Here the
live names are given all at once.

* `live_eq_eraseDups_survivors`: they are the mentions that no change from their own on removes,
  each where it comes first.
* `mem_live_iff`: a name is live when some change requires it and none from there on removes it.
* `prefix_live_append`: names that are not removed stay where they are.
-/
import GLBindings.Registry.History
import GLBindings.Proofs.FirstOccurrence

namespace GLBindings.Registry

set_option autoImplicit false

/-- What a feature does to the names of one kind. -/
structure Change where
  required : List (Option String)
  removed : List (Option String)

def liveFrom (names : List (Option String)) (changes : List Change) : List (Option String) :=
  changes.foldl (fun names change => advance names change.required change.removed) names

def live (changes : List Change) : List (Option String) := liveFrom [] changes

def keptBy (changes : List Change) (name : Option String) : Bool :=
  changes.all fun change => !change.removed.contains name

/-- The mentions in the changes that no change removes from their own on. -/
def survivors : List Change → List (Option String)
  | [] => []
  | change :: later => change.required.filter (keptBy (change :: later)) ++ survivors later

/-! ## One change -/

/-- Of names that are added the first occurrences count. -/
theorem foldl_addName {names : List (Option String)} (distinct : names.Nodup)
    (required : List (Option String)) :
    required.foldl addName names = (names ++ required).eraseDups := by
  induction required generalizing names with
  | nil => rw [List.foldl_nil, List.append_nil, eraseDups_eq_self distinct]
  | cons name rest ih =>
      rw [List.foldl_cons]
      by_cases known : name ∈ names
      · have skipped : addName names name = names := if_pos known
        have again : (names ++ [name]).eraseDups = names.eraseDups :=
          eraseDups_append_of_subset (by simpa using known)
        rw [skipped, ih distinct, List.append_cons, ← eraseDups_append_eraseDups (names ++ [name]),
          again, eraseDups_append_eraseDups]
      · have added : addName names name = names ++ [name] := if_neg known
        have still : (names ++ [name]).Nodup := by
          rw [List.nodup_append]
          refine ⟨distinct, List.nodup_singleton name, ?_⟩
          rintro a member b hb rfl
          exact known (List.mem_singleton.1 hb ▸ member)
        rw [added, ih still, List.append_cons names name rest]

theorem foldl_removeName (removed names : List (Option String)) :
    removed.foldl removeName names = names.filter fun name => !removed.contains name := by
  induction removed generalizing names with
  | nil => simp
  | cons name rest ih =>
      rw [List.foldl_cons, ih, removeName, List.filter_filter]
      apply List.filter_congr
      intro other _
      by_cases same : other = name <;> simp [same]

/-- One more feature in closed form: the first occurrences among what was live and what is required,
without what is removed. -/
theorem advance_eq {names : List (Option String)} (distinct : names.Nodup)
    (required removed : List (Option String)) :
    advance names required removed =
      ((names ++ required).filter fun name => !removed.contains name).eraseDups := by
  rw [advance, foldl_removeName, foldl_addName distinct, eraseDups_filter]

theorem nodup_advance {names : List (Option String)} (distinct : names.Nodup)
    (required removed : List (Option String)) : (advance names required removed).Nodup := by
  rw [advance_eq distinct]
  exact nodup_eraseDups _

/-! ## All changes at once -/

/-- The induction is on the changes.  What it carries along is that the names live so far are kept
by exactly the changes still to come. -/
theorem liveFrom_eq {names : List (Option String)} (distinct : names.Nodup)
    (changes : List Change) :
    liveFrom names changes = (names.filter (keptBy changes) ++ survivors changes).eraseDups := by
  induction changes generalizing names with
  | nil =>
      have all : names.filter (keptBy []) = names := by simp [keptBy]
      rw [survivors, List.append_nil, all, eraseDups_eq_self distinct]
      rfl
  | cons change later ih =>
      have split : ∀ l : List (Option String),
          (l.filter fun name => !change.removed.contains name).filter (keptBy later) =
            l.filter (keptBy (change :: later)) := by
        intro l
        rw [List.filter_filter]
        apply List.filter_congr
        intro name _
        simp [keptBy, Bool.and_comm]
      calc liveFrom names (change :: later)
          = liveFrom (advance names change.required change.removed) later := rfl
        _ = ((advance names change.required change.removed).filter (keptBy later) ++
              survivors later).eraseDups := ih (nodup_advance distinct _ _)
        _ = ((((names ++ change.required).filter fun name => !change.removed.contains name).filter
              (keptBy later)).eraseDups ++ survivors later).eraseDups := by
            rw [advance_eq distinct, ← eraseDups_filter (keptBy later)]
        _ = ((names ++ change.required).filter (keptBy (change :: later)) ++
              survivors later).eraseDups := by
            rw [eraseDups_append_eraseDups, split]
        _ = (names.filter (keptBy (change :: later)) ++ survivors (change :: later)).eraseDups := by
            rw [survivors, List.filter_append, List.append_assoc]

/-- The live names are the first occurrences of the mentions that outlive all removals. -/
theorem live_eq_eraseDups_survivors (changes : List Change) :
    live changes = (survivors changes).eraseDups := by
  rw [live, liveFrom_eq List.nodup_nil]
  rfl

theorem nodup_live (changes : List Change) : (live changes).Nodup := by
  rw [live_eq_eraseDups_survivors]
  exact nodup_eraseDups _

theorem mem_survivors_iff {changes : List Change} {name : Option String} :
    name ∈ survivors changes ↔
      ∃ earlier change later, changes = earlier ++ change :: later ∧
        name ∈ change.required ∧ keptBy (change :: later) name = true := by
  induction changes with
  | nil => simp [survivors]
  | cons first rest ih =>
      rw [survivors, List.mem_append, List.mem_filter, ih]
      constructor
      · rintro (⟨required, kept⟩ | ⟨earlier, change, later, rfl, required, kept⟩)
        · exact ⟨[], first, rest, rfl, required, kept⟩
        · exact ⟨first :: earlier, change, later, rfl, required, kept⟩
      · rintro ⟨earlier, change, later, same, required, kept⟩
        cases earlier with
        | nil =>
            obtain ⟨rfl, rfl⟩ := List.cons.inj same
            exact .inl ⟨required, kept⟩
        | cons _ earlier =>
            obtain ⟨rfl, rfl⟩ := List.cons.inj same
            exact .inr ⟨earlier, change, later, rfl, required, kept⟩

/-- A name is live if some change requires it and none from there on removes it. -/
theorem mem_live_iff {changes : List Change} {name : Option String} :
    name ∈ live changes ↔
      ∃ earlier change later, changes = earlier ++ change :: later ∧
        name ∈ change.required ∧ ∀ other ∈ change :: later, name ∉ other.removed := by
  rw [live_eq_eraseDups_survivors, List.mem_eraseDups, mem_survivors_iff]
  simp [keptBy]

/-! ## Names that stay -/

theorem prefix_advance {names more required removed : List (Option String)}
    (before : names <+: more) (distinct : more.Nodup) (kept : ∀ name ∈ names, name ∉ removed) :
    names <+: advance more required removed := by
  obtain ⟨rest, rfl⟩ := before
  have front : names <+: ((names ++ rest) ++ required).eraseDups := by
    have := eraseDups_prefix_append (names ++ rest) required
    rw [eraseDups_eq_self distinct] at this
    exact (List.prefix_append names rest).trans this
  obtain ⟨tail, split⟩ := front
  have whole : names.filter (fun name => !removed.contains name) = names := by
    rw [List.filter_eq_self]
    intro name member
    simpa using kept name member
  rw [advance_eq distinct, eraseDups_filter, ← split, List.filter_append, whole]
  exact List.prefix_append _ _

/-- Names that no change removes stay in front. -/
theorem prefix_liveFrom {names more : List (Option String)} (before : names <+: more)
    (distinct : more.Nodup) {changes : List Change}
    (kept : ∀ change ∈ changes, ∀ name ∈ names, name ∉ change.removed) :
    names <+: liveFrom more changes := by
  induction changes generalizing more with
  | nil => exact before
  | cons change later ih =>
      rw [List.forall_mem_cons] at kept
      exact ih (prefix_advance before distinct kept.1) (nodup_advance distinct _ _) kept.2

theorem prefix_live_append (changes : List Change) {later : List Change}
    (kept : ∀ change ∈ later, ∀ name ∈ live changes, name ∉ change.removed) :
    live changes <+: live (changes ++ later) := by
  have split : live (changes ++ later) = liveFrom (live changes) later := List.foldl_append
  rw [split]
  exact prefix_liveFrom (List.prefix_refl _) (nodup_live changes) kept

end GLBindings.Registry
