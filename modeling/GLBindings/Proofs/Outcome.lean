/-
# Outcomes

When a computation in `Except` succeeds: each step has succeeded, and a list of results belongs
entry by entry to the list it was made from.  It fails as the first of its steps that fails does.
-/
import Mathlib.Data.List.Forall2

namespace GLBindings

set_option autoImplicit false

variable {ε δ α β : Type}

theorem bind_eq_ok_iff {first : Except ε α} {next : α → Except ε β} {b : β} :
    first >>= next = .ok b ↔ ∃ a, first = .ok a ∧ next a = .ok b := by
  cases first with
  | error e => simp [bind, Except.bind]
  | ok a => simp [bind, Except.bind]

theorem bind_eq_error_iff {first : Except ε α} {next : α → Except ε β} {e : ε} :
    first >>= next = .error e ↔ first = .error e ∨ ∃ a, first = .ok a ∧ next a = .error e := by
  cases first with
  | error e => simp [bind, Except.bind]
  | ok a => simp [bind, Except.bind]

theorem mapError_eq_ok_iff {f : ε → δ} {outcome : Except ε α} {a : α} :
    outcome.mapError f = .ok a ↔ outcome = .ok a := by
  cases outcome with
  | error e => simp [Except.mapError]
  | ok b => simp [Except.mapError]

theorem mapError_eq_error_iff {f : ε → δ} {outcome : Except ε α} {d : δ} :
    outcome.mapError f = .error d ↔ ∃ e, outcome = .error e ∧ f e = d := by
  cases outcome with
  | error e => simp [Except.mapError]
  | ok a => simp [Except.mapError]

theorem map_eq_ok_iff {f : α → β} {outcome : Except ε α} {b : β} :
    outcome.map f = .ok b ↔ ∃ a, outcome = .ok a ∧ f a = b := by
  cases outcome with
  | error e => simp [Except.map]
  | ok a => simp [Except.map]

theorem map_eq_error_iff {f : α → β} {outcome : Except ε α} {e : ε} :
    outcome.map f = .error e ↔ outcome = .error e := by
  cases outcome with
  | error e => simp [Except.map]
  | ok a => simp [Except.map]

/-- A list is mapped when each of its elements is. -/
theorem mapM_eq_ok_iff {f : α → Except ε β} {l : List α} {results : List β} :
    l.mapM f = .ok results ↔ List.Forall₂ (fun a b => f a = .ok b) l results := by
  induction l generalizing results with
  | nil =>
      rw [List.mapM_nil, List.forall₂_nil_left_iff]
      constructor
      · intro same
        cases same
        rfl
      · rintro rfl
        rfl
  | cons a rest ih =>
      simp only [List.mapM_cons, bind_eq_ok_iff, List.forall₂_cons_left_iff, ih]
      constructor
      · rintro ⟨b, hb, others, hothers, same⟩
        cases same
        exact ⟨b, others, hb, hothers, rfl⟩
      · rintro ⟨b, others, hb, hothers, rfl⟩
        exact ⟨b, hb, others, hothers, rfl⟩

/-- Every entry of a list has a result when the list as a whole has results. -/
theorem exists_forall₂_iff {R : α → β → Prop} {l : List α} :
    (∃ results, List.Forall₂ R l results) ↔ ∀ a ∈ l, ∃ b, R a b := by
  induction l with
  | nil => simp
  | cons a rest ih =>
      rw [List.forall_mem_cons, ← ih]
      simp only [List.forall₂_cons_left_iff]
      constructor
      · rintro ⟨_, b, others, hb, hothers, -⟩
        exact ⟨⟨b, hb⟩, others, hothers⟩
      · rintro ⟨⟨b, hb⟩, others, hothers⟩
        exact ⟨b :: others, b, others, hb, hothers, rfl⟩

/-- The first element that fails gives the failure. -/
theorem mapM_eq_error_iff {f : α → Except ε β} {l : List α} {e : ε} :
    l.mapM f = .error e ↔ ∃ before a after, l = before ++ a :: after ∧
      (∀ b ∈ before, ∃ c, f b = .ok c) ∧ f a = .error e := by
  induction l with
  | nil => simp [pure, Except.pure]
  | cons first rest ih =>
      rw [List.mapM_cons, bind_eq_error_iff]
      constructor
      · rintro (fails | ⟨c, succeeds, later⟩)
        · exact ⟨[], first, rest, rfl, by simp, fails⟩
        · rcases bind_eq_error_iff.1 later with fails | ⟨_, -, impossible⟩
          · obtain ⟨before, a, after, rfl, each, fails⟩ := ih.1 fails
            exact ⟨first :: before, a, after, rfl, List.forall_mem_cons.2 ⟨⟨c, succeeds⟩, each⟩,
              fails⟩
          · cases impossible
      · rintro ⟨before, a, after, split, each, fails⟩
        cases before with
        | nil =>
            obtain ⟨rfl, rfl⟩ := List.cons.inj split
            exact .inl fails
        | cons _ before =>
            obtain ⟨rfl, rfl⟩ := List.cons.inj split
            obtain ⟨⟨c, succeeds⟩, each⟩ := List.forall_mem_cons.1 each
            refine .inr ⟨c, succeeds, bind_eq_error_iff.2 (.inl ?_)⟩
            exact ih.2 ⟨before, a, after, rfl, each, fails⟩

theorem exists_getElem?_of_forall₂ {R : α → β → Prop} {l : List α} {results : List β}
    (related : List.Forall₂ R l results) {i : Nat} {a : α} (found : l[i]? = some a) :
    ∃ b, results[i]? = some b ∧ R a b := by
  induction related generalizing i with
  | nil => cases found
  | @cons first result _ _ holds _ ih =>
      cases i with
      | zero =>
          cases found
          exact ⟨result, rfl, holds⟩
      | succ i => exact ih found

theorem exists_mem_of_forall₂ {R : α → β → Prop} {l : List α} {results : List β}
    (related : List.Forall₂ R l results) {b : β} (member : b ∈ results) : ∃ a ∈ l, R a b := by
  induction related with
  | nil => cases member
  | @cons a first _ _ holds _ ih =>
      rcases List.mem_cons.1 member with rfl | later
      · exact ⟨a, List.mem_cons_self, holds⟩
      · obtain ⟨source, hsource, related⟩ := ih later
        exact ⟨source, List.mem_cons_of_mem _ hsource, related⟩

theorem forall₂_imp_of_mem {R S : α → β → Prop} {l : List α} {results : List β}
    (related : List.Forall₂ R l results) (weaker : ∀ a, ∀ b ∈ results, R a b → S a b) :
    List.Forall₂ S l results := by
  induction related with
  | nil => exact .nil
  | cons holds _ ih =>
      obtain ⟨first, others⟩ := List.forall_mem_cons.1 fun b member a => weaker a b member
      exact .cons (first _ holds) (ih fun a b member => others b member a)

/-- Results made from the front of a list are the front of the results. -/
theorem forall₂_prefix {f : α → Except ε β} {short long : List α} {first all : List β}
    (front : short <+: long) (hfirst : List.Forall₂ (fun a b => f a = .ok b) short first)
    (hall : List.Forall₂ (fun a b => f a = .ok b) long all) : first <+: all := by
  induction hfirst generalizing long all with
  | nil => exact List.nil_prefix
  | @cons a b short first hb _ ih =>
      obtain ⟨tail, rfl⟩ := front
      rw [List.cons_append, List.forall₂_cons_left_iff] at hall
      obtain ⟨c, others, hc, hothers, rfl⟩ := hall
      cases hb.symm.trans hc
      exact List.cons_prefix_cons.2 ⟨rfl, ih (List.prefix_append short tail) hothers⟩

end GLBindings
