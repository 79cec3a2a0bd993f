/-
# First occurrences

`List.eraseDups` keeps each entry of a list where it comes first.  The names that a registry has
live, the sorted names of a module and the entries of an interop table are all lists of this kind,
so the laws they share stand here: nothing repeats (`nodup_eraseDups`), filtering may be done before
or after (`eraseDups_filter`), more entries at the end only add to the end
(`eraseDups_append_eraseDups`, `eraseDups_prefix_append`), and entries keep the order of their first
occurrences (`idxOf_eraseDups_lt_iff`).  What is read up to the first occurrence of a mark is what
was written before it (`takeWhile_bne_append`, `dropWhile_bne_append`).
-/
import Mathlib.Data.List.Nodup

namespace GLBindings

set_option autoImplicit false

variable {α : Type} [BEq α] [LawfulBEq α]

theorem nodup_eraseDups : ∀ l : List α, l.eraseDups.Nodup
  | [] => List.nodup_nil
  | a :: rest => by
      rw [List.eraseDups_cons, List.nodup_cons]
      refine ⟨?_, nodup_eraseDups _⟩
      intro again
      simp at again
termination_by l => l.length
decreasing_by
  exact Nat.lt_succ_of_le (List.length_filter_le _ _)

theorem eraseDups_eq_self {l : List α} (distinct : l.Nodup) : l.eraseDups = l := by
  induction l with
  | nil => rfl
  | cons a rest ih =>
      rw [List.nodup_cons] at distinct
      have kept : (rest.filter fun b => !b == a) = rest := by
        rw [List.filter_eq_self]
        intro b member
        have differ : b ≠ a := fun same => distinct.1 (same ▸ member)
        simpa using differ
      rw [List.eraseDups_cons, kept, ih distinct.2]

/-- It makes no difference whether repetitions are dropped before a filter or after it. -/
theorem eraseDups_filter (p : α → Bool) :
    ∀ l : List α, (l.filter p).eraseDups = l.eraseDups.filter p
  | [] => rfl
  | a :: rest => by
      have swap : (rest.filter p).filter (fun b => !b == a) =
          (rest.filter fun b => !b == a).filter p := by
        simp only [List.filter_filter, Bool.and_comm]
      have ih := eraseDups_filter p (rest.filter fun b => !b == a)
      cases hp : p a with
      | true => simp only [List.filter_cons, hp, if_true, List.eraseDups_cons, swap, ih]
      | false =>
          -- without `a` it makes no difference whether its repetitions are gone already
          have gone : (rest.filter fun b => !b == a).filter p = rest.filter p := by
            rw [List.filter_filter]
            apply List.filter_congr
            intro b _
            by_cases same : b = a
            · simp [same, hp]
            · simp [same]
          simp only [List.filter_cons, hp, Bool.false_eq_true, if_false, List.eraseDups_cons]
          rw [← ih, gone]
termination_by l => l.length
decreasing_by
  exact Nat.lt_succ_of_le (List.length_filter_le _ _)

theorem eraseDups_append_eraseDups (l more : List α) :
    (l.eraseDups ++ more).eraseDups = (l ++ more).eraseDups := by
  have same : more.removeAll l.eraseDups = more.removeAll l := by
    unfold List.removeAll
    apply List.filter_congr
    intro b _
    simp [List.elem_eq_contains, List.contains_eq_mem]
  rw [List.eraseDups_append, List.eraseDups_append, same, eraseDups_eq_self (nodup_eraseDups l)]

/-- What is appended comes behind all that was there first. -/
theorem eraseDups_prefix_append (l more : List α) : l.eraseDups <+: (l ++ more).eraseDups := by
  rw [List.eraseDups_append]
  exact List.prefix_append _ _

theorem eraseDups_append_of_subset {l more : List α} (known : ∀ a ∈ more, a ∈ l) :
    (l ++ more).eraseDups = l.eraseDups := by
  have nothing : more.removeAll l = [] := by
    rw [List.removeAll, List.filter_eq_nil_iff]
    intro a member
    simpa using known a member
  rw [List.eraseDups_append, nothing, List.eraseDups_nil, List.append_nil]

/-! ## Order -/

theorem idxOf_cons_lt_iff (c a b : α) (rest : List α) :
    (c :: rest).idxOf a < (c :: rest).idxOf b ↔
      c ≠ b ∧ (c = a ∨ rest.idxOf a < rest.idxOf b) := by
  by_cases hb : c = b
  · subst hb
    simp
  · by_cases ha : c = a
    · subst ha
      simp [List.idxOf_cons_ne rest hb, hb]
    · simp [List.idxOf_cons_ne rest hb, List.idxOf_cons_ne rest ha, ha, hb]

theorem idxOf_map {β : Type} [BEq β] [LawfulBEq β] {f : α → β} (injective : Function.Injective f)
    (a : α) (l : List α) : (l.map f).idxOf (f a) = l.idxOf a := by
  induction l with
  | nil => rfl
  | cons b rest ih =>
      by_cases same : b = a
      · subst same
        simp
      · have differ : f b ≠ f a := fun equal => same (injective equal)
        rw [List.map_cons, List.idxOf_cons_ne _ differ, List.idxOf_cons_ne _ same, ih]

/-- Filtering keeps the order in which two entries come first, if it keeps both. -/
theorem idxOf_filter_lt_iff {p : α → Bool} {a b : α} (ha : p a = true) (hb : p b = true)
    (l : List α) : (l.filter p).idxOf a < (l.filter p).idxOf b ↔ l.idxOf a < l.idxOf b := by
  induction l with
  | nil => simp
  | cons c rest ih =>
      by_cases hc : p c = true
      · rw [List.filter_cons_of_pos hc, idxOf_cons_lt_iff, idxOf_cons_lt_iff, ih]
      · have hca : c ≠ a := fun same => hc (same ▸ ha)
        have hcb : c ≠ b := fun same => hc (same ▸ hb)
        rw [List.filter_cons_of_neg hc, idxOf_cons_lt_iff, ih]
        simp [hca, hcb]

/-- Without repetitions the entries stand in the order in which they came first. -/
theorem idxOf_eraseDups_lt_iff (a b : α) : ∀ l : List α,
    l.eraseDups.idxOf a < l.eraseDups.idxOf b ↔ l.idxOf a < l.idxOf b
  | [] => by simp
  | c :: rest => by
      rw [List.eraseDups_cons, idxOf_cons_lt_iff, idxOf_cons_lt_iff,
        idxOf_eraseDups_lt_iff a b (rest.filter fun d => !d == c)]
      by_cases hb : c = b
      · simp [hb]
      · by_cases ha : c = a
        · simp [ha]
        · rw [idxOf_filter_lt_iff (by simpa using Ne.symm ha) (by simpa using Ne.symm hb)]
termination_by l => l.length
decreasing_by
  exact Nat.lt_succ_of_le (List.length_filter_le _ _)

/-! ## Up to the first occurrence -/

theorem bne_of_not_mem {mark : α} {l : List α} (absent : mark ∉ l) :
    ∀ a ∈ l, (a != mark) = true := by
  intro a member
  rw [bne_iff_ne]
  rintro rfl
  exact absent member

/-- Taking up to a mark ends before the first one. -/
theorem takeWhile_bne_append {mark : α} {front : List α} (absent : mark ∉ front)
    (rest : List α) : (front ++ mark :: rest).takeWhile (· != mark) = front := by
  rw [List.takeWhile_append_of_pos (bne_of_not_mem absent), List.takeWhile_cons_of_neg (by simp),
    List.append_nil]

theorem dropWhile_bne_append {mark : α} {front : List α} (absent : mark ∉ front)
    (rest : List α) : (front ++ mark :: rest).dropWhile (· != mark) = mark :: rest := by
  rw [List.dropWhile_append_of_pos (bne_of_not_mem absent), List.dropWhile_cons_of_neg (by simp)]

end GLBindings
