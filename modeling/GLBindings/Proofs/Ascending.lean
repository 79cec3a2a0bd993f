/-
# Ascending lists

Things with a text as key, each key once, sorted by their keys in code point order.  Sorting gives
such a list as soon as no key comes twice (`ascending_mergeSort`), and there is only one for given
entries (`Ascending.eq_of_mem_iff`), whatever order they came in.
-/
import Mathlib.Data.List.Nodup
import Mathlib.Data.List.Sort

namespace GLBindings

set_option autoImplicit false

variable {α : Type} {key : α → String}

/-- Every key is less than all that come after it. -/
def Ascending (key : α → String) (l : List α) : Prop := l.Pairwise fun a b => key a < key b

theorem pairwise_le_mergeSort (key : α → String) (l : List α) :
    (l.mergeSort fun a b => key a ≤ key b).Pairwise fun a b => key a ≤ key b := by
  refine (List.pairwise_mergeSort ?_ ?_ l).imp ?_
  · intro a b c first second
    exact decide_eq_true (String.le_trans (of_decide_eq_true first) (of_decide_eq_true second))
  · intro a b
    rw [Bool.or_eq_true, decide_eq_true_iff, decide_eq_true_iff]
    exact String.le_total (key a) (key b)
  · intro a b holds
    exact of_decide_eq_true holds

/-- Sorting things that have different keys leaves them ascending. -/
theorem ascending_mergeSort {l : List α} (distinct : (l.map key).Nodup) :
    Ascending key (l.mergeSort fun a b => key a ≤ key b) := by
  have perm := (List.mergeSort_perm l fun a b => key a ≤ key b).map key
  have apart : (l.mergeSort fun a b => key a ≤ key b).Pairwise fun a b => key a ≠ key b :=
    List.pairwise_map.1 (perm.nodup_iff.2 distinct)
  refine ((pairwise_le_mergeSort key l).and apart).imp ?_
  rintro a b ⟨least, other⟩
  apply String.not_le.1
  intro greatest
  exact other (String.le_antisymm least greatest)

/-- No key comes twice in an ascending list. -/
theorem Ascending.nodup_map {l : List α} (ascending : Ascending key l) : (l.map key).Nodup := by
  rw [List.Nodup, List.pairwise_map]
  refine List.Pairwise.imp ?_ ascending
  intro a b less same
  rw [same] at less
  exact String.lt_irrefl _ less

theorem Ascending.nodup {l : List α} (ascending : Ascending key l) : l.Nodup :=
  ascending.nodup_map.of_map key

/-- The entries of an ascending list decide it. -/
theorem Ascending.eq_of_mem_iff {l l' : List α} (ascending : Ascending key l)
    (ascending' : Ascending key l') (same : ∀ a, a ∈ l ↔ a ∈ l') : l = l' := by
  have perm : l.Perm l' := (List.perm_ext_iff_of_nodup ascending.nodup ascending'.nodup).2 same
  refine perm.eq_of_pairwise ?_ ascending ascending'
  intro a b _ _ less greater
  exact absurd (String.lt_trans less greater) (String.lt_irrefl _)

/-- An ascending list splits around any of its entries, and no other entry has the same key. -/
theorem Ascending.exists_split {l : List α} (ascending : Ascending key l) {a : α} (member : a ∈ l) :
    ∃ before after, l = before ++ a :: after ∧ ∀ b ∈ before ++ after, key b ≠ key a := by
  obtain ⟨before, after, rfl⟩ := List.append_of_mem member
  refine ⟨before, after, rfl, ?_⟩
  have distinct := ascending.nodup_map
  rw [List.map_append, List.map_cons, List.nodup_middle, List.nodup_cons,
    ← List.map_append] at distinct
  intro b hb same
  apply distinct.1
  rw [← same]
  exact List.mem_map_of_mem hb

end GLBindings
