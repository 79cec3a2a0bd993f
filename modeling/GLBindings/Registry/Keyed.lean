/-
# Keyed lists

Entries found by a key and listed in the order in which their keys first came.  `addNew` keeps the
value that is there, `put` replaces it where it stands.
-/
namespace GLBindings.Registry

set_option autoImplicit false

/-- Values under keys, in the order of first appearance. -/
abbrev Keyed (κ ν : Type) := List (κ × ν)

namespace Keyed

variable {κ ν : Type} [DecidableEq κ]

def find? (entries : Keyed κ ν) (key : κ) : Option ν :=
  match entries with
  | [] => none
  | (k, v) :: rest => if k = key then some v else find? rest key

/-- Puts a value under a key, at the end if the key is new. -/
def put (entries : Keyed κ ν) (key : κ) (value : ν) : Keyed κ ν :=
  match entries with
  | [] => [(key, value)]
  | (k, v) :: rest => if k = key then (key, value) :: rest else (k, v) :: put rest key value

/-- Puts a value under a key that has none yet. -/
def addNew (entries : Keyed κ ν) (key : κ) (value : ν) : Keyed κ ν :=
  match entries.find? key with
  | some _ => entries
  | none => entries ++ [(key, value)]

def keys (entries : Keyed κ ν) : List κ := entries.map Prod.fst

theorem mem_of_find? {entries : Keyed κ ν} {key : κ} {value : ν}
    (found : entries.find? key = some value) : (key, value) ∈ entries := by
  induction entries with
  | nil => simp [find?] at found
  | cons entry rest ih =>
      obtain ⟨k, v⟩ := entry
      rw [find?] at found
      split at found
      · rename_i same
        cases same
        cases found
        exact List.mem_cons_self
      · exact List.mem_cons_of_mem _ (ih found)

theorem find?_eq_none_iff {entries : Keyed κ ν} {key : κ} :
    entries.find? key = none ↔ key ∉ entries.keys := by
  induction entries with
  | nil => simp [find?, keys]
  | cons entry rest ih =>
      obtain ⟨k, v⟩ := entry
      rw [find?]
      by_cases same : k = key
      · simp [same, keys]
      · simp [same, ih, keys, Ne.symm same]

theorem eq_or_mem_of_mem_put {entries : Keyed κ ν} {key : κ} {value : ν} {entry : κ × ν}
    (member : entry ∈ entries.put key value) : entry = (key, value) ∨ entry ∈ entries := by
  induction entries with
  | nil => exact .inl (List.mem_singleton.1 member)
  | cons first rest ih =>
      obtain ⟨k, v⟩ := first
      rw [put] at member
      split at member
      · exact (List.mem_cons.1 member).imp id (List.mem_cons_of_mem _)
      · rcases List.mem_cons.1 member with rfl | later
        · exact .inr List.mem_cons_self
        · exact (ih later).imp id (List.mem_cons_of_mem _)

theorem eq_or_mem_of_mem_addNew {entries : Keyed κ ν} {key : κ} {value : ν} {entry : κ × ν}
    (member : entry ∈ entries.addNew key value) : entry = (key, value) ∨ entry ∈ entries := by
  rw [addNew] at member
  split at member
  · exact .inr member
  · rcases List.mem_append.1 member with old | new
    · exact .inr old
    · exact .inl (List.mem_singleton.1 new)

theorem addNew_ne_nil (entries : Keyed κ ν) (key : κ) (value : ν) :
    entries.addNew key value ≠ [] := by
  rw [addNew]
  split
  · rename_i found
    exact List.ne_nil_of_mem (mem_of_find? found)
  · simp

/-- A new key comes last, and a known one keeps its place. -/
theorem keys_put (entries : Keyed κ ν) (key : κ) (value : ν) :
    (entries.put key value).keys =
      if key ∈ entries.keys then entries.keys else entries.keys ++ [key] := by
  induction entries with
  | nil => rfl
  | cons entry rest ih =>
      obtain ⟨k, v⟩ := entry
      rw [put]
      by_cases same : k = key
      · simp [same, keys]
      · rw [if_neg same, keys, List.map_cons]
        rw [keys] at ih
        by_cases known : key ∈ rest.map Prod.fst
        · simp [keys, ih, known]
        · simp [keys, ih, known, Ne.symm same]

theorem find?_put (entries : Keyed κ ν) (key other : κ) (value : ν) :
    (entries.put key value).find? other =
      if other = key then some value else entries.find? other := by
  induction entries with
  | nil => simp [put, find?, eq_comm]
  | cons entry rest ih =>
      obtain ⟨k, v⟩ := entry
      rw [put]
      by_cases same : k = key
      · subst same
        by_cases asked : k = other
        · simp [find?, asked]
        · simp [find?, asked, Ne.symm asked]
      · by_cases asked : k = other
        · have differ : other ≠ key := fun equal => same (asked.trans equal)
          simp [find?, asked, differ]
        · simp [find?, same, asked, ih]

theorem keys_addNew (entries : Keyed κ ν) (key : κ) (value : ν) :
    (entries.addNew key value).keys =
      if key ∈ entries.keys then entries.keys else entries.keys ++ [key] := by
  rw [addNew]
  split
  · rename_i found
    have present : key ∈ entries.keys := List.mem_map_of_mem (mem_of_find? found)
    rw [if_pos present]
  · rename_i absent
    rw [if_neg (find?_eq_none_iff.1 absent)]
    exact List.map_append

/-- A key that is listed only where it is not there yet is listed once. -/
theorem nodup_listed {listed : List κ} (distinct : listed.Nodup) (key : κ) :
    (if key ∈ listed then listed else listed ++ [key]).Nodup := by
  split
  · exact distinct
  · rename_i new
    simp only [List.nodup_append, List.nodup_cons, List.not_mem_nil, not_false_eq_true,
      List.nodup_nil, and_true, List.mem_singleton, true_and]
    refine ⟨distinct, ?_⟩
    rintro a member _ rfl rfl
    exact new member

theorem nodup_keys_put {entries : Keyed κ ν} (distinct : entries.keys.Nodup) (key : κ)
    (value : ν) : (entries.put key value).keys.Nodup := by
  rw [keys_put]
  exact nodup_listed distinct key

theorem nodup_keys_addNew {entries : Keyed κ ν} (distinct : entries.keys.Nodup) (key : κ)
    (value : ν) : (entries.addNew key value).keys.Nodup := by
  rw [keys_addNew]
  exact nodup_listed distinct key

theorem keys_prefix_put (entries : Keyed κ ν) (key : κ) (value : ν) :
    entries.keys <+: (entries.put key value).keys := by
  rw [keys_put]
  split
  · exact List.prefix_refl _
  · exact List.prefix_append _ _

theorem prefix_addNew (entries : Keyed κ ν) (key : κ) (value : ν) :
    entries <+: entries.addNew key value := by
  rw [addNew]
  split
  · exact List.prefix_refl entries
  · exact List.prefix_append entries _

theorem find?_append (entries more : Keyed κ ν) (key : κ) :
    find? (entries ++ more) key = (entries.find? key).or (find? more key) := by
  induction entries with
  | nil => rfl
  | cons entry rest ih =>
      obtain ⟨k, v⟩ := entry
      rw [List.cons_append, find?, find?]
      by_cases same : k = key
      · rw [if_pos same, if_pos same, Option.some_or]
      · rw [if_neg same, if_neg same, ih]

/-- More entries at the end change nothing for the keys that are there. -/
theorem find?_of_prefix {entries more : Keyed κ ν} (front : entries <+: more) {key : κ} {value : ν}
    (found : entries.find? key = some value) : more.find? key = some value := by
  obtain ⟨later, rfl⟩ := front
  rw [find?_append, found, Option.some_or]

theorem find?_addNew (entries : Keyed κ ν) (key other : κ) (value : ν) :
    (entries.addNew key value).find? other =
      (entries.find? other).or (find? [(key, value)] other) := by
  rw [addNew]
  split
  · rename_i found
    by_cases same : key = other
    · rw [← same, found, Option.some_or]
    · rw [find?, if_neg same, find?, Option.or_none]
  · exact find?_append entries _ other

end Keyed

end GLBindings.Registry
