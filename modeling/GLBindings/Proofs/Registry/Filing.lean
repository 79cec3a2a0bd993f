/-
# Filing entries one after the other

Constants are filed unless something is there already, and commands in the place of what is there.
A list of entries is itself a keyed list, though with keys that come again, and what it leads to can
be read off it: where nothing is replaced, the first entry under a key stays (`find?_addAll`), and
where everything is, the last one does (`find?_putAll`), in the place where the key came first
(`keys_putAll`).  Putting the same entries again changes nothing (`putAll_putAll`).
-/
import GLBindings.Proofs.FirstOccurrence
import GLBindings.Registry.Keyed

namespace GLBindings.Registry.Keyed

set_option autoImplicit false

variable {κ ν : Type} [DecidableEq κ]

theorem find?_map {α : Type} (key : α → κ) (value : α → ν) (l : List α) (k : κ) :
    find? (l.map fun a => (key a, value a)) k = (l.find? fun a => key a = k).map value := by
  induction l with
  | nil => rfl
  | cons a rest ih =>
      rw [List.map_cons, find?]
      by_cases same : key a = k
      · rw [if_pos same, List.find?_cons_of_pos (by simpa using same), Option.map_some]
      · rw [if_neg same, List.find?_cons_of_neg (by simpa using same), ih]

/-! ## Without replacing -/

/-- Files the entries in order, each unless there is something under its key. -/
def addAll (filed entries : Keyed κ ν) : Keyed κ ν :=
  entries.foldl (fun filed entry => filed.addNew entry.1 entry.2) filed

/-- Where the first entry stays, it is the one that is found. -/
theorem find?_addAll (filed entries : Keyed κ ν) (key : κ) :
    (filed.addAll entries).find? key = (filed.find? key).or (entries.find? key) := by
  induction entries generalizing filed with
  | nil => rw [addAll, List.foldl_nil, find?, Option.or_none]
  | cons entry rest ih =>
      obtain ⟨k, v⟩ := entry
      have split : find? ((k, v) :: rest) key = (find? [(k, v)] key).or (find? rest key) :=
        find?_append [(k, v)] rest key
      rw [split, ← Option.or_assoc, ← find?_addNew]
      exact ih (filed.addNew k v)

theorem prefix_addAll (filed entries : Keyed κ ν) : filed <+: filed.addAll entries := by
  refine List.foldlRecOn (motive := (filed <+: ·)) entries _ (List.prefix_refl filed) ?_
  intro more front entry _
  exact front.trans (prefix_addNew more entry.1 entry.2)

/-- What is filed first stays at the head. -/
theorem head?_addAll (entries : Keyed κ ν) : (addAll [] entries).head? = entries.head? := by
  cases entries with
  | nil => rfl
  | cons entry rest =>
      obtain ⟨later, same⟩ := prefix_addAll [entry] rest
      have first : addAll [] (entry :: rest) = addAll [entry] rest := rfl
      rw [first, ← same]
      rfl

/-! ## With replacing -/

/-- Putting what is there already changes nothing. -/
theorem put_of_find? {filed : Keyed κ ν} {key : κ} {value : ν}
    (found : filed.find? key = some value) : filed.put key value = filed := by
  induction filed with
  | nil => cases found
  | cons entry rest ih =>
      obtain ⟨k, v⟩ := entry
      rw [find?] at found
      rw [put]
      split at found
      · rename_i same
        cases found
        rw [if_pos same, same]
      · rename_i other
        rw [if_neg other, ih found]

/-- Files the entries in order, each in the place of what there is under its key. -/
def putAll (filed entries : Keyed κ ν) : Keyed κ ν :=
  entries.foldl (fun filed entry => filed.put entry.1 entry.2) filed

/-- Where entries are replaced, the last one is found. -/
theorem find?_putAll (filed entries : Keyed κ ν) (key : κ) :
    (filed.putAll entries).find? key = (find? entries.reverse key).or (filed.find? key) := by
  induction entries generalizing filed with
  | nil => rfl
  | cons entry rest ih =>
      obtain ⟨k, v⟩ := entry
      have last : (filed.put k v).find? key = (find? [(k, v)] key).or (filed.find? key) := by
        rw [find?_put]
        by_cases same : key = k
        · rw [if_pos same, find?, if_pos same.symm, Option.some_or]
        · rw [if_neg same, find?, if_neg (Ne.symm same), find?, Option.none_or]
      rw [List.reverse_cons, find?_append, Option.or_assoc, ← last]
      exact ih (filed.put k v)

theorem nodup_keys_putAll {filed : Keyed κ ν} (distinct : filed.keys.Nodup)
    (entries : Keyed κ ν) : (filed.putAll entries).keys.Nodup :=
  List.foldlRecOn (motive := fun filed : Keyed κ ν => filed.keys.Nodup) entries _ distinct
    fun _ distinct entry _ => nodup_keys_put distinct entry.1 entry.2

/-- Keys stand where they came first. -/
theorem keys_putAll {filed : Keyed κ ν} (distinct : filed.keys.Nodup) (entries : Keyed κ ν) :
    (filed.putAll entries).keys = (filed.keys ++ entries.keys).eraseDups := by
  induction entries generalizing filed with
  | nil =>
      have nothing : keys ([] : Keyed κ ν) = [] := rfl
      rw [nothing, List.append_nil, eraseDups_eq_self distinct]
      rfl
  | cons entry rest ih =>
      obtain ⟨k, v⟩ := entry
      have one : (filed.put k v).keys = (filed.keys ++ [k]).eraseDups := by
        have listed := nodup_listed distinct k
        rw [keys_put]
        by_cases known : k ∈ filed.keys
        · rw [if_pos known, eraseDups_append_of_subset (by simpa using known),
            eraseDups_eq_self distinct]
        · rw [if_neg known] at listed ⊢
          exact (eraseDups_eq_self listed).symm
      have whole : filed.keys ++ keys ((k, v) :: rest) = (filed.keys ++ [k]) ++ keys rest := by
        rw [List.append_assoc]
        rfl
      rw [whole, ← eraseDups_append_eraseDups, ← one]
      exact ih (nodup_keys_put distinct k v)

/-- Entries are known by the order of their keys and what is under each. -/
theorem eq_of_find?_eq {filed other : Keyed κ ν} (keys : filed.keys = other.keys)
    (distinct : filed.keys.Nodup) (same : ∀ key, filed.find? key = other.find? key) :
    filed = other := by
  induction filed generalizing other with
  | nil => exact (List.map_eq_nil_iff.1 keys.symm).symm
  | cons entry rest ih =>
      obtain ⟨k, v⟩ := entry
      obtain ⟨⟨k', v'⟩, rest', rfl, first, later⟩ := List.map_eq_cons_iff.1 keys.symm
      obtain rfl : k' = k := first
      have value : v = v' := by simpa [find?] using same k'
      subst value
      obtain ⟨absent, distinct⟩ := List.nodup_cons.1 distinct
      refine congrArg _ (ih later.symm distinct ?_)
      intro key
      by_cases own : k' = key
      · subst own
        have absent' : k' ∉ Keyed.keys rest' := fun member => absent (later ▸ member)
        rw [find?_eq_none_iff.2 absent, find?_eq_none_iff.2 absent']
      · have later := same key
        rwa [find?, if_neg own, find?, if_neg own] at later

/-- Filing the same entries again changes nothing. -/
theorem putAll_putAll {filed : Keyed κ ν} (distinct : filed.keys.Nodup) (entries : Keyed κ ν) :
    (filed.putAll entries).putAll entries = filed.putAll entries := by
  have distinct' := nodup_keys_putAll distinct entries
  apply eq_of_find?_eq _ (nodup_keys_putAll distinct' entries)
  · intro key
    rw [find?_putAll, find?_putAll, ← Option.or_assoc, Option.or_self]
  · have known : ∀ key ∈ entries.keys, key ∈ (filed.putAll entries).keys := by
      intro key member
      rw [keys_putAll distinct, List.mem_eraseDups]
      exact List.mem_append_right _ member
    rw [keys_putAll distinct', eraseDups_append_of_subset known, eraseDups_eq_self distinct']

end GLBindings.Registry.Keyed
