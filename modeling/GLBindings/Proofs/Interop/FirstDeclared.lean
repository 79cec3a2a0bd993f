/-
# First declarations

A shared table keeps of each name the first command met in the family's versions, and lists what it
keeps by name.  So a command is in the table exactly when it is the first of its name
(`mem_interopCommands_iff`).  Where the versions of a family agree on what a name stands for, being
first makes no difference: the table holds all that any version offers
(`AgreeIn.mem_interopCommands_iff`), whatever order the versions come in
(`AgreeIn.interopCommands_perm`).
-/
import GLBindings.Interop
import GLBindings.Proofs.Ascending
import Mathlib.Data.List.Induction

namespace GLBindings

set_option autoImplicit false

/-! ## The first of each name -/

/-- One more command is kept unless its name has come before. -/
theorem firstOfEachName_concat (commands : List Command) (c : Command) :
    firstOfEachName (commands ++ [c]) =
      if (firstOfEachName commands).any (·.name == c.name) then firstOfEachName commands
      else firstOfEachName commands ++ [c] := by
  rw [firstOfEachName, List.foldl_append]
  rfl

/-- Looking a name up gives the same before and after the later ones are left out. -/
theorem find?_firstOfEachName (commands : List Command) (name : String) :
    (firstOfEachName commands).find? (·.name == name) = commands.find? (·.name == name) := by
  induction commands using List.reverseRecOn with
  | nil => rfl
  | append_singleton commands c ih =>
      rw [firstOfEachName_concat, List.find?_append, ← ih]
      split
      · rename_i taken
        by_cases same : c.name = name
        · subst same
          have known := List.find?_isSome.2 (List.any_eq_true.1 taken)
          obtain ⟨d, found⟩ := Option.isSome_iff_exists.1 known
          rw [found, Option.some_or]
        · rw [List.find?_singleton, if_neg (by simpa using same), Option.or_none]
      · rw [List.find?_append]

theorem nodup_names_firstOfEachName (commands : List Command) :
    ((firstOfEachName commands).map Command.name).Nodup := by
  induction commands using List.reverseRecOn with
  | nil => exact List.nodup_nil
  | append_singleton commands c ih =>
      rw [firstOfEachName_concat]
      split
      · exact ih
      · rename_i fresh
        rw [List.map_append, List.map_singleton, List.nodup_append]
        refine ⟨ih, List.nodup_singleton _, ?_⟩
        rintro _ kept _ single same
        obtain ⟨d, hd, rfl⟩ := List.mem_map.1 kept
        rw [List.mem_singleton] at single
        exact fresh (List.any_eq_true.2 ⟨d, hd, by simpa [single] using same⟩)

/-- The name of a command leads to the first command of that name. -/
theorem exists_find?_name {commands : List Command} {c : Command} (member : c ∈ commands) :
    ∃ d ∈ commands, commands.find? (·.name == c.name) = some d ∧ d.name = c.name := by
  have known : (commands.find? (·.name == c.name)).isSome := by
    rw [List.find?_isSome]
    exact ⟨c, member, beq_self_eq_true c.name⟩
  obtain ⟨d, found⟩ := Option.isSome_iff_exists.1 known
  refine ⟨d, List.mem_of_find?_eq_some found, found, ?_⟩
  simpa using List.find?_some found

/-- Where no name comes twice, a command is in the list exactly when its name leads to it. -/
theorem mem_iff_find?_name {commands : List Command} (distinct : (commands.map Command.name).Nodup)
    {c : Command} : c ∈ commands ↔ commands.find? (·.name == c.name) = some c := by
  constructor
  · intro member
    obtain ⟨d, hd, found, same⟩ := exists_find?_name member
    rw [found, List.inj_on_of_nodup_map distinct hd member same]
  · intro found
    exact List.mem_of_find?_eq_some found

/-- The commands that are kept are those which a search by name finds. -/
theorem mem_firstOfEachName_iff {commands : List Command} {c : Command} :
    c ∈ firstOfEachName commands ↔ commands.find? (·.name == c.name) = some c := by
  rw [mem_iff_find?_name (nodup_names_firstOfEachName commands), find?_firstOfEachName]

/-! ## Shared tables -/

def offered (versions : List Version) (family : String) : List Command :=
  (versionsIn versions family).flatMap Version.commands

theorem mem_offered_iff {versions : List Version} {family : String} {c : Command} :
    c ∈ offered versions family ↔ ∃ v ∈ versions, v.family = family ∧ c ∈ v.commands := by
  simp [offered, versionsIn, and_assoc]

theorem ascending_interopCommands (versions : List Version) (family : String) :
    Ascending Command.name (interopCommands versions family) :=
  ascending_mergeSort (nodup_names_firstOfEachName _)

theorem mem_interopCommands_iff {versions : List Version} {family : String} {c : Command} :
    c ∈ interopCommands versions family ↔
      (offered versions family).find? (·.name == c.name) = some c := by
  rw [interopCommands, List.mem_mergeSort, mem_firstOfEachName_iff, offered]

/-! ## Agreement -/

/-- What a family offers under one name is one command. -/
def AgreeIn (versions : List Version) (family : String) : Prop :=
  ∀ c ∈ offered versions family, ∀ d ∈ offered versions family, c.name = d.name → c = d

/-- The versions of every family agree on what each name stands for. -/
def Agree (versions : List Version) : Prop :=
  ∀ v ∈ versions, ∀ w ∈ versions, v.family = w.family →
    ∀ c ∈ v.commands, ∀ d ∈ w.commands, c.name = d.name → c = d

theorem offered_perm {versions versions' : List Version} (perm : versions'.Perm versions)
    (family : String) : (offered versions' family).Perm (offered versions family) :=
  (perm.filter _).flatMap_right _

/-- Where a name means one command, nothing that is offered is left out. -/
theorem AgreeIn.mem_interopCommands_iff {versions : List Version} {family : String}
    (agree : AgreeIn versions family) {c : Command} :
    c ∈ interopCommands versions family ↔ c ∈ offered versions family := by
  rw [GLBindings.mem_interopCommands_iff]
  constructor
  · intro found
    exact List.mem_of_find?_eq_some found
  · intro member
    obtain ⟨d, first, found, same⟩ := exists_find?_name member
    rw [found, agree d first c member same]

theorem AgreeIn.of_perm {versions versions' : List Version} {family : String}
    (agree : AgreeIn versions family) (perm : versions'.Perm versions) :
    AgreeIn versions' family := by
  have same := offered_perm perm family
  intro c hc d hd
  exact agree c (same.mem_iff.1 hc) d (same.mem_iff.1 hd)

/-- The order of the versions leaves no trace in the table. -/
theorem AgreeIn.interopCommands_perm {versions versions' : List Version} {family : String}
    (agree : AgreeIn versions family) (perm : versions'.Perm versions) :
    interopCommands versions' family = interopCommands versions family := by
  apply (ascending_interopCommands versions' family).eq_of_mem_iff (ascending_interopCommands _ _)
  intro c
  rw [(agree.of_perm perm).mem_interopCommands_iff, agree.mem_interopCommands_iff,
    (offered_perm perm family).mem_iff]

theorem Agree.agreeIn {versions : List Version} (agree : Agree versions) (family : String) :
    AgreeIn versions family := by
  intro c hc d hd
  obtain ⟨v, hv, hfamily, offers⟩ := mem_offered_iff.1 hc
  obtain ⟨w, hw, hfamily', offers'⟩ := mem_offered_iff.1 hd
  exact agree v hv w hw (hfamily.trans hfamily'.symm) c offers d offers'

theorem Agree.mem_interopCommands_iff {versions : List Version} (agree : Agree versions)
    {family : String} {c : Command} :
    c ∈ interopCommands versions family ↔ ∃ v ∈ versions, v.family = family ∧ c ∈ v.commands := by
  rw [(agree.agreeIn family).mem_interopCommands_iff, mem_offered_iff]

end GLBindings
