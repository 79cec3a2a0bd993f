/-
# Deduplication

The table that a family shares is decided by three facts, whatever its versions offer: the names
in it ascend, they are the names that the family's versions offer, and under each stands the
command that is met first when the versions are walked in order (`FirstMet`).  The walk matters for
commands that share a name and differ, and for nothing else: in any order of the versions the table
has the same names, and the same commands where the family agrees (`interopCommands_deduplicated`).
-/
import GLBindings.Proofs.Interop.FirstDeclared

namespace GLBindings

set_option autoImplicit false

variable {versions versions' : List Version} {family : String}

/-- The command is the first of its name on a walk through the versions of the family and the
commands of each: none before it in its own version has the name, and none in an earlier version
of the family. -/
def FirstMet (versions : List Version) (family : String) (c : Command) : Prop :=
  ∃ earlier v later before after,
    versions = earlier ++ v :: later ∧ v.family = family ∧ v.commands = before ++ c :: after ∧
    (∀ d ∈ before, d.name ≠ c.name) ∧
    ∀ w ∈ earlier, w.family = family → ∀ d ∈ w.commands, d.name ≠ c.name

theorem find?_name_eq_none_iff {commands : List Command} {name : String} :
    commands.find? (·.name == name) = none ↔ ∀ d ∈ commands, d.name ≠ name := by
  simp

/-- The first command of its name on the walk is the one to which its name leads. -/
theorem firstMet_iff {c : Command} :
    FirstMet versions family c ↔
      (offered versions family).find? (·.name == c.name) = some c := by
  rw [offered, versionsIn, List.find?_flatMap, List.findSome?_eq_some_iff]
  constructor
  · rintro ⟨earlier, v, later, before, after, rfl, rfl, commands, inFront, passed⟩
    refine ⟨earlier.filter (·.family == v.family), v, later.filter (·.family == v.family),
      ?_, ?_, ?_⟩
    · rw [List.filter_append, List.filter_cons_of_pos (by simp)]
    · rw [List.find?_eq_some_iff_append]
      exact ⟨beq_self_eq_true _, before, after, commands, by simpa using inFront⟩
    · intro w member
      rw [find?_name_eq_none_iff]
      rw [List.mem_filter, beq_iff_eq] at member
      exact passed w member.1 member.2
  · rintro ⟨passed, v, rest, walked, found, absent⟩
    obtain ⟨front, rest', rfl, rfl, others⟩ := List.filter_eq_append_iff.1 walked
    obtain ⟨skipped, later, rfl, foreign, own, -⟩ := List.filter_eq_cons_iff.1 others
    obtain ⟨-, before, after, commands, inFront⟩ := List.find?_eq_some_iff_append.1 found
    refine ⟨front ++ skipped, v, later, before, after, by simp, by simpa using own, commands,
      by simpa using inFront, ?_⟩
    -- A version passed on the way offers no such command, or belongs to another family.
    intro w member inFamily
    rcases List.mem_append.1 member with early | late
    · exact find?_name_eq_none_iff.1
        (absent w (List.mem_filter.2 ⟨early, by simpa using inFamily⟩))
    · exact absurd (by simpa using inFamily) (foreign w late)

/-- A table holds the first command met of each name, and nothing else. -/
theorem mem_interopCommands_iff_firstMet {c : Command} :
    c ∈ interopCommands versions family ↔ FirstMet versions family c := by
  rw [mem_interopCommands_iff, firstMet_iff]

/-- No name that is offered is lost, and none is invented. -/
theorem mem_names_interopCommands_iff {name : String} :
    name ∈ (interopCommands versions family).map Command.name ↔
      ∃ v ∈ versions, v.family = family ∧ ∃ c ∈ v.commands, c.name = name := by
  rw [List.mem_map]
  constructor
  · rintro ⟨c, kept, rfl⟩
    have own := List.mem_of_find?_eq_some (mem_interopCommands_iff.1 kept)
    obtain ⟨v, hv, inFamily, offers⟩ := mem_offered_iff.1 own
    exact ⟨v, hv, inFamily, c, offers, rfl⟩
  · rintro ⟨v, hv, inFamily, c, offers, rfl⟩
    have member := mem_offered_iff.2 ⟨v, hv, inFamily, offers⟩
    obtain ⟨d, -, found, same⟩ := exists_find?_name member
    rw [← same] at found
    exact ⟨d, mem_interopCommands_iff.2 found, same⟩

theorem ascending_names_interopCommands (versions : List Version) (family : String) :
    Ascending id ((interopCommands versions family).map Command.name) :=
  List.pairwise_map.2 (ascending_interopCommands versions family)

/-- The names in a table do not depend on the order of the versions. -/
theorem names_interopCommands_perm (perm : versions'.Perm versions) (family : String) :
    (interopCommands versions' family).map Command.name =
      (interopCommands versions family).map Command.name := by
  apply (ascending_names_interopCommands versions' family).eq_of_mem_iff
    (ascending_names_interopCommands versions family)
  intro name
  rw [mem_names_interopCommands_iff, mem_names_interopCommands_iff]
  simp only [perm.mem_iff]

/-- **A shared table has each name that its family offers once, in order, with the command that
is met first; the order of the versions shows only where commands of one name differ.** -/
theorem interopCommands_deduplicated (versions : List Version) (family : String) :
    ((interopCommands versions family).map Command.name).Pairwise (· < ·) ∧
    (∀ name, name ∈ (interopCommands versions family).map Command.name ↔
      ∃ v ∈ versions, v.family = family ∧ ∃ c ∈ v.commands, c.name = name) ∧
    (∀ c, c ∈ interopCommands versions family ↔ FirstMet versions family c) ∧
    ∀ versions' : List Version, versions'.Perm versions →
      (interopCommands versions' family).map Command.name =
        (interopCommands versions family).map Command.name ∧
      (AgreeIn versions family →
        interopCommands versions' family = interopCommands versions family) := by
  refine ⟨ascending_names_interopCommands versions family,
    fun name => mem_names_interopCommands_iff, fun c => mem_interopCommands_iff_firstMet, ?_⟩
  intro versions' perm
  exact ⟨names_interopCommands_perm perm family, fun agree => agree.interopCommands_perm perm⟩

/-! ## Overlapping versions -/

namespace Sample

def plainCommand (name : String) (parameters : List String) : Command where
  name
  result := { base := .void, spelling := "void" }
  parameters := parameters.map fun name =>
    { type := { base := .uint32, spelling := "GLuint" }, name }

/-- Two versions of a family declare `glBind` differently, and one of another family has it too. -/
def overlapping : List Version := [
  { family := "GL", name := "GL10", number := "1.0"
    commands := [plainCommand "glFlush" [], plainCommand "glBind" ["unit"]] },
  { family := "GLES", name := "GLES20", number := "2.0", commands := [plainCommand "glBind" []] },
  { family := "GL", name := "GL11", number := "1.1"
    commands := [plainCommand "glBind" ["target"], plainCommand "glAlpha" []] }]

/-- The same versions where the later one leaves `glBind` out. -/
def agreeing : List Version :=
  overlapping.map fun v =>
    { v with commands := v.commands.filter (· ≠ plainCommand "glBind" ["target"]) }

end Sample

theorem interopCommands_deduplicated_sample :
    Sample.overlapping.reverse.Perm Sample.overlapping ∧
      (interopCommands Sample.overlapping.reverse "GL").map Command.name =
        (interopCommands Sample.overlapping "GL").map Command.name ∧
      Sample.plainCommand "glBind" ["unit"] ∈ interopCommands Sample.overlapping "GL" ∧
      Sample.plainCommand "glBind" ["target"] ∈
        interopCommands Sample.overlapping.reverse "GL" ∧
      AgreeIn Sample.agreeing "GL" ∧
      interopCommands Sample.agreeing.reverse "GL" = interopCommands Sample.agreeing "GL" := by
  have agree : AgreeIn Sample.agreeing "GL" := by
    unfold AgreeIn
    decide +kernel
  refine ⟨List.reverse_perm _, ?_, ?_, ?_, agree, ?_⟩
  · obtain ⟨-, -, -, reordered⟩ := interopCommands_deduplicated Sample.overlapping "GL"
    exact (reordered _ (List.reverse_perm _)).1
  · rw [mem_interopCommands_iff]
    decide +kernel
  · rw [mem_interopCommands_iff]
    decide +kernel
  · obtain ⟨-, -, -, reordered⟩ := interopCommands_deduplicated Sample.agreeing "GL"
    exact (reordered _ (List.reverse_perm _)).2 agree

end GLBindings
