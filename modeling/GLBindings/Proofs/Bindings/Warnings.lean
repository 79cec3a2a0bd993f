/-
# Warnings and aliases

A run warns about the names of unrecognized types, and every module declares aliases for those that
ctypes does not know.  So every alias is warned about, in shared tables too
(`aliases_of_unrecognizedTypes`), but not the other way round: an unrecognized type behind a pointer
goes by the name of a pointer, and one may be spelled like a class of ctypes.  Either is warned
about and gets no alias; the two lists agree exactly where no version mentions such a type.
-/
import GLBindings.Bindings.Module
import GLBindings.Proofs.Bindings.AliasLines
import GLBindings.Proofs.Interop.FirstDeclared

namespace GLBindings.Bindings

set_option autoImplicit false

def DeclaresAlias (spec : Spec) (keyword : String) : Prop :=
  ∃ v ∈ spec.versions, aliasLine keyword ∈ typeAliases v.commands

/-- An unrecognized type that goes by a name known to ctypes: behind a pointer, or spelled so. -/
def GoesByKnownName (t : TypeRef) : Prop :=
  t.base = .unrecognized ∧ (t.shape ≠ .plain ∨ t.spelling ∈ knownCtypes)

theorem mem_unrecognizedNames_iff {commands : List Command} {name : String} :
    name ∈ unrecognizedNames commands ↔
      ∃ t ∈ mentionedTypes commands, t.base = .unrecognized ∧ ctype t = name := by
  simp [unrecognizedNames, and_assoc]

/-- An unrecognized type meets a known name only behind a pointer, or by being spelled like it. -/
theorem ctype_mem_knownCtypes_iff {t : TypeRef} (unrecognized : t.base = .unrecognized) :
    ctype t ∈ knownCtypes ↔ GoesByKnownName t := by
  rw [GoesByKnownName, and_iff_right unrecognized, ctype]
  by_cases plain : t.shape = .plain
  · rw [if_pos plain, unrecognized, or_iff_right (not_not.2 plain)]
    rfl
  · rw [if_neg plain]
    refine iff_of_true ?_ (.inl plain)
    decide

namespace Generator

theorem ascending_unrecognizedTypes (g : Generator) : Ascending id g.unrecognizedTypes :=
  ascending_sortedNames _

theorem mem_unrecognizedTypes_iff {g : Generator} {keyword : String} :
    keyword ∈ g.unrecognizedTypes ↔
      ∃ v ∈ g.spec.versions, keyword ∈ unrecognizedNames v.commands := by
  rw [unrecognizedTypes, mem_sortedNames_iff, List.mem_flatMap]
  rfl

end Generator

/-- Aliases are declared for the unrecognized names of some version that ctypes does not know. -/
theorem declaresAlias_iff {spec : Spec} {keyword : String} :
    DeclaresAlias spec keyword ↔
      (∃ v ∈ spec.versions, keyword ∈ unrecognizedNames v.commands) ∧ keyword ∉ knownCtypes := by
  simp only [DeclaresAlias, aliasLine_mem_typeAliases_iff, mem_aliasKeywords_iff]
  constructor
  · rintro ⟨v, hv, named, unknown⟩
    exact ⟨⟨v, hv, named⟩, unknown⟩
  · rintro ⟨⟨v, hv, named⟩, unknown⟩
    exact ⟨v, hv, named, unknown⟩

/-- A shared table mentions no types beyond those of the versions. -/
theorem mentionedTypes_interopCommands {versions : List Version} {family : String} {t : TypeRef}
    (mentioned : t ∈ mentionedTypes (interopCommands versions family)) :
    ∃ v ∈ versions, t ∈ mentionedTypes v.commands := by
  obtain ⟨c, shared, inside⟩ := List.mem_flatMap.1 mentioned
  have own := List.mem_of_find?_eq_some (mem_interopCommands_iff.1 shared)
  obtain ⟨v, hv, -, hc⟩ := mem_offered_iff.1 own
  exact ⟨v, hv, List.mem_flatMap.2 ⟨c, hc, inside⟩⟩

namespace Generator

/-- What is reported differs from what is declared in the names that ctypes knows. -/
theorem declaresAlias_iff_mem (g : Generator) (keyword : String) :
    DeclaresAlias g.spec keyword ↔ keyword ∈ g.unrecognizedTypes ∧ keyword ∉ knownCtypes := by
  rw [declaresAlias_iff, mem_unrecognizedTypes_iff]

theorem mem_unrecognizedTypes_iff_of_known {g : Generator} {keyword : String}
    (known : keyword ∈ knownCtypes) :
    keyword ∈ g.unrecognizedTypes ↔ ∃ v ∈ g.spec.versions, ∃ t ∈ mentionedTypes v.commands,
      GoesByKnownName t ∧ ctype t = keyword := by
  simp only [mem_unrecognizedTypes_iff, mem_unrecognizedNames_iff]
  constructor
  · rintro ⟨v, hv, t, ht, unrecognized, rfl⟩
    exact ⟨v, hv, t, ht, (ctype_mem_knownCtypes_iff unrecognized).1 known, rfl⟩
  · rintro ⟨v, hv, t, ht, disguised, rfl⟩
    exact ⟨v, hv, t, ht, disguised.1, rfl⟩

/-- Warnings and aliases agree exactly where no unrecognized type goes by a known name. -/
theorem forall_mem_iff_declaresAlias (g : Generator) :
    (∀ keyword, keyword ∈ g.unrecognizedTypes ↔ DeclaresAlias g.spec keyword) ↔
      ∀ v ∈ g.spec.versions, ∀ t ∈ mentionedTypes v.commands, ¬ GoesByKnownName t := by
  constructor
  · intro agree v hv t ht disguised
    have known := (ctype_mem_knownCtypes_iff disguised.1).2 disguised
    have warned := (mem_unrecognizedTypes_iff_of_known known).2 ⟨v, hv, t, ht, disguised, rfl⟩
    exact ((g.declaresAlias_iff_mem _).1 ((agree _).1 warned)).2 known
  · intro plain keyword
    rw [declaresAlias_iff_mem, iff_self_and]
    intro warned known
    obtain ⟨v, hv, t, ht, disguised, -⟩ := (mem_unrecognizedTypes_iff_of_known known).1 warned
    exact plain v hv t ht disguised

/-- A shared table's module declares no alias that the modules of versions do not. -/
theorem declaresAlias_of_interop {g : Generator} {family keyword : String}
    (line : aliasLine keyword ∈ typeAliases (interopCommands g.spec.versions family)) :
    DeclaresAlias g.spec keyword := by
  rw [aliasLine_mem_typeAliases_iff, mem_aliasKeywords_iff, mem_unrecognizedNames_iff] at line
  obtain ⟨⟨t, shared, unrecognized, rfl⟩, unknown⟩ := line
  obtain ⟨v, hv, ht⟩ := mentionedTypes_interopCommands shared
  rw [declaresAlias_iff]
  exact ⟨⟨v, hv, mem_unrecognizedNames_iff.2 ⟨t, ht, unrecognized, rfl⟩⟩, unknown⟩

end Generator

/-- **Every alias is warned about, and only types that go by a known name are warned about
besides.** -/
theorem aliases_of_unrecognizedTypes (g : Generator) :
    Ascending id g.unrecognizedTypes ∧
    (∀ keyword, DeclaresAlias g.spec keyword ↔
      keyword ∈ g.unrecognizedTypes ∧ keyword ∉ knownCtypes) ∧
    (∀ keyword ∈ knownCtypes, (keyword ∈ g.unrecognizedTypes ↔
      ∃ v ∈ g.spec.versions, ∃ t ∈ mentionedTypes v.commands,
        GoesByKnownName t ∧ ctype t = keyword)) ∧
    ((∀ keyword, keyword ∈ g.unrecognizedTypes ↔ DeclaresAlias g.spec keyword) ↔
      ∀ v ∈ g.spec.versions, ∀ t ∈ mentionedTypes v.commands, ¬ GoesByKnownName t) ∧
    ∀ family keyword, aliasLine keyword ∈ typeAliases (interopCommands g.spec.versions family) →
      DeclaresAlias g.spec keyword := by
  refine ⟨g.ascending_unrecognizedTypes, g.declaresAlias_iff_mem, ?_,
    g.forall_mem_iff_declaresAlias, ?_⟩
  · intro keyword known
    exact Generator.mem_unrecognizedTypes_iff_of_known known
  · intro family keyword line
    exact Generator.declaresAlias_of_interop line

/-! ## A pointer to an unrecognized type -/

namespace Sample

/-- A command that takes a pointer to something unknown. -/
def takesPointer : Command where
  name := "glFoo"
  result := { base := .void, spelling := "void" }
  parameters := [
    { type := { base := .unrecognized, shape := .pointer, spelling := "GLfoo" }, name := "x" }]

def pointerSpec : Spec where
  versions := [{ family := "GL", name := "GL10", number := "1.0", commands := [takesPointer] }]

end Sample

/-- The warning names `c_void_p`, for which no module declares an alias. -/
theorem unrecognizedTypes_of_pointer :
    Generator.unrecognizedTypes { spec := Sample.pointerSpec } = ["c_void_p"] ∧
      ¬ DeclaresAlias Sample.pointerSpec "c_void_p" := by
  constructor
  · decide +kernel
  · rw [declaresAlias_iff]
    rintro ⟨-, unknown⟩
    exact unknown (by decide)

end GLBindings.Bindings
