/-
# Shared tables of loaded specifications

A wrapper in a version's module is typed by the version's own command, and calls through a slot that
is typed by the family's table.  In a loaded specification the two are one and the same
(`interopCommands_of_load`): every version takes a command from the one registry that the document
was read into, where the last declaration of a name has replaced the others.
-/
import GLBindings.Bindings.Module
import GLBindings.Proofs.Interop.FirstDeclared
import GLBindings.Proofs.Load

namespace GLBindings

open Bindings (Generator textOfLines prototypeEntry)

set_option autoImplicit false

namespace Registry

/-- Every command of a version that has been added is the one on file under its name. -/
theorem Adds.find?_commands {registry : Registry} {profile : String} {root : Xml.Element}
    {added : List Version} (adds : Adds registry profile root added) (keyed : registry.WellKeyed)
    {version : Version} (hversion : version ∈ added) {command : Command}
    (hcommand : command ∈ version.commands) :
    registry.commands.find? command.name = some command := by
  obtain ⟨snapshot, -, made⟩ := exists_mem_of_forall₂ adds hversion
  obtain ⟨-, -, -, -, found⟩ := version_eq_ok_iff.1 made
  obtain ⟨name, -, filed⟩ := exists_mem_of_forall₂ found hcommand
  have own := keyed.name_of_lookupCommand filed
  subst own
  exact lookupCommand_eq_ok_iff.1 filed

/-- Versions that come from one registry agree on what each name stands for. -/
theorem Adds.agree {registry : Registry} {profile : String} {root : Xml.Element}
    {added : List Version} (adds : Adds registry profile root added) (keyed : registry.WellKeyed) :
    Agree added := by
  intro v hv w hw _ c hc d hd same
  have first := adds.find?_commands keyed hv hc
  rw [same, adds.find?_commands keyed hw hd] at first
  exact (Option.some.inj first).symm

end Registry

/-- The versions of a loaded specification agree on what each name stands for. -/
theorem agree_of_load {bytes : List UInt8} {profile : String} {spec : Spec}
    (loaded : Spec.load bytes profile = .ok spec) : Agree spec.versions := by
  obtain ⟨root, registry, -, reached, adds⟩ := exists_adds_of_load loaded
  exact adds.agree reached.wellKeyed

/-- The module of a shared table lists the prototypes in the order of its commands. -/
theorem Bindings.Generator.exists_interopModule_eq (g : Generator) (family : String)
    (before : List Command) (c : Command) (after : List Command) :
    ∃ head tail, g.interopModule family (before ++ c :: after) =
      textOfLines (head ++ "PROTOTYPES = \x7b" :: before.map prototypeEntry ++
        prototypeEntry c :: after.map prototypeEntry ++ "\x7d" :: tail) := by
  have table : Bindings.prototypeTable (before ++ c :: after) =
      ["", ""] ++ "PROTOTYPES = \x7b" :: before.map prototypeEntry ++
        prototypeEntry c :: after.map prototypeEntry ++ ["\x7d"] := by
    rw [Bindings.prototypeTable, List.map_append, List.map_cons]
    simp
  rw [Generator.interopModule, Generator.interopLines, Bindings.interopTable, table]
  refine ⟨g.header ++ Bindings.ctypesImports (before ++ c :: after) true ++
    Bindings.typeAliases (before ++ c :: after) ++
    Bindings.storageHelpers g.settings.errorCheck ++ ["", ""],
    Bindings.tableClassLines (Bindings.tableClass family) ("every " ++ family ++ " version"), ?_⟩
  apply congrArg textOfLines
  simp only [List.append_assoc, List.cons_append, List.nil_append]

/-- **The shared table of a loaded specification holds each version's own commands.** -/
theorem interopCommands_of_load {bytes : List UInt8} {profile : String} {spec : Spec}
    (loaded : Spec.load bytes profile = .ok spec) :
    (∀ v ∈ spec.versions, ∀ c ∈ v.commands, ∃ before after,
      interopCommands spec.versions v.family = before ++ c :: after ∧
      (∀ d ∈ before ++ after, d.name ≠ c.name) ∧
      ∀ g : Generator, ∃ head tail,
        g.interopModule v.family (interopCommands spec.versions v.family) =
          textOfLines (head ++ "PROTOTYPES = \x7b" :: before.map prototypeEntry ++
            prototypeEntry c :: after.map prototypeEntry ++ "\x7d" :: tail)) ∧
    ∀ versions, versions.Perm spec.versions → ∀ family,
      interopCommands versions family = interopCommands spec.versions family := by
  have agree := agree_of_load loaded
  constructor
  · intro v hv c hc
    have member : c ∈ interopCommands spec.versions v.family :=
      agree.mem_interopCommands_iff.2 ⟨v, hv, rfl, hc⟩
    obtain ⟨before, after, split, others⟩ :=
      (ascending_interopCommands spec.versions v.family).exists_split member
    refine ⟨before, after, split, others, ?_⟩
    intro g
    rw [split]
    exact g.exists_interopModule_eq v.family before c after
  · intro versions perm family
    exact (agree.agreeIn family).interopCommands_perm perm

theorem interopCommands_of_load_sample :
    Spec.load Sample.bytes = .ok Sample.spec ∧
      ∀ v ∈ Sample.spec.versions, ∀ c ∈ v.commands, ∃ before after,
        interopCommands Sample.spec.versions v.family = before ++ c :: after ∧
          ∀ d ∈ before ++ after, d.name ≠ c.name := by
  refine ⟨Sample.load_bytes, ?_⟩
  intro v hv c hc
  obtain ⟨before, after, split, others, -⟩ :=
    (interopCommands_of_load Sample.load_bytes).1 v hv c hc
  exact ⟨before, after, split, others⟩

end GLBindings
