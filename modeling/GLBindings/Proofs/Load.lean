/-
# Loading

A specification that has been loaded is one document's: its versions are what the features of the
document lead to, in a registry in which constants and commands have been declared and nothing else
(`exists_adds_of_load`).  So what holds of every registry that reading leads to holds of it.  What
is declared does not depend on the profile (`Registry.declarations`), and loading succeeds when the
declarations can be read and the features add versions to them (`load_eq_ok_iff_adds`).
-/
import GLBindings.Proofs.Registry.Cumulative
import GLBindings.Proofs.Xml.Plain

namespace GLBindings

open Registry (Reached Adds Stage)
open Xml (Element Node)

set_option autoImplicit false

namespace Registry

theorem result_eq_ok_iff {reading : Reading} {registry : Registry} :
    reading.result = .ok registry ↔ reading.failure = none ∧ reading.registry = registry := by
  rw [Reading.result]
  cases reading.failure with
  | none => simp
  | some failure => simp

/-- What is read of a document before its features are, which is the same for every profile. -/
def declarations (root : Element) : Reading :=
  ((({} : Registry).readNotice root).readConstants root).readCommands root

theorem reached_declarations (root : Element) : Reached (declarations root).registry :=
  .stage (.stage (.stage .fresh .notice root) .constants root) .commands root

/-- Commands are read last, and reading them leaves the rest as it is. -/
theorem exists_declarations_eq (root : Element) : ∃ commands, (declarations root).registry = {
    notice := (({} : Registry).readNotice root).notice
    constants := (declaredConstants root).foldl declareConstant []
    commands } := by
  obtain ⟨notice, first⟩ := exists_readNotice_eq {} root
  obtain ⟨commands, second⟩ := exists_readEachCommand_eq
    ((({} : Registry).readNotice root).readConstants root) (commandElements root)
  refine ⟨commands, ?_⟩
  rw [declarations, readCommands, second, readConstants, first]

theorem versions_declarations (root : Element) : (declarations root).registry.versions = [] := by
  obtain ⟨commands, same⟩ := exists_declarations_eq root
  rw [same]

theorem notice_declarations (root : Element) :
    (declarations root).registry.notice = (({} : Registry).readNotice root).notice := by
  obtain ⟨commands, same⟩ := exists_declarations_eq root
  rw [same]

theorem constants_declarations (root : Element) : (declarations root).registry.constants =
    (declaredConstants root).foldl declareConstant [] := by
  obtain ⟨commands, same⟩ := exists_declarations_eq root
  rw [same]

/-- A registry has been read as a whole when its declarations have and its features add versions. -/
theorem read_eq_ok_iff {root : Element} {profile : String} {registry : Registry} :
    Registry.read root profile = .ok registry ↔ (declarations root).failure = none ∧
      ∃ added, Adds (declarations root).registry profile root added ∧
        registry = { (declarations root).registry with versions := added } := by
  rw [Registry.read, bind_eq_ok_iff]
  constructor
  · rintro ⟨declared, commands, features⟩
    obtain ⟨noFailure, rfl⟩ := result_eq_ok_iff.1 commands
    obtain ⟨succeeds, rfl⟩ := result_eq_ok_iff.1 features
    obtain ⟨added, adds, final⟩ := exists_adds succeeds
    refine ⟨noFailure, added, adds, ?_⟩
    have whole : (declarations root).registry.versions ++ added = added := by
      rw [versions_declarations, List.nil_append]
    rw [final]
    exact congrArg (fun versions => { (declarations root).registry with versions }) whole
  · rintro ⟨noFailure, added, adds, rfl⟩
    refine ⟨_, result_eq_ok_iff.2 ⟨noFailure, rfl⟩, ?_⟩
    have features := adds.readFeatures_eq
    rw [versions_declarations, List.nil_append] at features
    exact result_eq_ok_iff.2 ⟨congrArg Reading.failure features, congrArg Reading.registry features⟩

/-- A registry that has been read as a whole has the versions that its document adds. -/
theorem exists_adds_of_read {root : Element} {profile : String} {registry : Registry}
    (read : Registry.read root profile = .ok registry) :
    ∃ declared, Reached declared ∧ Adds declared profile root registry.versions := by
  obtain ⟨-, added, adds, rfl⟩ := read_eq_ok_iff.1 read
  exact ⟨_, reached_declarations root, adds⟩

end Registry

/-- Loading reads a document and then the registry in it. -/
theorem load_eq_ok_iff {bytes : List UInt8} {profile : String} {spec : Spec} :
    Spec.load bytes profile = .ok spec ↔ ∃ root registry, Xml.readDocument bytes = .ok root ∧
      Registry.read root profile = .ok registry ∧ registry.spec = spec := by
  simp only [Spec.load, bind_eq_ok_iff, mapError_eq_ok_iff]
  constructor
  · rintro ⟨root, document, registry, read, made⟩
    cases made
    exact ⟨root, registry, document, read, rfl⟩
  · rintro ⟨root, registry, document, read, rfl⟩
    exact ⟨root, document, registry, read, rfl⟩

/-- A specification is loaded by reading the document for it. -/
theorem load_of_read {bytes : List UInt8} {root : Element} {profile : String} {spec : Spec}
    (document : Xml.readDocument bytes = .ok root)
    (read : (Registry.read root profile).map Registry.spec = .ok spec) :
    Spec.load bytes profile = .ok spec := by
  obtain ⟨registry, succeeds, same⟩ := map_eq_ok_iff.1 read
  exact load_eq_ok_iff.2 ⟨root, registry, document, succeeds, same⟩

/-- What a document has to be like for a specification to be loaded from it. -/
theorem load_eq_ok_iff_adds {bytes : List UInt8} {profile : String} {root : Element} {spec : Spec}
    (document : Xml.readDocument bytes = .ok root) :
    Spec.load bytes profile = .ok spec ↔ (Registry.declarations root).failure = none ∧
      Adds (Registry.declarations root).registry profile root spec.versions ∧
      spec.notice = (Registry.declarations root).registry.notice := by
  rw [load_eq_ok_iff]
  constructor
  · rintro ⟨root', registry, document', read, rfl⟩
    cases document.symm.trans document'
    obtain ⟨noFailure, added, adds, rfl⟩ := Registry.read_eq_ok_iff.1 read
    exact ⟨noFailure, adds, rfl⟩
  · rintro ⟨noFailure, adds, notice⟩
    refine ⟨root, _, document, Registry.read_eq_ok_iff.2 ⟨noFailure, _, adds, rfl⟩, ?_⟩
    rw [Registry.spec, ← notice]

/-- A loaded specification has the versions that its document adds. -/
theorem exists_adds_of_load {bytes : List UInt8} {profile : String} {spec : Spec}
    (loaded : Spec.load bytes profile = .ok spec) :
    ∃ root registry, Xml.readDocument bytes = .ok root ∧ Reached registry ∧
      Adds registry profile root spec.versions := by
  obtain ⟨root, registry, document, read, rfl⟩ := load_eq_ok_iff.1 loaded
  obtain ⟨declared, reached, adds⟩ := Registry.exists_adds_of_read read
  exact ⟨root, declared, document, reached, adds⟩

/-! ## A document that declares a command twice -/

namespace Sample

open Registry.Sample (entry command block feature)

def unary (result name type parameter : String) : Node :=
  .element ⟨"command", [], [
    .element ⟨"proto", [], [.text result, .element ⟨"name", [], [.text name]⟩]⟩,
    .element ⟨"param", [], [.text type, .element ⟨"name", [], [.text parameter]⟩]⟩]⟩

/-- Two apis of one family require `f`, which is declared twice and has a parameter of an unknown
type, and constants, of which one is wide. -/
def root : Element := ⟨"registry", [], [
  .element ⟨"enums", [], [
    .element ⟨"enum", [("name", "GL_ONE"), ("value", "1")], []⟩,
    .element ⟨"enum", [("name", "GL_ALL"), ("value", "0xFFFFFFFFFF")], []⟩]⟩,
  .element ⟨"commands", [], [command "void " "f", unary "int " "f" "T " "x"]⟩,
  feature "gles1" "1.0" [block "require" "core" [entry "enum" "GL_ONE", entry "command" "f"]],
  feature "gles2" "2.0" [
    block "require" "core" [entry "enum" "GL_ONE", entry "enum" "GL_ALL", entry "command" "f"]]]⟩

def characters : List Char := [
  "<registry>", "<enums>", "<enum name='GL_ONE' value='1'></enum>",
  "<enum name='GL_ALL' value='0xFFFFFFFFFF'></enum>", "</enums>", "<commands>",
  "<command><proto>", "void <name>f</name>", "</proto></command>",
  "<command><proto>", "int <name>f</name>", "</proto>",
  "<param>T <name>x</name></param>", "</command>", "</commands>",
  "<feature api='gles1' number='1.0'>",
  "<require profile='core'>", "<enum name='GL_ONE'></enum>", "<command name='f'></command>",
  "</require></feature>",
  "<feature api='gles2' number='2.0'>",
  "<require profile='core'>", "<enum name='GL_ONE'></enum>", "<enum name='GL_ALL'></enum>",
  "<command name='f'></command>", "</require></feature>",
  "</registry>"].flatMap String.toList

def bytes : List UInt8 := Xml.utf8Bytes characters

/-- What both versions offer: the second declaration. -/
def f : Command where
  name := "f"
  result := { base := .int32, spelling := "int" }
  parameters := [{ type := { base := .unrecognized, spelling := "T" }, name := "x" }]

def spec : Spec where
  versions := [
    { family := "GLES", name := "GLES10", number := "1.0", commands := [f],
      constants := [{ name := "GL_ONE", value := "1" }] },
    { family := "GLES", name := "GLES20", number := "2.0", commands := [f],
      constants := [
        { name := "GL_ONE", value := "1" }, { name := "GL_ALL", value := "0xFFFFFFFFFF" }] }]

theorem readDocument_bytes : Xml.readDocument bytes = .ok root := by
  apply Xml.readDocument_utf8Bytes
  · decide +kernel
  · decide +kernel
  · decide +kernel

theorem load_bytes : Spec.load bytes = .ok spec :=
  load_of_read readDocument_bytes (by decide +kernel)

end Sample

end GLBindings
