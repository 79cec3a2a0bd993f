/-
# What modules import from their package

The imports between the modules of a package are the lines that begin as such (`IsRelative`).  The
module of a shared table has none, that of a version has one if it uses the shared table, and that of
the package has one for each module that it re-exports.  No other line begins so, unless it defines
a constant that is named like an import (`ImportsExactly`): code begins with blanks, with a class or
with the name of a section (`StartsAsCode`), and an alias has its name before the blank.
-/
import GLBindings.Proofs.Bindings.Layout

namespace GLBindings.Bindings

set_option autoImplicit false

/-! ## Code -/

def codeStarts : List Char := [' ', 'c', 'C', 'P', ')', '\x7d']

def StartsAsCode (lines : List String) : Prop := ∀ line ∈ lines, BeginsIn codeStarts line

instance (lines : List String) : Decidable (StartsAsCode lines) :=
  inferInstanceAs (Decidable (∀ line ∈ lines, _))

theorem StartsAsCode.append {lines more : List String} (first : StartsAsCode lines)
    (second : StartsAsCode more) : StartsAsCode (lines ++ more) :=
  List.forall_mem_append.2 ⟨first, second⟩

theorem StartsAsCode.map {commands : List Command} {line : Command → String}
    (begin : ∀ c, BeginsIn [' '] (line c)) : StartsAsCode (commands.map line) := by
  intro written member
  obtain ⟨c, -, rfl⟩ := List.mem_map.1 member
  intro first begins
  obtain rfl := List.mem_singleton.1 (begin c first begins)
  exact List.mem_cons_self

@[simp] theorem beginsIn_empty : BeginsIn codeStarts "" := by decide

/-- A line is told by its first character, and the rest of it need not be computed. -/
theorem beginsIn_ofList {c : Char} (known : c ∈ codeStarts) (rest : List Char) :
    BeginsIn codeStarts (String.ofList (c :: rest)) := by
  intro first begins
  rw [String.toList_ofList] at begins
  cases begins
  exact known

@[simp] theorem beginsIn_append_iff {front : String} (some : front ≠ "") (rest : String) :
    BeginsIn codeStarts (front ++ rest) ↔ BeginsIn codeStarts front := by
  rw [BeginsIn, String.toList_append, List.head?_append_of_ne_nil _ (by simpa using some)]
  rfl

@[simp] theorem beginsIn_docLine (depth : Nat) (text : String) :
    BeginsIn codeStarts (docLine (depth + 1) text) := by
  have indented : String.join (List.replicate (depth + 1) indent) =
      indent ++ String.join (List.replicate depth indent) := by
    rw [List.replicate_succ, String.join_cons]
  simp only [docLine, indented, String.append_assoc]
  rw [beginsIn_append_iff (by decide)]
  decide

theorem startsAsCode_storageHelpers (errorCheck : Bool) :
    StartsAsCode (storageHelpers errorCheck) := by
  have errors : StartsAsCode errorClass := by
    simp [StartsAsCode, errorClass]
    and_intros <;> with_reducible exact beginsIn_ofList (by decide) _
  have slots : StartsAsCode slotClass := by
    simp [StartsAsCode, slotClass]
    and_intros <;> with_reducible exact beginsIn_ofList (by decide) _
  cases errorCheck with
  | true => exact errors.append slots
  | false => exact slots

theorem startsAsCode_interopTable (className : String) (commands : List Command) (owner : String) :
    StartsAsCode (interopTable className commands owner) := by
  have opening : StartsAsCode ["", "", "PROTOTYPES = \x7b"] := by decide
  have closing : StartsAsCode ["\x7d"] := by decide
  have table : StartsAsCode (tableClassLines className owner) := by
    simp [StartsAsCode, tableClassLines, String.append_assoc]
    and_intros <;> with_reducible exact beginsIn_ofList (by decide) _
  exact ((opening.append (.map beginsIn_prototypeEntry)).append closing).append table

theorem startsAsCode_commandNames (commands : List Command) :
    StartsAsCode (commandNames commands) := by
  have opening : StartsAsCode ["", "", "COMMANDS = ("] := by decide
  have closing : StartsAsCode [")"] := by decide
  exact (opening.append (.map beginsIn_entry)).append closing

theorem startsAsCode_versionClass (v : Version) (tableClass : String) :
    StartsAsCode (versionClass v tableClass) := by
  simp [StartsAsCode, versionClass, String.append_assoc]
  and_intros <;> with_reducible exact beginsIn_ofList (by decide) _

theorem startsAsCode_wrapper (c : Command) : StartsAsCode (wrapper c) := by
  simp [StartsAsCode, wrapper, String.append_assoc]
  and_intros <;> with_reducible exact beginsIn_ofList (by decide) _

theorem startsAsCode_loadAllFunction (errorCheck : Bool) (versionName : String) :
    StartsAsCode (loadAllFunction errorCheck versionName) := by
  refine StartsAsCode.append ?_ ?_
  · simp [StartsAsCode]
    and_intros <;> with_reducible exact beginsIn_ofList (by decide) _
  · cases errorCheck with
    | true =>
        simp [StartsAsCode, checkedLoadAll, String.append_assoc]
        and_intros <;> with_reducible exact beginsIn_ofList (by decide) _
    | false =>
        simp [StartsAsCode]
        with_reducible exact beginsIn_ofList (by decide) _

theorem startsAsCode_loadOneFunction (errorCheck : Bool) :
    StartsAsCode (loadOneFunction errorCheck) := by
  refine StartsAsCode.append ?_ ?_
  · simp [StartsAsCode]
    with_reducible exact beginsIn_ofList (by decide) _
  · cases errorCheck with
    | true =>
        simp [StartsAsCode, checkedLoadOne, String.append_assoc]
        and_intros <;> with_reducible exact beginsIn_ofList (by decide) _
    | false =>
        simp [StartsAsCode]
        and_intros <;> with_reducible exact beginsIn_ofList (by decide) _

theorem startsAsCode_apiLines (errorCheck : Bool) (v : Version) (tableClass : String) :
    StartsAsCode (apiLines errorCheck v tableClass) := by
  have wrappers : StartsAsCode (v.commands.flatMap wrapper) := by
    intro line member
    obtain ⟨c, -, inside⟩ := List.mem_flatMap.1 member
    exact startsAsCode_wrapper c line inside
  exact ((((startsAsCode_commandNames _).append (startsAsCode_versionClass _ _)).append
    wrappers).append (startsAsCode_loadAllFunction _ _)).append (startsAsCode_loadOneFunction _)

theorem startsAsCode_ownTable (g : Generator) (v : Version) : StartsAsCode (g.ownTable v) := by
  rw [Generator.ownTable]
  split
  · exact (startsAsCode_storageHelpers _).append (startsAsCode_interopTable _ _ _)
  · decide

/-! ## Imports -/

/-- What a module imports from another of its package. -/
structure Import where
  source : String
  names : List String

def Import.line (i : Import) : String :=
  "from ." ++ i.source ++ " import " ++ commaSeparated i.names

/-- The line begins as an import from the same package does. -/
def IsRelative (line : String) : Prop := "from .".toList <+: line.toList

instance (line : String) : Decidable (IsRelative line) :=
  inferInstanceAs (Decidable (_ <+: _))

/-- A file of a package: its lines, what it imports from the package, and the constants that it
defines. -/
structure PackageFile where
  lines : List String
  imports : List Import := []
  constants : List Constant := []

/-- The imports are in the file, and whatever else in it begins like an import defines one of the
constants. -/
structure ImportsExactly (file : PackageFile) : Prop where
  present : ∀ i ∈ file.imports, i.line ∈ file.lines
  only : ∀ line ∈ file.lines, IsRelative line →
    line ∈ file.imports.map Import.line ∨ ∃ c ∈ file.constants, constantLine c = .ok line

theorem not_isRelative_of_beginsIn {characters : List Char} (other : 'f' ∉ characters)
    {line : String} (begins : BeginsIn characters line) : ¬ IsRelative line := by
  rintro ⟨rest, split⟩
  apply other
  apply begins
  rw [← split]
  rfl

/-- What starts as code does is no import. -/
theorem StartsAsCode.not_isRelative {lines : List String} (starts : StartsAsCode lines) :
    ∀ line ∈ lines, ¬ IsRelative line :=
  fun line member => not_isRelative_of_beginsIn (by decide) (starts line member)

theorem not_isRelative_header (g : Generator) : ∀ line ∈ g.header, ¬ IsRelative line := by
  obtain ⟨comments, header, comment⟩ := exists_header_eq g
  intro line member
  rw [header, List.mem_append] at member
  have begins : BeginsIn ['#'] line := by
    rcases member with inside | last
    · intro c first
      rw [comment line inside] at first
      cases first
      exact List.mem_singleton_self _
    · rw [List.mem_singleton.1 last]
      decide
  exact not_isRelative_of_beginsIn (by decide) begins

theorem not_isRelative_ctypesImports (commands : List Command) (prototypes : Bool) :
    ∀ line ∈ ctypesImports commands prototypes, ¬ IsRelative line := by
  intro line member
  rw [ctypesImports] at member
  split at member
  · cases member
  · rw [List.mem_singleton.1 member, IsRelative, String.toList_append]
    rintro ⟨rest, split⟩
    have shorter : "from .".toList = ("from ctypes import ".toList).take 6 := by
      have front := congrArg (List.take 6) split
      rwa [List.take_append_of_le_length (by decide), List.take_append_of_le_length (by decide),
        List.take_of_length_le (by decide)] at front
    exact absurd shorter (by decide)

/-- An alias is named before the first blank of its line, and an import is not. -/
theorem not_isRelative_aliasLine (keyword : String) : ¬ IsRelative (aliasLine keyword) := by
  rintro ⟨rest, split⟩
  have name := aliasIn?_aliasLine keyword
  rw [aliasIn?, ← split] at name
  have other : (" = " ++ pointerCtype).toList.isPrefixOf
      (("from .".toList ++ rest).dropWhile (· != ' ')) = false := rfl
  rw [other] at name
  cases name

theorem not_isRelative_typeAliases (commands : List Command) :
    ∀ line ∈ typeAliases commands, ¬ IsRelative line := by
  intro line member
  rw [typeAliases] at member
  split at member
  · cases member
  · rcases List.mem_append.1 member with heading | declared
    · have plain : ∀ line ∈ ["", "", "# Opaque types"], ¬ IsRelative line := by decide
      exact plain line heading
    · obtain ⟨keyword, -, rfl⟩ := List.mem_map.1 declared
      exact not_isRelative_aliasLine keyword

/-! ## Imports of generated modules -/

namespace Generator

def importsOf (g : Generator) (v : Version) : List Import :=
  if g.settings.storage = .shared then
    [⟨"interop", tableClass v.family :: if g.settings.errorCheck then ["LoadError"] else []⟩]
  else []

/-- What the module of a package imports, to export it again. -/
def packageImports (g : Generator) (family : String) (versions : List Version) : List Import :=
  (g.exports family versions).map fun (file, name) => ⟨file, [name]⟩

def fileOfTable (g : Generator) (family : String) (commands : List Command) : PackageFile where
  lines := g.interopLines family commands

def fileOfVersion (g : Generator) (v : Version) (lines : List String) : PackageFile where
  lines
  imports := g.importsOf v
  constants := v.constants

def fileOfPackage (g : Generator) (family : String) (versions : List Version) : PackageFile where
  lines := g.packageLines family versions
  imports := g.packageImports family versions

theorem sharedImport_eq (errorCheck : Bool) (className : String) :
    sharedImport errorCheck className =
      Import.line ⟨"interop", className :: if errorCheck then ["LoadError"] else []⟩ := by
  have front : "from .interop import " = "from ." ++ "interop" ++ " import " := by decide
  exact congrArg (· ++ commaSeparated (className :: if errorCheck then ["LoadError"] else [])) front

/-- A version imports what it needs of a shared table, and only a constant can look as if it
imported more. -/
theorem importsExactly_fileOfVersion {g : Generator} {v : Version} {lines : List String}
    (renders : g.versionLines v = .ok lines) : ImportsExactly (g.fileOfVersion v lines) := by
  obtain ⟨definitions, defined, rfl⟩ := versionLines_eq_ok_iff.1 renders
  have shared : g.versionImports v = ctypesImports v.commands (g.settings.storage = .isolated) ++
      (if g.settings.storage = .shared then [""] else []) ++ (g.importsOf v).map Import.line := by
    rw [versionImports, importsOf]
    split
    · rw [sharedImport_eq, List.append_assoc]
      rfl
    · simp only [List.map_nil, List.append_nil]
  constructor
  · intro i member
    have inside : i.line ∈ g.versionImports v := by
      rw [shared]
      exact List.mem_append_right _ (List.mem_map_of_mem member)
    simp only [fileOfVersion, preface, List.mem_append]
    exact .inl (.inr (.inl inside))
  · intro line member relative
    simp only [fileOfVersion, preface, List.mem_append] at member
    rcases member with (header | imported | aliased | constant) | table | api
    · exact absurd relative (not_isRelative_header g line header)
    · rw [shared, List.mem_append, List.mem_append] at imported
      rcases imported with (ctypes | blank) | own
      · exact absurd relative (not_isRelative_ctypesImports _ _ line ctypes)
      · have empty : line = "" := by
          split at blank
          · exact List.mem_singleton.1 blank
          · cases blank
        rw [empty] at relative
        exact absurd relative (by decide)
      · exact .inl own
    · exact absurd relative (not_isRelative_typeAliases _ line aliased)
    · -- A constant may be named like an import; then its line is one of the definitions.
      right
      rcases constantLines_eq_ok defined with ⟨-, rfl⟩ | ⟨lines, rfl, each⟩
      · cases constant
      · rcases List.mem_append.1 constant with heading | own
        · have plain : ∀ line ∈ ["", "", "# Enums"], ¬ IsRelative line := by decide
          exact absurd relative (plain line heading)
        · obtain ⟨c, among, defines⟩ := exists_mem_of_forall₂ each own
          exact ⟨c, among, defines⟩
    · exact absurd relative ((startsAsCode_ownTable g v).not_isRelative line table)
    · exact absurd relative ((startsAsCode_apiLines _ _ _).not_isRelative line api)

theorem importsExactly_fileOfTable (g : Generator) (family : String) (commands : List Command) :
    ImportsExactly (g.fileOfTable family commands) := by
  constructor
  · simp [fileOfTable]
  · intro line member relative
    rw [fileOfTable, interopLines_eq, List.append_nil] at member
    simp only [preface, List.mem_append] at member
    rcases member with (header | imported | aliased | constant) | helpers | table
    · exact absurd relative (not_isRelative_header g line header)
    · exact absurd relative (not_isRelative_ctypesImports _ _ line imported)
    · exact absurd relative (not_isRelative_typeAliases _ line aliased)
    · cases constant
    · exact absurd relative ((startsAsCode_storageHelpers _).not_isRelative line helpers)
    · exact absurd relative ((startsAsCode_interopTable _ _ _).not_isRelative line table)

/-- A package imports what it exports again, and nothing else. -/
theorem importsExactly_fileOfPackage (g : Generator) (family : String) (versions : List Version) :
    ImportsExactly (g.fileOfPackage family versions) := by
  have imports : (g.exports family versions).map
      (fun (file, name) => "from ." ++ file ++ " import " ++ name) =
      (g.packageImports family versions).map Import.line := by
    rw [packageImports, List.map_map]
    apply List.map_congr_left
    rintro ⟨file, name⟩ -
    simp [Import.line, commaSeparated]
  rw [fileOfPackage, packageLines]
  dsimp only
  rw [imports]
  constructor
  · intro i member
    simp only [List.mem_append]
    exact .inl (.inl (.inl (.inr (List.mem_map_of_mem member))))
  · intro line member relative
    simp only [List.mem_append] at member
    rcases member with (((header | imported) | opening) | entry) | closing
    · exact absurd relative (not_isRelative_header g line header)
    · exact .inl imported
    · have plain : ∀ line ∈ ["", "__all__ = ["], ¬ IsRelative line := by decide
      exact absurd relative (plain line opening)
    · obtain ⟨exported, -, rfl⟩ := List.mem_map.1 entry
      have begins : BeginsIn codeStarts (indent ++ inQuotes exported.2 ++ ",") := by
        rw [String.append_assoc, beginsIn_append_iff (by decide)]
        decide
      exact absurd relative (not_isRelative_of_beginsIn (by decide) begins)
    · rw [List.mem_singleton.1 closing] at relative
      exact absurd relative (by decide)

end Generator

end GLBindings.Bindings
