/-
# Generated packages link

The files of a package refer to each other: the module of the package imports all others, and that
of a version the shared table.  Where a specification can be placed and generating succeeds, whatever
a file imports is there, in a file of the same package that defines it; a module that raises the
error class has it; and a version finds every one of its commands in the table that it makes
(`links_of_generate`).
-/
import GLBindings.Proofs.Interop.FirstDeclared
import GLBindings.Proofs.Package.Imports
import GLBindings.Proofs.Package.Written

namespace GLBindings.Bindings

open Files (Path Tree)

set_option autoImplicit false

/-! ## What links -/

/-- The files of a family's package, by the names of their modules. -/
inductive Renders (g : Generator) (family : String) : String → PackageFile → Prop where
  | table (shared : g.settings.storage = .shared) :
      Renders g family "interop" (g.fileOfTable family (interopCommands g.spec.versions family))
  | version {v : Version} {lines : List String} (member : v ∈ versionsIn g.spec.versions family)
      (succeeds : g.versionLines v = .ok lines) :
      Renders g family (moduleName v.name) (g.fileOfVersion v lines)
  | package :
      Renders g family "__init__" (g.fileOfPackage family (versionsIn g.spec.versions family))

/-- The line begins the definition of a class with the name. -/
def IsClassHeader (name line : String) : Prop :=
  line = "class " ++ name ++ ":" ∨ line = "class " ++ name ++ "(RuntimeError):"

/-- Some file of the package is what the import names, and defines all that it takes from there. -/
def Resolves (g : Generator) (family : String) (i : Import) : Prop :=
  ∃ file, Renders g family i.source file ∧
    ∀ name ∈ i.names, ∃ line ∈ file.lines, IsClassHeader name line

def loaderLines (errorCheck : Bool) (v : Version) : List String :=
  loadAllFunction errorCheck v.name ++ loadOneFunction errorCheck

/-- The line is code, not documentation, and mentions the error class. -/
def MentionsError (line : String) : Prop :=
  (∀ depth text, line ≠ docLine depth text) ∧ "LoadError".toList <:+: line.toList

def Binds (imports : List Import) (name : String) : Prop := ∃ i ∈ imports, name ∈ i.names

/-- The table that the module of a version makes is its own, or the one that it imports. -/
def UsesTable (g : Generator) (family : String) (v : Version) (lines table : List String) : Prop :=
  match g.settings.storage with
  | .isolated => table = lines
  | .shared => Renders g family "interop" { lines := table } ∧
      ∃ i ∈ g.importsOf v, i.source = "interop" ∧ g.tableClassOf v ∈ i.names

structure VersionLinks (g : Generator) (family : String) (v : Version) (lines : List String) :
    Prop where
  /-- The error class is imported from a shared table, where errors are checked. -/
  imports : Binds (g.importsOf v) "LoadError" ↔
    g.settings.errorCheck = true ∧ g.settings.storage = .shared
  loaders : loaderLines g.settings.errorCheck v <:+ lines
  errors : (∃ line ∈ loaderLines g.settings.errorCheck v, MentionsError line) →
    "class LoadError(RuntimeError):" ∈ lines ∨ Binds (g.importsOf v) "LoadError"
  commands : (commandSection lines).map quotedIn = v.commands.map Command.name
  makes : interopLine (g.tableClassOf v) ∈ lines
  table : ∃ table, UsesTable g family v lines table ∧
    (∃ line ∈ table, IsClassHeader (g.tableClassOf v) line) ∧
    ∀ name ∈ (commandSection lines).map quotedIn, name ∈ (prototypeSection table).map quotedIn

/-- The files of a package are in the tree, and find what they refer to. -/
structure Linked (g : Generator) (output : Path) (family : String) (tree : Tree) : Prop where
  rendered : ∀ name ∈ g.modules family, ∃ file, Renders g family name file
  written : ∀ name file, Renders g family name file →
    tree.read (Generator.moduleFile output family name) = .ok (textOfLines file.lines).toUTF8.toList
  imports : ∀ name file, Renders g family name file →
    ImportsExactly file ∧ ∀ i ∈ file.imports, Resolves g family i
  versions : ∀ v ∈ versionsIn g.spec.versions family, ∃ lines,
    Renders g family (moduleName v.name) (g.fileOfVersion v lines) ∧ VersionLinks g family v lines

/-! ## Imports -/

def AllSucceed (g : Generator) (family : String) : Prop :=
  ∀ v ∈ versionsIn g.spec.versions family, ∃ lines, g.versionLines v = .ok lines

theorem class_mem_interopLines (g : Generator) (family : String) (commands : List Command) :
    "class " ++ tableClass family ++ ":" ∈ g.interopLines family commands := by
  rw [Generator.interopLines_eq]
  exact class_mem_table []

/-- The module of a shared table defines all that versions of the family import from it. -/
theorem resolves_importsOf {g : Generator} {v : Version} :
    ∀ i ∈ g.importsOf v, Resolves g v.family i := by
  intro i member
  rw [Generator.importsOf] at member
  split at member
  · rename_i shared
    obtain rfl := List.mem_singleton.1 member
    refine ⟨_, .table shared, ?_⟩
    intro name inside
    rcases List.mem_cons.1 inside with rfl | error
    · exact ⟨_, class_mem_interopLines g v.family _, .inl rfl⟩
    · split at error
      · rename_i checked
        obtain rfl := List.mem_singleton.1 error
        rw [Generator.fileOfTable, Generator.interopLines_eq]
        exact ⟨_, errorClass_mem_table checked [], .inr (by decide)⟩
      · cases error
  · cases member

/-- The module of a version begins the class of the version. -/
theorem class_mem_versionLines {g : Generator} {v : Version} {lines : List String}
    (succeeds : g.versionLines v = .ok lines) : "class " ++ v.name ++ ":" ∈ lines := by
  obtain ⟨front, -, rfl⟩ := Generator.exists_versionLines_eq succeeds
  simp [apiLines, versionClass]

/-- Whatever a package exports again, one of its modules defines. -/
theorem resolves_packageImports {g : Generator} {family : String} (all : AllSucceed g family) :
    ∀ i ∈ g.packageImports family (versionsIn g.spec.versions family), Resolves g family i := by
  intro i member
  rw [Generator.packageImports, Generator.exports, List.map_append, List.mem_append] at member
  rcases member with table | version
  · split at table
    · rename_i shared
      obtain rfl := List.mem_singleton.1 table
      refine ⟨_, .table shared, ?_⟩
      intro name inside
      obtain rfl := List.mem_singleton.1 inside
      exact ⟨_, class_mem_interopLines g family _, .inl rfl⟩
    · cases table
  · rw [List.map_map] at version
    obtain ⟨v, own, rfl⟩ := List.mem_map.1 version
    obtain ⟨lines, succeeds⟩ := all v own
    refine ⟨_, .version own succeeds, ?_⟩
    intro name inside
    obtain rfl := List.mem_singleton.1 inside
    exact ⟨_, class_mem_versionLines succeeds, .inl rfl⟩

/-! ## Versions -/

/-- No table goes by the name of the error class. -/
theorem tableClass_ne (owner : String) : tableClass owner ≠ "LoadError" := by
  intro same
  have last := congrArg (fun s => s.toList.getLast?) same
  have ending : "Interop".toList.getLast? = some 'p' := by decide
  simp only [tableClass, String.toList_append, List.getLast?_append, ending, Option.some_or] at last
  exact absurd last (by decide)

theorem binds_error_iff {g : Generator} {v : Version} :
    Binds (g.importsOf v) "LoadError" ↔
      g.settings.errorCheck = true ∧ g.settings.storage = .shared := by
  rw [Binds, Generator.importsOf]
  by_cases shared : g.settings.storage = .shared
  · rw [if_pos shared, and_iff_left shared]
    by_cases checked : g.settings.errorCheck = true
    · simp [checked]
    · simp [checked, (tableClass_ne v.family).symm]
  · simp [shared]

theorem not_mentionsError_docLine (depth : Nat) (text : String) :
    ¬ MentionsError (docLine depth text) :=
  fun mentions => mentions.1 depth text rfl

/-- Unless errors are checked no loader raises any. -/
theorem not_mentionsError (v : Version) : ∀ line ∈ loaderLines false v, ¬ MentionsError line := by
  simp only [loaderLines, loadAllFunction, loadOneFunction, List.forall_mem_append,
    List.forall_mem_cons, not_mentionsError_docLine, Bool.false_eq_true, if_false]
  and_intros
  all_goals first
    | exact mt And.right (by decide +kernel)
    | simp

theorem loaderLines_suffix {g : Generator} {v : Version} {lines : List String}
    (succeeds : g.versionLines v = .ok lines) :
    loaderLines g.settings.errorCheck v <:+ lines := by
  obtain ⟨front, -, rfl⟩ := Generator.exists_versionLines_eq succeeds
  refine ⟨front ++ (commandNames v.commands ++ versionClass v (g.tableClassOf v) ++
    v.commands.flatMap wrapper), ?_⟩
  simp only [apiLines, loaderLines, List.append_assoc]

theorem interopLine_mem_versionLines {g : Generator} {v : Version} {lines : List String}
    (succeeds : g.versionLines v = .ok lines) : interopLine (g.tableClassOf v) ∈ lines := by
  obtain ⟨front, -, rfl⟩ := Generator.exists_versionLines_eq succeeds
  obtain ⟨before, after, split⟩ := exists_apiLines_split g.settings.errorCheck v
  apply List.mem_append_right
  apply List.mem_of_mem_drop (i := 2)
  rw [split]
  exact List.mem_append_right _ List.mem_cons_self

/-- The table of a family has the names of all commands of its versions. -/
theorem name_mem_interopCommands {versions : List Version} {family : String} {v : Version}
    (member : v ∈ versionsIn versions family) {name : String}
    (offers : name ∈ v.commands.map Command.name) :
    name ∈ (interopCommands versions family).map Command.name := by
  obtain ⟨c, own, rfl⟩ := List.mem_map.1 offers
  have among : c ∈ offered versions family := List.mem_flatMap.2 ⟨v, member, own⟩
  obtain ⟨d, -, found, same⟩ := exists_find?_name among
  rw [← same] at found ⊢
  exact List.mem_map_of_mem (mem_interopCommands_iff.2 found)

/-- The table that a version makes has an entry for each of its commands. -/
theorem exists_usesTable {g : Generator} {v : Version} {lines : List String}
    (member : v ∈ versionsIn g.spec.versions v.family) (succeeds : g.versionLines v = .ok lines) :
    ∃ table, UsesTable g v.family v lines table ∧
      (∃ line ∈ table, IsClassHeader (g.tableClassOf v) line) ∧
      ∀ name ∈ v.commands.map Command.name, name ∈ (prototypeSection table).map quotedIn := by
  cases storage : g.settings.storage with
  | isolated =>
      refine ⟨lines, ?_, ⟨_, ?_, .inl rfl⟩, ?_⟩
      · rw [UsesTable, storage]
      · obtain ⟨front, rest, -, rfl⟩ := Generator.exists_table_of_isolated succeeds storage
        rw [Generator.tableClassOf, storage]
        exact class_mem_table rest
      · rw [Generator.prototypeSection_versionLines succeeds storage, names_of_prototypeEntries]
        exact fun name offers => offers
  | shared =>
      have owner : g.tableClassOf v = tableClass v.family := by
        rw [Generator.tableClassOf, storage]
        rfl
      refine ⟨g.interopLines v.family (interopCommands g.spec.versions v.family), ?_,
        ⟨_, class_mem_interopLines g v.family _, .inl (by rw [owner])⟩, ?_⟩
      · rw [UsesTable, storage]
        refine ⟨.table storage,
          ⟨"interop", tableClass v.family :: if g.settings.errorCheck then ["LoadError"] else []⟩,
          ?_, rfl, ?_⟩
        · rw [Generator.importsOf, if_pos storage]
          exact List.mem_singleton_self _
        · rw [owner]
          exact List.mem_cons_self
      · rw [Generator.prototypeSection_interopLines, names_of_prototypeEntries]
        exact fun name offers => name_mem_interopCommands member offers

/-- A rendered version finds what it refers to in its own module or in that of the table. -/
theorem versionLinks {g : Generator} {v : Version} {lines : List String}
    (member : v ∈ versionsIn g.spec.versions v.family) (succeeds : g.versionLines v = .ok lines) :
    VersionLinks g v.family v lines := by
  have commands : (commandSection lines).map quotedIn = v.commands.map Command.name := by
    rw [Generator.commandSection_versionLines succeeds, names_of_commandEntries]
  refine ⟨binds_error_iff, loaderLines_suffix succeeds, ?_, commands,
    interopLine_mem_versionLines succeeds, ?_⟩
  · rintro ⟨line, inside, mentions⟩
    cases checked : g.settings.errorCheck with
    | false =>
        rw [checked] at inside
        exact absurd mentions (not_mentionsError v line inside)
    | true =>
        cases storage : g.settings.storage with
        | shared => exact .inr (binds_error_iff.2 ⟨checked, storage⟩)
        | isolated =>
            left
            obtain ⟨front, rest, -, rfl⟩ := Generator.exists_table_of_isolated succeeds storage
            exact errorClass_mem_table checked rest
  · rw [commands]
    exact exists_usesTable member succeeds

/-! ## Packages -/

/-- Every module of a package has a file. -/
theorem exists_renders {g : Generator} {family : String} (all : AllSucceed g family) :
    ∀ name ∈ g.modules family, ∃ file, Renders g family name file := by
  intro name member
  rw [Generator.modules, List.mem_append, List.mem_append] at member
  rcases member with (table | version) | package
  · split at table
    · rename_i shared
      obtain rfl := List.mem_singleton.1 table
      exact ⟨_, .table shared⟩
    · cases table
  · obtain ⟨v, own, rfl⟩ := List.mem_map.1 version
    obtain ⟨lines, succeeds⟩ := all v own
    exact ⟨_, .version own succeeds⟩
  · obtain rfl := List.mem_singleton.1 package
    exact ⟨_, .package⟩

/-- Each file is written by a step of its own. -/
theorem step_of_renders {g : Generator} {output : Path} {family name : String}
    {file : PackageFile} (renders : Renders g family name file) :
    .file (Generator.moduleFile output family name) (.ok (textOfLines file.lines)) ∈
      g.fileSteps (Generator.packageFolder output family) family := by
  cases renders with
  | table shared => exact Generator.table_mem_fileSteps shared output family
  | version own succeeds =>
      obtain ⟨member, rfl⟩ := mem_versionsIn_iff.1 own
      have step := Generator.version_mem_fileSteps output member
      rwa [Generator.versionModule, succeeds] at step
  | package => exact Generator.package_mem_fileSteps g output family

theorem importsExactly_of_renders {g : Generator} {family name : String} {file : PackageFile}
    (renders : Renders g family name file) : ImportsExactly file := by
  cases renders with
  | table shared => exact g.importsExactly_fileOfTable _ _
  | version own succeeds => exact Generator.importsExactly_fileOfVersion succeeds
  | package => exact g.importsExactly_fileOfPackage _ _

theorem resolves_of_renders {g : Generator} {family name : String} {file : PackageFile}
    (all : AllSucceed g family) (renders : Renders g family name file) :
    ∀ i ∈ file.imports, Resolves g family i := by
  cases renders with
  | table shared => simp [Generator.fileOfTable]
  | version own succeeds =>
      obtain ⟨-, rfl⟩ := mem_versionsIn_iff.1 own
      exact resolves_importsOf
  | package => exact resolves_packageImports all

/-- **Where a specification can be placed and generating succeeds, every package links.** -/
theorem links_of_generate {g : Generator} (placeable : g.spec.Placeable) {tree last : Tree}
    {output : Path} (generates : takeSteps tree (g.steps output) = (last, none)) :
    ∀ family ∈ g.spec.families, Linked g output family last := by
  intro family member
  have all : AllSucceed g family := by
    intro v own
    have step : .file ((Generator.packageFolder output family).child (moduleName v.name ++ ".py"))
        (g.versionModule v) ∈ g.fileSteps (Generator.packageFolder output family) family := by
      rw [Generator.fileSteps, List.mem_append, List.mem_append]
      exact .inl (.inr (List.mem_map_of_mem own))
    obtain ⟨text, made, -⟩ := Generator.read_of_generate placeable generates member step
    obtain ⟨lines, succeeds, -⟩ := map_eq_ok_iff.1 made
    exact ⟨lines, succeeds⟩
  refine ⟨exists_renders all, ?_, ?_, ?_⟩
  · intro name file renders
    obtain ⟨text, made, holds⟩ :=
      Generator.read_of_generate placeable generates member (step_of_renders renders)
    cases made
    exact holds
  · intro name file renders
    exact ⟨importsExactly_of_renders renders, resolves_of_renders all renders⟩
  · intro v own
    obtain ⟨lines, succeeds⟩ := all v own
    obtain ⟨-, rfl⟩ := mem_versionsIn_iff.1 own
    exact ⟨lines, .version own succeeds, versionLinks own succeeds⟩

/-! ## Two families -/

namespace Sample

def finish : Command where
  name := "glFinish"
  result := { base := .void, spelling := "void" }

/-- Two versions of one family share a command, which another family has as well. -/
def linkingSpec : Spec where
  versions := [
    { family := "GL", name := "GL10", number := "1.0", commands := [finish] },
    { family := "GL", name := "GL11", number := "1.1", commands := [finish],
      constants := [{ name := "GL_ONE", value := "1" }] },
    { family := "GLES", name := "GLES10", number := "1.0", commands := [finish] }]

def linkingSteps : List Step := Generator.steps { spec := linkingSpec } { components := ["out"] }

end Sample

/-- In an empty folder every step succeeds, and both packages link. -/
theorem links_of_generate_sample :
    Sample.linkingSpec.Placeable ∧ (takeSteps {} Sample.linkingSteps).2 = none ∧
      ∀ family ∈ Sample.linkingSpec.families,
        Linked { spec := Sample.linkingSpec } { components := ["out"] } family
          (takeSteps {} Sample.linkingSteps).1 := by
  have placeable : Sample.linkingSpec.Placeable := by decide +kernel
  have generates : (takeSteps {} Sample.linkingSteps).2 = none := by decide +kernel
  exact ⟨placeable, generates,
    links_of_generate (g := { spec := Sample.linkingSpec }) placeable
      (Prod.ext rfl generates)⟩

end GLBindings.Bindings
