/-
# Layout of generated modules

A table is its helpers, its prototypes and its class; a version is the tuple of its commands, its
class and the loaders.  A module is a preface and one of the two, or both
(`versionLines_eq_ok_iff`, `interopLines_eq`), so each of its sections is read back whole:
`helperSection`, `prototypeSection`, `apiSection`, `commandSection`.  Entries of prototypes and of
commands hold a name between quotation marks, which is read back as well (`quotedIn`).
-/
import GLBindings.Proofs.Bindings.Names
import GLBindings.Proofs.Bindings.Sections
import GLBindings.Proofs.Text.Listing

namespace GLBindings.Bindings

set_option autoImplicit false

/-! ## Tables -/

section

variable {front : List String} {errorCheck : Bool} {className owner : String}
  {commands : List Command}

/-- A table begins where its prototypes do, below its helpers. -/
theorem exists_table_eq (errorCheck : Bool) (className owner : String) (commands : List Command)
    (fresh : ∀ mark ∈ codeMarks, mark ∉ front) (rest : List String) :
    "PROTOTYPES = \x7b" ∉ front ++ (storageHelpers errorCheck ++ ["", ""]) ∧
      ∃ more, front ++ (storageHelpers errorCheck ++
          (interopTable className commands owner ++ rest)) =
        (front ++ (storageHelpers errorCheck ++ ["", ""])) ++ "PROTOTYPES = \x7b" ::
          (commands.map prototypeEntry ++ "\x7d" :: more) := by
  constructor
  · rw [List.mem_append, not_or]
    refine ⟨fresh _ (by decide), ?_⟩
    cases errorCheck <;> decide
  · refine ⟨tableClassLines className owner ++ rest, ?_⟩
    simp [interopTable, prototypeTable]

/-- The helpers are there, and after them two empty lines. -/
theorem helperSection_eq (fresh : ∀ mark ∈ codeMarks, mark ∉ front) (rest : List String) :
    helperSection
        (front ++ (storageHelpers errorCheck ++ (interopTable className commands owner ++ rest))) =
      (storageHelpers errorCheck).drop 2 ++ ["", ""] := by
  obtain ⟨absent, more, split⟩ := exists_table_eq errorCheck className owner commands fresh rest
  rw [helperSection, split, takeWhile_bne_append absent, linesFrom_append]
  · cases errorCheck <;> decide
  · intro opening member
    apply fresh
    revert opening
    decide

/-- The entries of a table are read back wherever the table stands, if no section of code is opened
before it. -/
theorem prototypeSection_eq (fresh : ∀ mark ∈ codeMarks, mark ∉ front) (rest : List String) :
    prototypeSection
        (front ++ (storageHelpers errorCheck ++ (interopTable className commands owner ++ rest))) =
      commands.map prototypeEntry := by
  obtain ⟨absent, more, split⟩ := exists_table_eq errorCheck className owner commands fresh rest
  have closed : "\x7d" ∉ commands.map prototypeEntry := by
    intro member
    obtain ⟨c, -, same⟩ := List.mem_map.1 member
    have begins := beginsIn_prototypeEntry c
    rw [same] at begins
    exact absurd begins (by decide)
  rw [prototypeSection, split, block_eq absent closed]

theorem opensCode_table (rest : List String) :
    OpensCode (storageHelpers errorCheck ++ (interopTable className commands owner ++ rest)) := by
  cases errorCheck with
  | true => exact ⟨"class LoadError(RuntimeError):", by decide, _, rfl⟩
  | false => exact ⟨"class FunctionSlot:", by decide, _, rfl⟩

/-- A table holds no commands of a version. -/
theorem not_mem_table :
    "COMMANDS = (" ∉ storageHelpers errorCheck ++ interopTable className commands owner := by
  have inHelpers : "COMMANDS = (" ∉ storageHelpers errorCheck := by
    cases errorCheck <;> decide
  have inEntries : "COMMANDS = (" ∉ commands.map prototypeEntry := by
    intro member
    obtain ⟨c, -, same⟩ := List.mem_map.1 member
    have begins := beginsIn_prototypeEntry c
    rw [same] at begins
    exact absurd begins (by decide)
  have inClass : "COMMANDS = (" ∉ tableClassLines className owner := by
    have begin : ∀ line ∈ tableClassLines className owner, BeginsIn [' ', 'c'] line := by
      simp only [tableClassLines, docLine, List.forall_mem_cons, String.append_assoc]
      simp [BeginsIn, String.toList_append, String.join, indent]
    exact not_mem_of_beginsIn begin (by decide)
  simp only [interopTable, prototypeTable, List.mem_append, not_or]
  exact ⟨inHelpers, ⟨⟨by decide, inEntries⟩, by decide⟩, inClass⟩

/-- The class of a table stands in the table. -/
theorem class_mem_table (rest : List String) :
    "class " ++ className ++ ":" ∈ front ++
      (storageHelpers errorCheck ++ (interopTable className commands owner ++ rest)) := by
  simp [interopTable, tableClassLines]

/-- So does the class of its errors, where they are checked. -/
theorem errorClass_mem_table (checked : errorCheck = true) (rest : List String) :
    "class LoadError(RuntimeError):" ∈ front ++
      (storageHelpers errorCheck ++ (interopTable className commands owner ++ rest)) := by
  have inHelpers : "class LoadError(RuntimeError):" ∈ storageHelpers true := by
    simp [storageHelpers, errorClass]
  rw [checked]
  simp only [List.mem_append]
  exact .inr (.inl inHelpers)

end

/-! ## Versions -/

def commandEntry (c : Command) : String := indent ++ inQuotes c.name ++ ","

/-- The line that makes a table of the class, unless one is passed in. -/
def interopLine (className : String) : String :=
  "        self.interop = " ++ className ++ "() if interop is None else interop"

/-- The lines of a version's module from its commands on. -/
def apiLines (errorCheck : Bool) (v : Version) (tableClass : String) : List String :=
  commandNames v.commands ++ versionClass v tableClass ++ v.commands.flatMap wrapper ++
    loadAllFunction errorCheck v.name ++ loadOneFunction errorCheck

theorem exists_apiLines_eq (errorCheck : Bool) (v : Version) (tableClass : String) :
    ∃ rest, apiLines errorCheck v tableClass =
      ["", ""] ++ "COMMANDS = (" :: (v.commands.map commandEntry ++ ")" :: rest) := by
  refine ⟨versionClass v tableClass ++ v.commands.flatMap wrapper ++
    loadAllFunction errorCheck v.name ++ loadOneFunction errorCheck, ?_⟩
  simp [apiLines, commandNames, commandEntry]

/-- The lines of an API differ with the class of the table in one line. -/
theorem exists_apiLines_split (errorCheck : Bool) (v : Version) :
    ∃ before after, ∀ className, (apiLines errorCheck v className).drop 2 =
      before ++ interopLine className :: after := by
  refine ⟨(commandNames v.commands).drop 2 ++ (versionClass v "").take 7,
    (versionClass v "").drop 8 ++ v.commands.flatMap wrapper ++
      loadAllFunction errorCheck v.name ++ loadOneFunction errorCheck, ?_⟩
  intro className
  have table : versionClass v className =
      (versionClass v "").take 7 ++ interopLine className :: (versionClass v "").drop 8 := rfl
  have commands : (apiLines errorCheck v className).drop 2 = (commandNames v.commands).drop 2 ++
      (versionClass v className ++ v.commands.flatMap wrapper ++
        loadAllFunction errorCheck v.name ++ loadOneFunction errorCheck) := by
    simp [apiLines, commandNames]
  rw [commands, table]
  simp

section

variable {front : List String} {errorCheck : Bool} {v : Version} {tableClass : String}

theorem apiSection_eq (fresh : "COMMANDS = (" ∉ front) :
    apiSection (front ++ apiLines errorCheck v tableClass) =
      (apiLines errorCheck v tableClass).drop 2 := by
  obtain ⟨rest, lines⟩ := exists_apiLines_eq errorCheck v tableClass
  rw [apiSection, linesFrom_append (by simpa using fresh), lines,
    linesFrom_append (by decide), linesFrom_cons List.mem_cons_self]
  rfl

theorem commandSection_eq (fresh : "COMMANDS = (" ∉ front) :
    commandSection (front ++ apiLines errorCheck v tableClass) = v.commands.map commandEntry := by
  obtain ⟨rest, lines⟩ := exists_apiLines_eq errorCheck v tableClass
  have absent : "COMMANDS = (" ∉ front ++ ["", ""] := by
    rw [List.mem_append, not_or]
    exact ⟨fresh, by decide⟩
  have closed : ")" ∉ v.commands.map commandEntry := by
    intro member
    obtain ⟨c, -, same⟩ := List.mem_map.1 member
    have begins := beginsIn_entry c
    rw [← commandEntry, same] at begins
    exact absurd begins (by decide)
  rw [commandSection, lines, ← List.append_assoc, block_eq absent closed]

end

/-! ## Names in entries -/

/-- What stands in a line between its first quotation mark and its last. -/
def quotedIn (line : String) : String :=
  let fromName := (line.toList.dropWhile (· != '"')).tail
  String.ofList (fromName.reverse.dropWhile (· != '"')).tail.reverse

/-- A name between quotation marks is read back, even if it holds some itself. -/
theorem quotedIn_eq {before after : String} (opens : '"' ∉ before.toList)
    (closes : '"' ∉ after.toList) (name : String) :
    quotedIn (before ++ inQuotes name ++ after) = name := by
  have written : (before ++ inQuotes name ++ after).toList =
      before.toList ++ '"' :: (name.toList ++ '"' :: after.toList) := by
    simp [inQuotes, String.toList_append]
  exact (enclosedIn_eq written opens closes).trans String.ofList_toList

theorem quotedIn_commandEntry (c : Command) : quotedIn (commandEntry c) = c.name :=
  quotedIn_eq (by decide) (by decide) c.name

theorem quotedIn_prototypeEntry (c : Command) : quotedIn (prototypeEntry c) = c.name := by
  have shape : prototypeEntry c = indent ++ inQuotes c.name ++ (": " ++ prototype c ++ ",") := by
    simp only [prototypeEntry, String.append_assoc]
  have types : '"' ∉ (", ".intercalate (c.types.map ctypeName)).toList := by
    rw [String.toList_intercalate]
    refine not_mem_intercalate (by decide) ?_
    simp only [List.forall_mem_map]
    intro t _
    exact not_mem_ctypeName (by decide) t
  have after : '"' ∉ (": " ++ prototype c ++ ",").toList := by
    simp only [prototype, String.toList_append, List.mem_append, not_or]
    exact ⟨⟨by decide, ⟨by decide, types⟩, by decide⟩, by decide⟩
  rw [shape, quotedIn_eq (by decide) after]

theorem names_of_commandEntries (commands : List Command) :
    (commands.map commandEntry).map quotedIn = commands.map Command.name := by
  rw [List.map_map]
  exact List.map_congr_left fun c _ => quotedIn_commandEntry c

theorem names_of_prototypeEntries (commands : List Command) :
    (commands.map prototypeEntry).map quotedIn = commands.map Command.name := by
  rw [List.map_map]
  exact List.map_congr_left fun c _ => quotedIn_prototypeEntry c

/-- Where no name comes twice, no entry does. -/
theorem nodup_prototypeEntries {commands : List Command}
    (distinct : (commands.map Command.name).Nodup) : (commands.map prototypeEntry).Nodup := by
  apply List.Nodup.of_map quotedIn
  rwa [names_of_prototypeEntries]

/-- There is one way to define constants. -/
theorem eq_of_constantLines {constants : List Constant} {lines lines' : List String}
    (each : List.Forall₂ (fun c line => constantLine c = .ok line) constants lines)
    (each' : List.Forall₂ (fun c line => constantLine c = .ok line) constants lines') :
    lines = lines' :=
  Except.ok.inj ((mapM_eq_ok_iff.2 each).symm.trans (mapM_eq_ok_iff.2 each'))

/-! ## Modules -/

theorem ctypesImports_begin (commands : List Command) (prototypes : Bool) :
    ∀ line ∈ ctypesImports commands prototypes, BeginsIn ['f'] line := by
  rw [ctypesImports]
  split
  · simp
  · intro line member
    rw [List.mem_singleton.1 member]
    exact BeginsIn.append (by decide) (by decide) _

namespace Generator

def versionImports (g : Generator) (v : Version) : List String :=
  ctypesImports v.commands (g.settings.storage = .isolated) ++
    if g.settings.storage = .shared then
      ["", sharedImport g.settings.errorCheck (tableClass v.family)]
    else []

/-- The table that a version has to itself, if it has. -/
def ownTable (g : Generator) (v : Version) : List String :=
  if g.settings.storage = .isolated then
    storageHelpers g.settings.errorCheck ++ interopTable (tableClass v.name) v.commands v.name
  else []

def tableClassOf (g : Generator) (v : Version) : String :=
  tableClass (tableOwner g.settings.storage v)

/-- The module of a version is its preface, its own table if it has one, and its API. -/
theorem versionLines_eq_ok_iff {g : Generator} {v : Version} {lines : List String} :
    g.versionLines v = .ok lines ↔ ∃ definitions, constantLines v.constants = .ok definitions ∧
      lines = preface g (g.versionImports v) v.commands definitions ++
        (g.ownTable v ++ apiLines g.settings.errorCheck v (g.tableClassOf v)) := by
  have layout : ∀ definitions,
      g.header ++ ctypesImports v.commands (g.settings.storage = .isolated) ++
        (if g.settings.storage = .shared then
          ["", sharedImport g.settings.errorCheck (tableClass (tableOwner g.settings.storage v))]
        else []) ++
        typeAliases v.commands ++ definitions ++
        (if g.settings.storage = .isolated then
          storageHelpers g.settings.errorCheck ++
            interopTable (tableClass (tableOwner g.settings.storage v)) v.commands
              (tableOwner g.settings.storage v)
        else []) ++
        commandNames v.commands ++
        versionClass v (tableClass (tableOwner g.settings.storage v)) ++
        v.commands.flatMap wrapper ++
        loadAllFunction g.settings.errorCheck v.name ++ loadOneFunction g.settings.errorCheck =
      preface g (g.versionImports v) v.commands definitions ++
        (g.ownTable v ++ apiLines g.settings.errorCheck v (g.tableClassOf v)) := by
    intro definitions
    cases storage : g.settings.storage <;>
      simp [preface, versionImports, ownTable, tableClassOf, apiLines, tableOwner, storage]
  rw [versionLines, bind_eq_ok_iff]
  constructor
  · rintro ⟨definitions, defined, made⟩
    cases made
    exact ⟨definitions, defined, layout definitions⟩
  · rintro ⟨definitions, defined, rfl⟩
    exact ⟨definitions, defined, congrArg Except.ok (layout definitions)⟩

theorem versionImports_begin (g : Generator) (v : Version) :
    ∀ line ∈ g.versionImports v, BeginsIn ['f'] line := by
  rw [versionImports, List.forall_mem_append]
  constructor
  · exact ctypesImports_begin _ _
  · split
    · simp only [List.forall_mem_cons]
      refine ⟨by decide, BeginsIn.append (by decide) (by decide) _, by simp⟩
    · simp

/-- What follows the constants of a version is set off from them by two empty lines. -/
theorem opensCode (g : Generator) (v : Version) :
    OpensCode (g.ownTable v ++ apiLines g.settings.errorCheck v (g.tableClassOf v)) := by
  rw [ownTable]
  split
  · rw [List.append_assoc]
    exact opensCode_table _
  · obtain ⟨rest, lines⟩ := exists_apiLines_eq g.settings.errorCheck v (g.tableClassOf v)
    exact ⟨"COMMANDS = (", by decide, _, lines⟩

section

variable {g : Generator} {v : Version} {lines : List String}
  (renders : g.versionLines v = .ok lines)

include renders

theorem aliasSection_versionLines :
    aliasSection lines = (aliasKeywords v.commands).map aliasLine := by
  obtain ⟨definitions, defined, rfl⟩ := versionLines_eq_ok_iff.1 renders
  exact aliasSection_eq (g.versionImports_begin v) defined (g.opensCode v)

/-- The lines of the section define the version's constants, one each. -/
theorem constantSection_versionLines :
    List.Forall₂ (fun c line => constantLine c = .ok line) v.constants (constantSection lines) := by
  obtain ⟨definitions, defined, rfl⟩ := versionLines_eq_ok_iff.1 renders
  exact constantSection_eq (g.versionImports_begin v) defined (g.opensCode v)

/-- The commands of a version's module stand at the start of its API. -/
theorem exists_versionLines_eq : ∃ front, "COMMANDS = (" ∉ front ∧
    lines = front ++ apiLines g.settings.errorCheck v (g.tableClassOf v) := by
  obtain ⟨definitions, defined, rfl⟩ := versionLines_eq_ok_iff.1 renders
  refine ⟨preface g (g.versionImports v) v.commands definitions ++ g.ownTable v, ?_,
    (List.append_assoc _ _ _).symm⟩
  have inTable : "COMMANDS = (" ∉ g.ownTable v := by
    rw [ownTable]
    split
    · exact not_mem_table
    · exact List.not_mem_nil
  rw [List.mem_append, not_or]
  exact ⟨not_mem_preface (g.versionImports_begin v) defined (by decide), inTable⟩

theorem apiSection_versionLines :
    apiSection lines = (apiLines g.settings.errorCheck v (g.tableClassOf v)).drop 2 := by
  obtain ⟨front, fresh, rfl⟩ := exists_versionLines_eq renders
  exact apiSection_eq fresh

theorem commandSection_versionLines : commandSection lines = v.commands.map commandEntry := by
  obtain ⟨front, fresh, rfl⟩ := exists_versionLines_eq renders
  exact commandSection_eq fresh

/-- A version that shares no table has one in its own module. -/
theorem exists_table_of_isolated (isolated : g.settings.storage = .isolated) :
    ∃ front rest, (∀ mark ∈ codeMarks, mark ∉ front) ∧
      lines = front ++ (storageHelpers g.settings.errorCheck ++
        (interopTable (tableClass v.name) v.commands v.name ++ rest)) := by
  obtain ⟨definitions, defined, rfl⟩ := versionLines_eq_ok_iff.1 renders
  refine ⟨preface g (g.versionImports v) v.commands definitions,
    apiLines g.settings.errorCheck v (g.tableClassOf v), ?_, ?_⟩
  · intro mark opens
    exact not_mem_preface (g.versionImports_begin v) defined opens
  · rw [ownTable, if_pos isolated, List.append_assoc]

theorem prototypeSection_versionLines (isolated : g.settings.storage = .isolated) :
    prototypeSection lines = v.commands.map prototypeEntry := by
  obtain ⟨front, rest, fresh, rfl⟩ := exists_table_of_isolated renders isolated
  exact prototypeSection_eq fresh rest

theorem helperSection_versionLines (isolated : g.settings.storage = .isolated) :
    helperSection lines = (storageHelpers g.settings.errorCheck).drop 2 ++ ["", ""] := by
  obtain ⟨front, rest, fresh, rfl⟩ := exists_table_of_isolated renders isolated
  exact helperSection_eq fresh rest

end

/-- The module of a shared table is its preface and the table. -/
theorem interopLines_eq (g : Generator) (family : String) (commands : List Command) :
    g.interopLines family commands = preface g (ctypesImports commands true) commands [] ++
      (storageHelpers g.settings.errorCheck ++
        (interopTable (tableClass family) commands ("every " ++ family ++ " version") ++ [])) := by
  simp [interopLines, preface]

theorem not_mem_interopPreface (g : Generator) (commands : List Command) :
    ∀ mark ∈ codeMarks, mark ∉ preface g (ctypesImports commands true) commands [] := by
  intro mark opens
  have none : constantLines [] = .ok [] := rfl
  exact not_mem_preface (ctypesImports_begin _ _) none opens

theorem prototypeSection_interopLines (g : Generator) (family : String) (commands : List Command) :
    prototypeSection (g.interopLines family commands) = commands.map prototypeEntry := by
  rw [interopLines_eq]
  exact prototypeSection_eq (g.not_mem_interopPreface commands) []

theorem helperSection_interopLines (g : Generator) (family : String) (commands : List Command) :
    helperSection (g.interopLines family commands) =
      (storageHelpers g.settings.errorCheck).drop 2 ++ ["", ""] := by
  rw [interopLines_eq]
  exact helperSection_eq (g.not_mem_interopPreface commands) []

end Generator

end GLBindings.Bindings
