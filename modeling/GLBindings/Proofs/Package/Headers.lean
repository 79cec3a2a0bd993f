/-
# What stands at the head of files

A notice comes as it is written, with any breaks in it, and becomes comments all the same: each of
its lines becomes one comment (`noticeLines_spec`), and no line of a header holds a break
(`unbroken_of_mem_header`).  Whatever module is rendered, its text goes on from its header
(`IsModule.exists_body`), so cutting the text at line feeds gives the header back
(`physicalLines_textOfLines`), and of the files that generating leaves behind each was there before
or is such a text (`file_of_takeSteps`).  So a notice never comes to stand in code
(`notice_in_comments`).
-/
import GLBindings.Proofs.Bindings.Layout
import GLBindings.Proofs.Package.Written
import GLBindings.Proofs.Text.Lines

namespace GLBindings.Bindings

open Files (Path Tree Location)
open Text (IsTrimmed Ruled Unbroken physicalLines unbroken_append_iff unbroken_of_isWord)

set_option autoImplicit false

/-! ## Times -/

theorem unbroken_toString (n : Nat) : Unbroken (toString n).toList := by
  apply unbroken_of_isWord
  intro c member
  rw [Nat.toString_eq_repr, Nat.toList_repr] at member
  have digit : c.isDigit = true := Nat.isDigit_of_mem_toDigits (by decide) (by decide) member
  simp [Text.isWord, Text.isDecimal, digit]

theorem unbroken_twoDigits (n : Nat) : Unbroken (twoDigits n).toList := by
  rw [twoDigits]
  split
  · rw [String.toList_append, unbroken_append_iff]
    exact ⟨by decide, unbroken_toString n⟩
  · exact unbroken_toString n

theorem unbroken_stamp (moment : Moment) : Unbroken moment.stamp.toList := by
  have marks : Unbroken "-".toList ∧ Unbroken " ".toList ∧ Unbroken ":".toList := by decide
  simp only [Moment.stamp, String.toList_append, unbroken_append_iff, unbroken_toString,
    unbroken_twoDigits, marks, and_self]

theorem unbroken_generatorLine (generatedAt : Option Moment) :
    Unbroken (generatorLine generatedAt).toList := by
  unfold generatorLine
  simp only [String.toList_append, unbroken_append_iff]
  refine ⟨by decide, ?_⟩
  cases generatedAt with
  | none => decide
  | some moment =>
      simp only [String.toList_append, unbroken_append_iff]
      exact ⟨⟨by decide, unbroken_stamp moment⟩, by decide⟩

/-! ## Notices -/

def noticeHeading (notice : String) : List String :=
  if notice = "" then [] else ["# Original copyright from gl.xml:"]

/-- The line is a comment with the text, which holds no break. -/
def IsComment (text : List Char) (line : String) : Prop :=
  Unbroken text ∧ IsTrimmed ('#' :: ' ' :: text) line.toList

theorem IsComment.unbroken {text : List Char} {line : String} (comment : IsComment text line) :
    Unbroken line.toList := by
  obtain ⟨whole, blanks, split, -, -⟩ := comment
  have all : Unbroken ("# ".toList ++ text) := unbroken_append_iff.2 ⟨by decide, whole⟩
  have parts : "# ".toList ++ text = line.toList ++ blanks := split
  rw [parts, unbroken_append_iff] at all
  exact all.1

/-- Below its heading each line of a notice is a comment. -/
theorem noticeLines_spec (notice : String) : ∃ texts comments,
    (∀ found, Ruled notice.toList found ↔ texts = found) ∧
    List.Forall₂ IsComment texts comments ∧
    noticeLines notice = noticeHeading notice ++ comments := by
  refine ⟨_, (Text.lines notice).map fun line => Text.trimEnd ("# " ++ line),
    fun _ => Text.ruled_iff, ?_, ?_⟩
  · rw [Text.lines, List.map_map, List.forall₂_map_right_iff, List.forall₂_same]
    intro text member
    refine ⟨Text.not_isLineBreak_of_mem_splitLines member, ?_⟩
    have trimmed := Text.isTrimmed_iff.2 (rfl : Text.trimEnd ("# " ++ String.ofList text) = _)
    have written : ("# " ++ String.ofList text).toList = '#' :: ' ' :: text := by simp
    rwa [written] at trimmed
  · rw [noticeLines, noticeHeading]
    split
    · rename_i none
      rw [none]
      rfl
    · rfl

/-- Whatever the notice holds, no line of the header is broken. -/
theorem unbroken_of_mem_header (g : Generator) : ∀ line ∈ g.header, Unbroken line.toList := by
  obtain ⟨texts, comments, -, each, lines⟩ := noticeLines_spec g.spec.notice
  have heading : ∀ line ∈ noticeHeading g.spec.notice, Unbroken line.toList := by
    rw [noticeHeading]
    split <;> decide
  rw [Generator.header, fileHeader, lines]
  simp only [List.forall_mem_append, List.forall_mem_cons]
  refine ⟨⟨⟨by decide, unbroken_generatorLine g.generatedAt, by simp⟩, heading, ?_⟩, by decide,
    by simp⟩
  intro line member
  obtain ⟨text, -, comment⟩ := exists_mem_of_forall₂ each member
  exact comment.unbroken

/-! ## Texts -/

/-- The text of a file is its lines with a line feed after each. -/
theorem textOfLines_eq_join {lines : List String} (some : lines ≠ []) :
    textOfLines lines = String.join (lines.map (· ++ "\n")) := by
  induction lines with
  | nil => exact absurd rfl some
  | cons first others ih =>
      rw [List.map_cons, String.join_cons]
      by_cases last : others = []
      · subst last
        simp [textOfLines]
      · rw [← ih last, textOfLines, textOfLines, String.intercalate_cons_of_ne_nil last,
          String.append_assoc]

/-- Lines at the front of a text that hold no line feed are read back. -/
theorem physicalLines_join {front : List String} (whole : ∀ line ∈ front, '\n' ∉ line.toList)
    (rest : String) : physicalLines (String.join (front.map (· ++ "\n")) ++ rest) =
      front ++ physicalLines rest := by
  induction front with
  | nil => rw [List.map_nil, String.join_nil, String.empty_append, List.nil_append]
  | cons line others ih =>
      rw [List.forall_mem_cons] at whole
      rw [List.map_cons, String.join_cons, String.append_assoc, Text.physicalLines_append whole.1,
        ih whole.2, List.cons_append]

/-- Whole lines at the front of a file are read back whatever follows. -/
theorem physicalLines_textOfLines {front : List String} (some : front ≠ [])
    (whole : ∀ line ∈ front, '\n' ∉ line.toList) (rest : List String) :
    physicalLines (textOfLines (front ++ rest)) =
      front ++ physicalLines (String.join (rest.map (· ++ "\n"))) := by
  have nonempty : front ++ rest ≠ [] := List.append_ne_nil_of_left_ne_nil some rest
  rw [textOfLines_eq_join nonempty, List.map_append, String.join_append, physicalLines_join whole]

namespace Generator

/-! ## Modules -/

def redated (g : Generator) (generatedAt : Option Moment) : Generator := { g with generatedAt }

/-- What follows the header in the module of a version, or why there is no module, is the same at
all times. -/
theorem exists_versionBody (g : Generator) (v : Version) :
    ∃ body : Except LiteralError (List String), ∀ generatedAt,
      (g.redated generatedAt).versionLines v =
        body.map (fileHeader g.spec.notice generatedAt ++ ·) := by
  cases defined : constantLines v.constants with
  | error failure =>
      refine ⟨.error failure, ?_⟩
      intro generatedAt
      rw [versionLines, defined]
      rfl
  | ok definitions =>
      refine ⟨.ok ((g.versionImports v ++ (typeAliases v.commands ++ definitions)) ++
        (g.ownTable v ++ apiLines g.settings.errorCheck v (g.tableClassOf v))), ?_⟩
      intro generatedAt
      refine versionLines_eq_ok_iff.2 ⟨definitions, defined, ?_⟩
      rw [preface]
      exact (List.append_assoc _ _ _).symm

/-- Below its header a table does not depend on the time. -/
theorem exists_interopBody (g : Generator) (family : String) (commands : List Command) :
    ∃ body, ∀ generatedAt, (g.redated generatedAt).interopLines family commands =
      fileHeader g.spec.notice generatedAt ++ body := by
  refine ⟨ctypesImports commands true ++ typeAliases commands ++
    storageHelpers g.settings.errorCheck ++
    interopTable (tableClass family) commands ("every " ++ family ++ " version"), ?_⟩
  intro generatedAt
  simp only [interopLines, List.append_assoc]
  rfl

theorem exists_packageBody (g : Generator) (family : String) (versions : List Version) :
    ∃ body, ∀ generatedAt, (g.redated generatedAt).packageLines family versions =
      fileHeader g.spec.notice generatedAt ++ body := by
  let exported := g.exports family versions
  refine ⟨exported.map (fun e => "from ." ++ e.1 ++ " import " ++ e.2) ++ ["", "__all__ = ["] ++
    exported.map (fun e => indent ++ inQuotes e.2 ++ ",") ++ ["]"], ?_⟩
  intro generatedAt
  simp only [packageLines, List.append_assoc]
  rfl

/-- The text is what some module is rendered as. -/
inductive IsModule (g : Generator) (text : String) : Prop where
  | version (v : Version) (made : g.versionModule v = .ok text)
  | table (family : String) (commands : List Command)
      (made : g.interopModule family commands = text)
  | package (family : String) (versions : List Version)
      (made : g.packageModule family versions = text)

/-- Every module begins with the header. -/
theorem IsModule.exists_body {g : Generator} {text : String} (isModule : g.IsModule text) :
    ∃ body, text = textOfLines (g.header ++ body) := by
  cases isModule with
  | version v made =>
      obtain ⟨body, lines⟩ := g.exists_versionBody v
      obtain ⟨_, rendered, rfl⟩ := map_eq_ok_iff.1 made
      obtain ⟨body, -, rfl⟩ := map_eq_ok_iff.1 ((lines g.generatedAt).symm.trans rendered)
      exact ⟨body, rfl⟩
  | table family commands made =>
      obtain ⟨body, lines⟩ := g.exists_interopBody family commands
      exact ⟨body, made.symm.trans (congrArg textOfLines (lines g.generatedAt))⟩
  | package family versions made =>
      obtain ⟨body, lines⟩ := g.exists_packageBody family versions
      exact ⟨body, made.symm.trans (congrArg textOfLines (lines g.generatedAt))⟩

/-- Every file that is written holds some module. -/
theorem isModule_of_mem_steps {g : Generator} {output path : Path} {text : String}
    (step : .file path (.ok text) ∈ g.steps output) : g.IsModule text := by
  rw [steps, List.mem_flatMap] at step
  obtain ⟨family, -, inside⟩ := step
  rw [List.mem_cons, or_iff_right (by simp), fileSteps, List.mem_append, List.mem_append] at inside
  rcases inside with (table | version) | package
  · split at table
    · have made := (Step.file.inj (List.mem_singleton.1 table)).2
      exact .table _ _ (Except.ok.inj made).symm
    · cases table
  · obtain ⟨v, -, same⟩ := List.mem_map.1 version
    exact .version v (Step.file.inj same).2
  · have made := (Step.file.inj (List.mem_singleton.1 package)).2
    exact .package _ _ (Except.ok.inj made).symm

end Generator

/-! ## Files -/

/-- A file that is there after a step was there before, or the step has written it. -/
theorem file_of_take {tree next : Tree} {step : Step} {failure : Option Failure}
    (taken : step.take tree = (next, failure)) {location : Location} {bytes : List UInt8}
    (there : next.entry? location = some (.file bytes)) :
    tree.entry? location = some (.file bytes) ∨
      ∃ path text, step = .file path (.ok text) ∧ bytes = text.toUTF8.toList := by
  cases step with
  | folder path =>
      have gains := Files.Tree.gains_ensureFolders tree path location
      have made : (tree.ensureFolders path).1 = next := congrArg Prod.fst taken
      rw [made] at gains
      exact .inl ((gains.file_iff List.not_mem_nil bytes).1 there)
  | file path text =>
      cases text with
      | error error =>
          cases taken
          exact .inl there
      | ok text =>
          rw [Step.take] at taken
          split at taken
          · rename_i written writes
            cases taken
            obtain ⟨place, -, noFolder, rfl⟩ := Files.Tree.write_eq_ok writes
            by_cases same : location = place
            · rw [same, Files.Tree.entry?_set_self (Files.Tree.isAbove_eq_false noFolder)] at there
              cases there
              exact .inr ⟨path, text, rfl, rfl⟩
            · rw [Files.Tree.entry?_set_of_ne same] at there
              exact .inl there
          · cases taken
            exact .inl there

/-- A file that is there after steps was there before or has the text of one of them, also where
they fail. -/
theorem file_of_takeSteps {tree last : Tree} {steps : List Step} {failure : Option Failure}
    (taken : takeSteps tree steps = (last, failure)) {location : Location} {bytes : List UInt8}
    (there : last.entry? location = some (.file bytes)) :
    tree.entry? location = some (.file bytes) ∨
      ∃ path text, .file path (.ok text) ∈ steps ∧ bytes = text.toUTF8.toList := by
  induction steps generalizing tree with
  | nil =>
      cases taken
      exact .inl there
  | cons step rest ih =>
      rw [takeSteps] at taken
      have before : ∀ {next failed}, step.take tree = (next, failed) →
          next.entry? location = some (.file bytes) →
          tree.entry? location = some (.file bytes) ∨
            ∃ path text, .file path (.ok text) ∈ step :: rest ∧ bytes = text.toUTF8.toList := by
        intro next failed first found
        rcases file_of_take first found with old | ⟨path, text, rfl, same⟩
        · exact .inl old
        · exact .inr ⟨path, text, List.mem_cons_self, same⟩
      split at taken
      · rename_i next first
        rcases ih taken with found | ⟨path, text, member, same⟩
        · exact before first found
        · exact .inr ⟨path, text, List.mem_cons_of_mem _ member, same⟩
      · rename_i first
        cases taken
        exact before first there

/-! ## Notices in files -/

/-- Cut at line feeds the text begins with the header, and what stands before the first empty line
is the header up to its end. -/
def OpensWith (header : List String) (text : String) : Prop :=
  (∃ body, physicalLines text = header ++ body) ∧
    (physicalLines text).takeWhile (· != "") = header.dropLast

theorem opensWith_header (g : Generator) (body : List String) :
    OpensWith g.header (textOfLines (g.header ++ body)) := by
  obtain ⟨comments, header, comment⟩ := exists_header_eq g
  have some : g.header ≠ [] := by simp [header]
  have whole : ∀ line ∈ g.header, '\n' ∉ line.toList :=
    fun line member => (unbroken_of_mem_header g line member).not_mem_feed
  have shown : "" ∉ comments := by
    intro member
    exact absurd (comment "" member) (by decide)
  have lines := physicalLines_textOfLines some whole body
  refine ⟨⟨_, lines⟩, ?_⟩
  rw [lines, header, List.append_assoc, List.singleton_append, takeWhile_bne_append shown,
    List.dropLast_concat]

/-- The notice is kept to comments in the header, and the header to the front of files. -/
structure NoticeInComments (g : Generator) : Prop where
  unbroken : ∀ line ∈ g.header, Unbroken line.toList
  comments : ∀ line ∈ g.header.dropLast, line.toList.head? = some '#'
  ends : g.header.getLast? = some ""
  /-- Each line of the notice is there, and nothing else is below the fixed lines; what its lines
  are does not depend on how they are found. -/
  faithful : ∃ texts comments, (∀ found, Ruled g.spec.notice.toList found ↔ texts = found) ∧
    List.Forall₂ IsComment texts comments ∧
    g.header = ["# AUTOGENERATED. DO NOT EDIT.", generatorLine g.generatedAt] ++
      noticeHeading g.spec.notice ++ comments ++ [""]
  /-- Whatever modules are rendered for. -/
  modules : ∀ text, g.IsModule text → OpensWith g.header text
  /-- Whatever files are there before, and whether or not all steps succeed. -/
  files : ∀ tree output location bytes,
    Tree.entry? (takeSteps tree (g.steps output)).1 location = some (.file bytes) →
      tree.entry? location = some (.file bytes) ∨
        ∃ text, bytes = text.toUTF8.toList ∧ OpensWith g.header text

/-- **A notice never becomes code.**  Its lines are comments, all of them and no others, and in
every file they stand before the first empty line. -/
theorem notice_in_comments (g : Generator) : NoticeInComments g := by
  obtain ⟨front, header, comment⟩ := exists_header_eq g
  have modules : ∀ text, g.IsModule text → OpensWith g.header text := by
    intro text isModule
    obtain ⟨body, rfl⟩ := isModule.exists_body
    exact opensWith_header g body
  refine ⟨unbroken_of_mem_header g, ?_, ?_, ?_, modules, ?_⟩
  · rwa [header, List.dropLast_concat]
  · rw [header, List.getLast?_concat]
  · obtain ⟨texts, comments, ruled, each, lines⟩ := noticeLines_spec g.spec.notice
    refine ⟨texts, comments, ruled, each, ?_⟩
    rw [Generator.header, fileHeader, lines, List.append_assoc _ _ comments]
  · intro tree output location bytes there
    rcases file_of_takeSteps rfl there with old | ⟨path, text, member, same⟩
    · exact .inl old
    · exact .inr ⟨text, same, modules text (Generator.isModule_of_mem_steps member)⟩

/-- Breaks of any kind, and blanks before them, are nothing but ends of comments. -/
example : noticeLines "import os \rimport sys\x0b\r\n" =
    ["# Original copyright from gl.xml:", "# import os", "# import sys", "#"] := by
  decide +kernel

end GLBindings.Bindings
