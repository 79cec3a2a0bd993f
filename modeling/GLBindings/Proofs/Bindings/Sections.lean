/-
# Sections of generated modules

The sections of a generated module are read back from its lines: each is opened by a line that no
other part of the module can hold (`block`, `linesFrom`).  A module is laid out as its preface
(header, imports, aliases and constants), perhaps a table, and perhaps the API of a version.  Its
lines keep the sections apart by how they begin and end: a preface holds no line that opens a section
of code (`not_mem_preface`), so what it binds is read back from any module (`aliasSection_eq`,
`constantSection_eq`).
-/
import GLBindings.Bindings.Module
import GLBindings.Proofs.Bindings.Bound
import GLBindings.Proofs.Outcome

namespace GLBindings.Bindings

set_option autoImplicit false

/-! ## Reading sections back -/

/-- The lines from the first on that is one of the openings. -/
def linesFrom (openings lines : List String) : List String :=
  lines.dropWhile fun line => !openings.contains line

/-- The lines after the first that is `opening`, up to the next that is `closing`. -/
def block (opening closing : String) (lines : List String) : List String :=
  (linesFrom [opening] lines).tail.takeWhile (· != closing)

/-- The lines that open sections, and the empty line that ends some. -/
def marks : List String := [
  "", "# Opaque types", "# Enums", "class LoadError(RuntimeError):", "class FunctionSlot:",
  "PROTOTYPES = \x7b", "COMMANDS = ("]

def codeMarks : List String := [
  "class LoadError(RuntimeError):", "class FunctionSlot:", "PROTOTYPES = \x7b", "COMMANDS = ("]

/-- The lines below the header, which ends with the first empty line, and above all code. -/
def bindings (lines : List String) : List String :=
  linesFrom [""] (lines.takeWhile fun line => !codeMarks.contains line)

def aliasSection (lines : List String) : List String := block "# Opaque types" "" (bindings lines)

def constantSection (lines : List String) : List String := block "# Enums" "" (bindings lines)

/-- The classes that a table is made with, up to its prototypes. -/
def helperSection (lines : List String) : List String :=
  linesFrom ["class LoadError(RuntimeError):", "class FunctionSlot:"]
    (lines.takeWhile (· != "PROTOTYPES = \x7b"))

def prototypeSection (lines : List String) : List String := block "PROTOTYPES = \x7b" "\x7d" lines

/-- The lines of the API of a version: all that follows what it is built from. -/
def apiSection (lines : List String) : List String := linesFrom ["COMMANDS = ("] lines

def commandSection (lines : List String) : List String := block "COMMANDS = (" ")" lines

/-- Lines that open nothing are passed over. -/
theorem linesFrom_append {openings before : List String}
    (absent : ∀ opening ∈ openings, opening ∉ before) (rest : List String) :
    linesFrom openings (before ++ rest) = linesFrom openings rest := by
  apply List.dropWhile_append_of_pos
  intro line member
  have other : line ∉ openings := fun opening => absent line opening member
  simpa using other

theorem linesFrom_cons {openings : List String} {opening : String} (opens : opening ∈ openings)
    (rest : List String) : linesFrom openings (opening :: rest) = opening :: rest := by
  apply List.dropWhile_cons_of_neg
  simpa using opens

theorem linesFrom_eq_nil {openings lines : List String}
    (absent : ∀ opening ∈ openings, opening ∉ lines) : linesFrom openings lines = [] := by
  have nothing := linesFrom_append absent []
  rwa [List.append_nil] at nothing

/-- A section is what stands between its opening and the next closing line. -/
theorem block_eq {opening closing : String} {before inside : List String}
    (fresh : opening ∉ before) (closed : closing ∉ inside) (rest : List String) :
    block opening closing (before ++ opening :: (inside ++ closing :: rest)) = inside := by
  rw [block, linesFrom_append (by simpa using fresh), linesFrom_cons List.mem_cons_self,
    List.tail_cons, takeWhile_bne_append closed]

theorem block_eq_nil {opening closing : String} {lines : List String} (absent : opening ∉ lines) :
    block opening closing lines = [] := by
  rw [block, linesFrom_eq_nil (by simpa using absent)]
  rfl

/-! ## How lines begin -/

/-- The line is empty or begins with one of the characters. -/
def BeginsIn (characters : List Char) (line : String) : Prop :=
  ∀ c ∈ line.toList.head?, c ∈ characters

instance (characters : List Char) (line : String) : Decidable (BeginsIn characters line) :=
  Option.decidableForallMem line.toList.head?

theorem BeginsIn.append {characters : List Char} {front : String} (some : front ≠ "")
    (begins : BeginsIn characters front) (rest : String) :
    BeginsIn characters (front ++ rest) := by
  intro c first
  apply begins c
  rwa [String.toList_append, List.head?_append_of_ne_nil _ (by simpa using some)] at first

theorem not_mem_of_beginsIn {characters : List Char} {lines : List String} {line : String}
    (begin : ∀ line ∈ lines, BeginsIn characters line) (other : ¬ BeginsIn characters line) :
    line ∉ lines :=
  fun member => other (begin line member)

theorem beginsIn_entry (c : Command) : BeginsIn [' '] (indent ++ inQuotes c.name ++ ",") := by
  rw [String.append_assoc]
  exact BeginsIn.append (by decide) (by decide) _

theorem beginsIn_prototypeEntry (c : Command) : BeginsIn [' '] (prototypeEntry c) := by
  simp only [prototypeEntry, String.append_assoc]
  exact BeginsIn.append (by decide) (by decide) _

/-! ## Prefaces -/

theorem dropTrailingBlanks_cons {c : Char} (shown : Text.isBlank c = false) (rest : List Char) :
    Text.dropTrailingBlanks (c :: rest) = c :: Text.dropTrailingBlanks rest := by
  rw [Text.dropTrailingBlanks]
  cases Text.dropTrailingBlanks rest with
  | nil => simp [shown]
  | cons d kept => rfl

theorem head?_append {front : String} {c : Char} (begins : front.toList.head? = some c)
    (rest : String) : (front ++ rest).toList.head? = some c := by
  rw [String.toList_append, List.head?_append, begins]
  rfl

/-- A header is comments with an empty line below them. -/
theorem exists_header_eq (g : Generator) :
    ∃ comments, g.header = comments ++ [""] ∧
      ∀ line ∈ comments, line.toList.head? = some '#' := by
  refine ⟨["# AUTOGENERATED. DO NOT EDIT.", generatorLine g.generatedAt] ++
    noticeLines g.spec.notice, rfl, ?_⟩
  simp only [List.forall_mem_append, List.forall_mem_cons]
  refine ⟨⟨by decide, ?_, by simp⟩, ?_⟩
  · exact head?_append (head?_append (by decide) _) _
  · intro line member
    rw [noticeLines] at member
    split at member
    · cases member
    · rcases List.mem_cons.1 member with rfl | own
      · decide
      · obtain ⟨text, -, rfl⟩ := List.mem_map.1 own
        rw [Text.trimEnd, String.toList_ofList, String.toList_append]
        exact congrArg List.head? (dropTrailingBlanks_cons (by decide) _)

/-- Below a header reading begins with the empty line that ends it. -/
theorem linesFrom_header (g : Generator) (rest : List String) :
    linesFrom [""] (g.header ++ rest) = "" :: rest := by
  obtain ⟨comments, header, comment⟩ := exists_header_eq g
  have shown : "" ∉ comments := by
    intro member
    exact absurd (comment "" member) (by decide)
  rw [header, List.append_assoc, linesFrom_append (by simpa using shown)]
  exact linesFrom_cons List.mem_cons_self rest

theorem aliasLine_not_mem_marks (keyword : String) : aliasLine keyword ∉ marks := by
  have nameless : ∀ mark ∈ marks, aliasIn? mark = none := by decide
  intro member
  have name := nameless _ member
  rw [aliasIn?_aliasLine] at name
  cases name

/-- A number that is narrow ends in a digit. -/
theorem getLast?_of_narrow {digits : List Char} (narrow : literalWidth digits = .ok .narrow) :
    ∃ last, digits.getLast? = some last ∧ Text.isHexDigit last = true := by
  rw [literalWidth.eq_def] at narrow
  split at narrow
  · rename_i digits
    split at narrow
    · rename_i hexadecimal
      obtain ⟨-, some, each⟩ := hexadecimal
      have last := List.getLast?_eq_getLast_of_ne_nil some
      refine ⟨digits.getLast some, ?_, List.all_eq_true.1 each _ (List.getLast_mem some)⟩
      rw [List.getLast?_cons_cons, List.getLast?_cons, last]
      rfl
    · cases narrow
  · split at narrow
    · cases narrow
    · rename_i decimal
      obtain ⟨some, each⟩ := not_or.1 decimal
      have digit := List.all_eq_true.1 (by simpa using each) _ (List.getLast_mem some)
      refine ⟨digits.getLast some, List.getLast?_eq_getLast_of_ne_nil some, ?_⟩
      rw [Text.isHexDigit, digit]
      rfl

/-- A definition of a constant ends in the note on its width, or in a digit. -/
theorem getLast?_constantLine {c : Constant} {line : String} (defines : constantLine c = .ok line) :
    ∃ last, line.toList.getLast? = some last ∧ (last = 't' ∨ Text.isHexDigit last = true) := by
  rw [constantLine, bind_eq_ok_iff] at defines
  obtain ⟨width, measured, made⟩ := defines
  cases made
  cases width with
  | wide =>
      refine ⟨'t', ?_, .inl rfl⟩
      rw [if_pos rfl, String.toList_append, List.getLast?_append]
      rfl
  | narrow =>
      obtain ⟨last, ends, digit⟩ := getLast?_of_narrow measured
      refine ⟨last, ?_, .inr digit⟩
      rw [if_neg (by decide), String.append_empty, String.toList_append, List.getLast?_append, ends]
      rfl

/-- However a constant is called, its definition opens no section and ends none. -/
theorem constantLine_not_mem_marks {c : Constant} {line : String}
    (defines : constantLine c = .ok line) : line ∉ marks := by
  have other : ∀ mark ∈ marks,
      (mark.toList.getLast?.any fun last => last == 't' || Text.isHexDigit last) = false := by
    decide
  obtain ⟨last, ends, defining⟩ := getLast?_constantLine defines
  intro member
  have undefining := other line member
  rw [ends, Option.any_some, Bool.or_eq_false_iff, beq_eq_false_iff_ne] at undefining
  rcases defining with mark | digit
  · exact undefining.1 mark
  · exact Bool.false_ne_true (undefining.2.symm.trans digit)

/-- Constants are defined one a line, below a heading if there are any. -/
theorem constantLines_eq_ok {constants : List Constant} {definitions : List String}
    (defined : constantLines constants = .ok definitions) :
    (constants = [] ∧ definitions = []) ∨
      ∃ lines, definitions = ["", "", "# Enums"] ++ lines ∧
        List.Forall₂ (fun c line => constantLine c = .ok line) constants lines := by
  rw [constantLines.eq_def] at defined
  split at defined
  · cases defined
    exact .inl ⟨rfl, rfl⟩
  · right
    rw [bind_eq_ok_iff] at defined
    obtain ⟨lines, each, made⟩ := defined
    cases made
    exact ⟨lines, rfl, mapM_eq_ok_iff.1 each⟩

theorem not_mem_of_constants {constants : List Constant} {lines : List String}
    (each : List.Forall₂ (fun c line => constantLine c = .ok line) constants lines) {mark : String}
    (marks : mark ∈ marks) : mark ∉ lines := by
  intro member
  obtain ⟨c, -, defines⟩ := exists_mem_of_forall₂ each member
  exact constantLine_not_mem_marks defines marks

theorem not_mem_of_aliases {keywords : List String} {mark : String} (marks : mark ∈ marks) :
    mark ∉ keywords.map aliasLine := by
  intro member
  obtain ⟨keyword, -, rfl⟩ := List.mem_map.1 member
  exact aliasLine_not_mem_marks keyword marks

/-- What stands before the code of a module. -/
def preface (g : Generator) (imports : List String) (commands : List Command)
    (definitions : List String) : List String :=
  g.header ++ (imports ++ (typeAliases commands ++ definitions))

section

variable {g : Generator} {imports : List String} {commands : List Command}
  {constants : List Constant} {definitions : List String}

/-- A preface opens no section of code. -/
theorem not_mem_preface (imported : ∀ line ∈ imports, BeginsIn ['f'] line)
    (defined : constantLines constants = .ok definitions) {mark : String}
    (opens : mark ∈ codeMarks) : mark ∉ preface g imports commands definitions := by
  have inHeader : mark ∉ g.header := by
    obtain ⟨comments, header, comment⟩ := exists_header_eq g
    have other : ∀ mark ∈ codeMarks, mark.toList.head? ≠ some '#' ∧ mark ∉ [""] := by decide
    rw [header, List.mem_append, not_or]
    exact ⟨fun member => (other mark opens).1 (comment mark member), (other mark opens).2⟩
  have inImports : mark ∉ imports := by
    have other : ∀ mark ∈ codeMarks, ¬ BeginsIn ['f'] mark := by decide
    exact not_mem_of_beginsIn imported (other mark opens)
  have marks : ∀ mark ∈ codeMarks, mark ∈ marks ∧ mark ∉ ["", "", "# Opaque types"] ∧
      mark ∉ ["", "", "# Enums"] := by decide
  have inAliases : mark ∉ typeAliases commands := by
    rw [typeAliases]
    split
    · exact List.not_mem_nil
    · rw [List.mem_append, not_or]
      exact ⟨(marks mark opens).2.1, not_mem_of_aliases (marks mark opens).1⟩
  have inDefinitions : mark ∉ definitions := by
    rcases constantLines_eq_ok defined with ⟨-, rfl⟩ | ⟨lines, rfl, each⟩
    · exact List.not_mem_nil
    · rw [List.mem_append, not_or]
      exact ⟨(marks mark opens).2.2, not_mem_of_constants each (marks mark opens).1⟩
  simp only [preface, List.mem_append, not_or]
  exact ⟨inHeader, inImports, inAliases, inDefinitions⟩

/-- Code is set off by two empty lines. -/
def OpensCode (lines : List String) : Prop :=
  ∃ mark ∈ codeMarks, ∃ rest, lines = "" :: "" :: mark :: rest

/-- What a preface binds is read back whatever code follows it. -/
theorem bindings_preface (imported : ∀ line ∈ imports, BeginsIn ['f'] line)
    (defined : constantLines constants = .ok definitions) {code : List String}
    (opens : OpensCode code) :
    bindings (preface g imports commands definitions ++ code) =
      "" :: (imports ++ (typeAliases commands ++ (definitions ++ ["", ""]))) := by
  obtain ⟨mark, opens, rest, rfl⟩ := opens
  have above : ∀ line ∈ preface g imports commands definitions ++ ["", ""],
      (!codeMarks.contains line) = true := by
    intro line member
    have other : line ∉ codeMarks := by
      intro isMark
      rcases List.mem_append.1 member with inside | empty
      · exact not_mem_preface imported defined isMark inside
      · have apart : ∀ mark ∈ codeMarks, mark ∉ ["", ""] := by decide
        exact apart line isMark empty
    simpa using other
  have split : preface g imports commands definitions ++ "" :: "" :: mark :: rest =
      (preface g imports commands definitions ++ ["", ""]) ++ mark :: rest := by simp
  rw [bindings, split, List.takeWhile_append_of_pos above,
    List.takeWhile_cons_of_neg (by simpa using opens), List.append_nil, preface, List.append_assoc,
    linesFrom_header, List.append_assoc, List.append_assoc]

theorem aliasSection_eq (imported : ∀ line ∈ imports, BeginsIn ['f'] line)
    (defined : constantLines constants = .ok definitions) {code : List String}
    (opens : OpensCode code) :
    aliasSection (preface g imports commands definitions ++ code) =
      (aliasKeywords commands).map aliasLine := by
  have before : "# Opaque types" ∉ "" :: imports := by
    rw [List.mem_cons, not_or]
    exact ⟨by decide, not_mem_of_beginsIn imported (by decide)⟩
  rw [aliasSection, bindings_preface imported defined opens, typeAliases]
  cases needed : aliasKeywords commands with
  | nil =>
      apply block_eq_nil
      have inDefinitions : "# Opaque types" ∉ definitions := by
        rcases constantLines_eq_ok defined with ⟨-, rfl⟩ | ⟨lines, rfl, each⟩
        · exact List.not_mem_nil
        · rw [List.mem_append, not_or]
          exact ⟨by decide, not_mem_of_constants each (by decide)⟩
      rw [← List.cons_append]
      simp only [List.mem_append, not_or]
      exact ⟨before, List.not_mem_nil, inDefinitions, by decide⟩
  | cons first others =>
      -- what comes next begins with an empty line, whatever it is
      obtain ⟨rest, next⟩ : ∃ rest, definitions ++ ["", ""] = "" :: rest := by
        rcases constantLines_eq_ok defined with ⟨-, rfl⟩ | ⟨lines, rfl, -⟩
        · exact ⟨[""], rfl⟩
        · exact ⟨_, rfl⟩
      have split : "" :: (imports ++ (["", "", "# Opaque types"] ++
          (first :: others).map aliasLine ++ (definitions ++ ["", ""]))) =
          ("" :: imports ++ ["", ""]) ++ "# Opaque types" ::
            ((first :: others).map aliasLine ++ "" :: rest) := by
        rw [next]
        simp
      dsimp only
      rw [split]
      refine block_eq ?_ (not_mem_of_aliases (by decide)) rest
      rw [List.mem_append, not_or]
      exact ⟨before, by decide⟩

theorem constantSection_eq (imported : ∀ line ∈ imports, BeginsIn ['f'] line)
    (defined : constantLines constants = .ok definitions) {code : List String}
    (opens : OpensCode code) :
    List.Forall₂ (fun c line => constantLine c = .ok line) constants
      (constantSection (preface g imports commands definitions ++ code)) := by
  have before : "# Enums" ∉ "" :: (imports ++ typeAliases commands) := by
    have inAliases : "# Enums" ∉ typeAliases commands := by
      rw [typeAliases]
      split
      · exact List.not_mem_nil
      · rw [List.mem_append, not_or]
        exact ⟨by decide, not_mem_of_aliases (by decide)⟩
    rw [List.mem_cons, List.mem_append, not_or, not_or]
    exact ⟨by decide, not_mem_of_beginsIn imported (by decide), inAliases⟩
  rw [constantSection, bindings_preface imported defined opens]
  rcases constantLines_eq_ok defined with ⟨rfl, rfl⟩ | ⟨lines, rfl, each⟩
  · have absent : "# Enums" ∉ "" :: (imports ++ (typeAliases commands ++ ([] ++ ["", ""]))) := by
      rw [← List.append_assoc, ← List.cons_append, List.mem_append, not_or]
      exact ⟨before, by decide⟩
    rw [block_eq_nil absent]
    exact .nil
  · have split : "" :: (imports ++ (typeAliases commands ++
        (["", "", "# Enums"] ++ lines ++ ["", ""]))) =
        ("" :: (imports ++ typeAliases commands) ++ ["", ""]) ++ "# Enums" ::
          (lines ++ "" :: [""]) := by simp
    have fresh : "# Enums" ∉ "" :: (imports ++ typeAliases commands) ++ ["", ""] := by
      rw [List.mem_append, not_or]
      exact ⟨before, by decide⟩
    rw [split, block_eq fresh (not_mem_of_constants each (by decide))]
    exact each

end

end GLBindings.Bindings
