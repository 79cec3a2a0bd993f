/-
# Alias names are names

An alias name consists of word characters and is no reserved word, whatever it is made from, so
there is nothing left to replace in it: it is its own alias name (`aliasName_aliasName`).  The
spelling of a type that has been read consists of words with blanks between them; its first word
begins with a letter or an underscore (`begins_of_spelledInWords`), and so does the alias name.  No
line break stands in it, so the line that declares its alias is one line (`assigns_aliasLine`).
-/
import GLBindings.Proofs.Bindings.Bound
import GLBindings.Proofs.Bindings.Names
import GLBindings.Proofs.Declaration.WellFormed
import GLBindings.Proofs.Text.Lines

namespace GLBindings

open Text (Unbroken unbroken_append_iff unbroken_of_isWord)

set_option autoImplicit false

/-! ## Spellings -/

/-- The text begins as a name does. -/
def BeginsAsName (text : String) : Prop :=
  ∃ c rest, text.toList = c :: rest ∧ (Text.isLetter c = true ∨ c = '_')

theorem BeginsAsName.ne_empty {text : String} (begins : BeginsAsName text) : text ≠ "" := by
  obtain ⟨c, rest, split, -⟩ := begins
  rintro rfl
  cases split

theorem BeginsAsName.append {text : String} (begins : BeginsAsName text) (more : String) :
    BeginsAsName (text ++ more) := by
  obtain ⟨c, rest, split, first⟩ := begins
  exact ⟨c, rest ++ more.toList, by rw [String.toList_append, split, List.cons_append], first⟩

/-- Every word of type text can begin a name. -/
theorem Declaration.Token.IsLexeme.begins {w : String} (lexeme : (Token.word w).IsLexeme) :
    BeginsAsName w := by
  rcases lexeme with ⟨star, -⟩ | ⟨const, -⟩ | ⟨-, ⟨identifier, -⟩ | ⟨c, letter, isLetter, -⟩⟩
  · cases star
  · cases const
  · rw [isIdentifier, Bool.and_eq_true, Option.any_eq_true] at identifier
    obtain ⟨⟨c, first, start⟩, -⟩ := identifier
    obtain ⟨rest, split⟩ := List.head?_eq_some_iff.1 first
    refine ⟨c, rest, split, ?_⟩
    rw [Text.isIdentifierStart, Bool.or_eq_true, beq_iff_eq] at start
    rcases start with alpha | underscore
    · exact .inl (by simp [Text.isLetter, alpha])
    · exact .inr underscore
  · obtain rfl : w = String.singleton c := letter
    exact ⟨c, [], by simp, .inl isLetter⟩

namespace TypeRef.SpelledInWords

variable {t : TypeRef}

theorem begins (spelled : t.SpelledInWords) : BeginsAsName t.spelling := by
  obtain ⟨words, some, spelling, lexemes⟩ := spelled
  rw [spelling]
  cases words with
  | nil => exact absurd rfl some
  | cons first others =>
      have begins := (lexemes first List.mem_cons_self).begins
      cases others with
      | nil => rwa [String.intercalate_singleton]
      | cons second others =>
          rw [String.intercalate_cons_cons]
          exact (begins.append _).append _

theorem unbroken (spelled : t.SpelledInWords) : Unbroken t.spelling.toList := by
  obtain ⟨words, -, spelling, lexemes⟩ := spelled
  intro c member
  rw [← Bool.not_eq_true]
  intro ends
  have apart : c ∉ " ".toList := by
    intro blank
    rw [List.mem_singleton.1 blank] at ends
    exact absurd ends (by decide)
  rw [spelling, String.toList_intercalate] at member
  refine not_mem_intercalate apart ?_ member
  rw [List.forall_mem_map]
  intro w inside letter
  have word := (lexemes w inside).isWord.2 c letter
  exact absurd (Text.isLineBreak_of_isWord word) (by simp [ends])

end TypeRef.SpelledInWords

/-- The type is what a text or a declaration is read as. -/
def TypeRef.IsRead (t : TypeRef) : Prop :=
  (∃ text verbatim, Declaration.parseType text verbatim = .ok t) ∨
    ∃ e name, Declaration.parse e = .ok (t, name)

/-- Whatever a type has been read from, words of the type language spell it. -/
theorem TypeRef.IsRead.spelledInWords {t : TypeRef} (isRead : t.IsRead) : t.SpelledInWords := by
  rcases isRead with ⟨text, verbatim, read⟩ | ⟨e, name, read⟩
  · exact Declaration.spelledInWords_of_parseType read
  · exact Declaration.spelledInWords_of_parse read

namespace Bindings

/-! ## Names -/

/-- In a text of word characters there is nothing to join. -/
theorem joinRuns_of_isWord {cs : List Char} (inside : ∀ c ∈ cs, Text.isWord c = true)
    (inRun : Bool) : joinRuns inRun cs = cs := by
  by_cases none : cs = []
  · rw [none, joinRuns]
  · have joined := joinRuns_append none inside inRun []
    rwa [List.append_nil, joinRuns, List.append_nil] at joined

/-- In a keyword of word characters there is nothing to join, and at most an underscore to add. -/
theorem aliasName_of_isWord {name : String} (inside : ∀ c ∈ name.toList, Text.isWord c = true) :
    aliasName name = unreserved name := by
  rw [aliasName, joinRuns_of_isWord inside, String.ofList_toList]

/-- An alias name is its own alias name. -/
theorem aliasName_aliasName (keyword : String) :
    aliasName (aliasName keyword) = aliasName keyword := by
  rw [aliasName_of_isWord (isWord_of_mem_aliasName keyword), unreserved,
    if_neg (aliasName_not_mem_reservedWords keyword)]

theorem begins_unreserved {name : String} (begins : BeginsAsName name) :
    BeginsAsName (unreserved name) := by
  rw [unreserved]
  split
  · exact begins.append "_"
  · exact begins

/-- What begins as a name does has an alias name that begins so. -/
theorem begins_aliasName {keyword : String} (begins : BeginsAsName keyword) :
    BeginsAsName (aliasName keyword) := by
  obtain ⟨c, rest, split, first⟩ := begins
  have word : Text.isWord c = true := by
    rcases first with letter | rfl
    · exact Text.isWord_of_isLetter letter
    · exact Text.isWord_of_isIdentifierChar (by decide)
  apply begins_unreserved
  refine ⟨c, joinRuns false rest, ?_, first⟩
  rw [String.toList_ofList, split, joinRuns, if_pos word]

/-! ## Lines -/

/-- The line is a line of its own and binds the name to the class of pointers; at most a comment
follows. -/
structure Assigns (name line : String) : Prop where
  unbroken : Unbroken line.toList
  alone : Text.lines line = [line]
  written : ∃ note, line = name ++ " = " ++ pointerCtype ++ note ∧
    (note = "" ∨ ∃ text, note = "  # " ++ text)
  /-- The name is read back from the line. -/
  target : aliasIn? line = some name

/-- The alias of a keyword without breaks is declared in one line. -/
theorem assigns_aliasLine {keyword : String} (unbroken : Unbroken keyword.toList) :
    Assigns (aliasName keyword) (aliasLine keyword) := by
  have name : Unbroken (aliasName keyword).toList :=
    unbroken_of_isWord (isWord_of_mem_aliasName keyword)
  have whole : Unbroken (aliasLine keyword).toList := by
    rw [aliasLine_eq, aliasValue]
    simp only [String.toList_append, unbroken_append_iff]
    refine ⟨name, ⟨by decide, by decide⟩, ?_⟩
    split
    · decide
    · rw [String.toList_append, unbroken_append_iff]
      exact ⟨by decide, unbroken⟩
  have some : aliasLine keyword ≠ "" := by
    obtain ⟨rest, line⟩ := aliasLine_toList keyword
    intro none
    rw [none] at line
    simp at line
  refine ⟨whole, Text.lines_of_unbroken some whole, ⟨_, rfl, ?_⟩, aliasIn?_aliasLine keyword⟩
  split
  · exact .inl rfl
  · exact .inr ⟨keyword, rfl⟩

/-- An alias is declared for a type by its spelling. -/
theorem exists_spelling_of_mem_aliasKeywords {commands : List Command} {keyword : String}
    (needed : keyword ∈ aliasKeywords commands) :
    ∃ t ∈ mentionedTypes commands, keyword = t.spelling := by
  obtain ⟨named, unknown⟩ := mem_aliasKeywords_iff.1 needed
  obtain ⟨t, inside, rfl⟩ := List.mem_map.1 named
  obtain ⟨member, unrecognized⟩ := List.mem_filter.1 inside
  refine ⟨t, member, ?_⟩
  rw [ctype] at unknown ⊢
  split
  · rw [beq_iff_eq.1 unrecognized]
    rfl
  · rename_i pointer
    rw [if_neg pointer] at unknown
    exact absurd (by decide) unknown

/-- The aliases of types that have been read stand on a line each. -/
theorem unbroken_typeAliases {commands : List Command}
    (read : ∀ t ∈ mentionedTypes commands, t.IsRead) :
    ∀ line ∈ typeAliases commands, Unbroken line.toList := by
  have each : ∀ line ∈ (aliasKeywords commands).map aliasLine, Unbroken line.toList := by
    rw [List.forall_mem_map]
    intro keyword needed
    obtain ⟨t, member, rfl⟩ := exists_spelling_of_mem_aliasKeywords needed
    exact (assigns_aliasLine (read t member).spelledInWords.unbroken).unbroken
  rw [typeAliases]
  split
  · simp
  · rw [List.forall_mem_append]
    exact ⟨by decide, each⟩

/-- **Alias names are legal and stable.**  Those of types that have been read begin as names do, and
each is bound in one line. -/
theorem alias_names_legal :
    (∀ keyword, aliasName (aliasName keyword) = aliasName keyword ∧
      (∀ c ∈ (aliasName keyword).toList, Text.isWord c = true) ∧
      aliasName keyword ∉ reservedWords) ∧
    (∀ t : TypeRef, t.IsRead → aliasName t.spelling ≠ "" ∧ BeginsAsName (aliasName t.spelling) ∧
      ∀ commands, aliasLine t.spelling ∈ typeAliases commands →
        Assigns (aliasName t.spelling) (aliasLine t.spelling)) ∧
    ∀ commands, (∀ t ∈ mentionedTypes commands, t.IsRead) →
      ∀ line ∈ typeAliases commands, Unbroken line.toList := by
  refine ⟨?_, ?_, fun commands read => unbroken_typeAliases read⟩
  · intro keyword
    exact ⟨aliasName_aliasName keyword, isWord_of_mem_aliasName keyword,
      aliasName_not_mem_reservedWords keyword⟩
  · intro t isRead
    have spelled := isRead.spelledInWords
    have begins := begins_aliasName spelled.begins
    exact ⟨begins.ne_empty, begins, fun _ _ => assigns_aliasLine spelled.unbroken⟩

end Bindings

namespace Sample

/-- A type spelled in two words, the first of which is one letter beyond ASCII. -/
def accented : TypeRef where
  base := .unrecognized
  spelling := "\u00e9 clair"

theorem isRead_accented : accented.IsRead :=
  .inl ⟨"\u00e9clair", none, by decide +kernel⟩

def accentedCommand : Command where
  name := "glAccented"
  result := accented

end Sample

open Bindings in
/-- A blank where the text has none, and an underscore for it in the name. -/
theorem alias_names_legal_sample :
    Sample.accented.IsRead ∧
      aliasLine Sample.accented.spelling ∈ typeAliases [Sample.accentedCommand] ∧
      aliasName Sample.accented.spelling = "\u00e9_clair" ∧
      aliasName "\u00e9_clair" = "\u00e9_clair" ∧
      Assigns "\u00e9_clair" "\u00e9_clair = c_void_p  # \u00e9 clair" := by
  have name : aliasName Sample.accented.spelling = "\u00e9_clair" := by decide +kernel
  have line : aliasLine Sample.accented.spelling = "\u00e9_clair = c_void_p  # \u00e9 clair" := by
    decide +kernel
  have declared : aliasLine Sample.accented.spelling ∈ typeAliases [Sample.accentedCommand] := by
    rw [aliasLine_mem_typeAliases_iff, mem_aliasKeywords_iff]
    decide
  obtain ⟨all, read, -⟩ := alias_names_legal
  have stable := (all Sample.accented.spelling).1
  have assigns := (read _ Sample.isRead_accented).2.2 _ declared
  rw [name] at stable
  rw [name, line] at assigns
  exact ⟨Sample.isRead_accented, declared, name, stable, assigns⟩

end GLBindings
