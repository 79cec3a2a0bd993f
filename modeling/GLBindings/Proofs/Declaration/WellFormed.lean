/-
# Well-formed declarations

Whatever text a declaration is read from, a name and a type come out of it that later stages can
rely on: the name is not empty, words spell the type (`spelledInWords_of_parse`), and void stands
for no value only where there is no star (`wellFormed_of_parse`).
-/
import GLBindings.Proofs.Declaration.Arrangement
import GLBindings.Proofs.Declaration.Lexing
import GLBindings.Proofs.Text.Listing

namespace GLBindings

set_option autoImplicit false

/-- The type is spelled by something, and is no pointer to void but an address. -/
structure TypeRef.WellFormed (t : TypeRef) : Prop where
  spelled : t.spelling ≠ ""
  pointee : ¬ (t.base = .void ∧ t.shape ≠ .plain)

/-- Words of the type language spell the type, with blanks between them. -/
def TypeRef.SpelledInWords (t : TypeRef) : Prop :=
  ∃ words : List String, words ≠ [] ∧ t.spelling = " ".intercalate words ∧
    ∀ w ∈ words, (Declaration.Token.word w).IsLexeme

namespace Declaration

open Xml (Element)

/-! ## Spelling -/

/-- A word that is a token holds something, and nothing but word characters. -/
theorem Token.IsLexeme.isWord {w : String} (lexeme : (Token.word w).IsLexeme) :
    w ≠ "" ∧ ∀ c ∈ w.toList, Text.isWord c = true := by
  rcases lexeme with ⟨star, -⟩ | ⟨const, -⟩ | ⟨-, ⟨identifier, -⟩ | ⟨c, letter, isLetter, -⟩⟩
  · cases star
  · cases const
  · rw [isIdentifier, Bool.and_eq_true, List.all_eq_true] at identifier
    refine ⟨?_, fun c member => Text.isWord_of_isIdentifierChar (identifier.2 c member)⟩
    rintro rfl
    exact absurd identifier.1 (by decide)
  · obtain rfl : w = String.singleton c := letter
    refine ⟨?_, ?_⟩
    · intro none
      have := congrArg String.toList none
      simp at this
    · simpa using Text.isWord_of_isLetter isLetter

/-- The words of a type text are tokens of it. -/
theorem lexemes_of_outlineOf {text : String} {outline : Outline}
    (taken : outlineOf text = .ok outline) :
    outline.words ≠ [] ∧ ∀ w ∈ outline.words, (Token.word w).IsLexeme := by
  obtain ⟨tokens, lexed, apart⟩ := outlineOf_eq_ok_iff.1 taken
  rw [tokensOf, mapError_eq_ok_iff] at lexed
  obtain ⟨rfl, based, -⟩ := Outline.of_eq_ok_iff.1 apart
  refine ⟨based, ?_⟩
  intro w member
  apply (lexed_of_tokenize lexed).lexemes
  rw [Outline.tokens]
  exact List.mem_append_right _ (List.mem_append_left _ (List.mem_map_of_mem member))

/-- However the spelling is given, it is made of words. -/
theorem spelledInWords_of_parseType {text : String} {verbatim : Option String} {t : TypeRef}
    (read : parseType text verbatim = .ok t) : t.SpelledInWords := by
  cases verbatim with
  | none =>
      simp only [parseType, bind_eq_ok_iff] at read
      obtain ⟨outline, taken, shape, -, _, spells, made⟩ := read
      cases spells
      cases made
      obtain ⟨some, lexemes⟩ := lexemes_of_outlineOf taken
      exact ⟨outline.words, some, rfl, lexemes⟩
  | some verbatim =>
      simp only [parseType, bind_eq_ok_iff, map_eq_ok_iff] at read
      obtain ⟨outline, -, shape, -, _, ⟨written, taken, rfl⟩, made⟩ := read
      cases made
      obtain ⟨some, lexemes⟩ := lexemes_of_outlineOf taken
      exact ⟨written.words, some, rfl, lexemes⟩

/-! ## Well-formed types -/

/-- A pointer never has `void` for its base. -/
theorem pointeeBase_ne_void (base : BaseType) (shape : PointerShape) :
    ¬ (pointeeBase base shape = .void ∧ shape ≠ .plain) := by
  rintro ⟨void, pointer⟩
  rw [pointeeBase] at void
  split at void
  · cases void
  · rename_i other
    exact other ⟨void, pointer⟩

theorem pointee_of_parseType {text : String} {verbatim : Option String} {t : TypeRef}
    (read : parseType text verbatim = .ok t) : ¬ (t.base = .void ∧ t.shape ≠ .plain) := by
  simp only [parseType, bind_eq_ok_iff] at read
  obtain ⟨outline, -, shape, -, made⟩ := read
  cases verbatim with
  | none =>
      cases made
      exact pointeeBase_ne_void _ _
  | some verbatim =>
      obtain ⟨spelling, -, made⟩ := bind_eq_ok_iff.1 made
      cases made
      exact pointeeBase_ne_void _ _

theorem wellFormed_of_parseType {text : String} {verbatim : Option String} {t : TypeRef}
    (read : parseType text verbatim = .ok t) : t.WellFormed where
  spelled := by
    obtain ⟨words, some, spelling, lexemes⟩ := spelledInWords_of_parseType read
    rw [spelling]
    exact intercalate_ne_empty some fun w member => (lexemes w member).isWord.1
  pointee := pointee_of_parseType read

/-- A declaration that is taken apart has a name. -/
theorem name_ne_empty_of_split {e : Element} {parts : Parts} (apart : split e = .ok parts) :
    parts.name ≠ "" := by
  rw [split] at apart
  split at apart
  · cases apart
  · rename_i name nonempty
    cases apart
    exact nonempty

theorem declaredName_of_split {e : Element} {parts : Parts} (apart : split e = .ok parts) :
    declaredName e = some parts.name := by
  have nonempty := name_ne_empty_of_split apart
  rw [split] at apart
  split at apart
  · cases apart
  · rename_i written
    cases apart
    cases declared : declaredName e with
    | none => exact absurd (by simp [declared]) nonempty
    | some name => rfl

theorem spelledInWords_of_parse {e : Element} {t : TypeRef} {name : String}
    (read : parse e = .ok (t, name)) : t.SpelledInWords := by
  simp only [parse, bind_eq_ok_iff] at read
  obtain ⟨parts, -, type, described, made⟩ := read
  cases made
  exact spelledInWords_of_parseType described

/-- **What a declaration declares has a name and a well-formed type.** -/
theorem wellFormed_of_parse {e : Element} {t : TypeRef} {name : String}
    (read : parse e = .ok (t, name)) : t.WellFormed ∧ name ≠ "" := by
  simp only [parse, bind_eq_ok_iff] at read
  obtain ⟨parts, apart, type, described, made⟩ := read
  cases made
  exact ⟨wellFormed_of_parseType described, name_ne_empty_of_split apart⟩

end Declaration

end GLBindings
