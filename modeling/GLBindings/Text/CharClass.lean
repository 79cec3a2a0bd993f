/-
# Character classes

The classes of characters that declarations, generated names and messages are built from: blanks,
letters, word characters and characters that can be shown.  ASCII members are given by rule and the
rest by the Unicode ranges of the table modules, so that facts about ASCII need no table.

* `isWord_of_isLetter`: every letter is a word character.
* `isBlank_eq_false_of_isIdentifierChar`: an ASCII identifier holds no blank.
-/
import GLBindings.Text.LetterTable
import GLBindings.Text.NumeralTable
import GLBindings.Text.UnprintableTable

namespace GLBindings.Text

set_option autoImplicit false

def within (ranges : List (Nat × Nat)) (c : Char) : Bool :=
  ranges.any fun r => r.1 ≤ c.toNat && c.toNat ≤ r.2

/-- Characters that separate words and are trimmed from the ends of a text. -/
def isBlank (c : Char) : Bool :=
  within [(0x9, 0xD), (0x1C, 0x20), (0x85, 0x85), (0xA0, 0xA0), (0x1680, 0x1680),
    (0x2000, 0x200A), (0x2028, 0x2029), (0x202F, 0x202F), (0x205F, 0x205F), (0x3000, 0x3000)] c

/-- Characters of general category L. -/
def isLetter (c : Char) : Bool := c.isAlpha || within letterRanges c

/-- Decimal digits of any script. -/
def isDecimal (c : Char) : Bool := c.isDigit || within decimalRanges c

/-- Letters, characters with a numeric value, and the underscore. -/
def isWord (c : Char) : Bool :=
  isLetter c || isDecimal c || within numeralRanges c || c == '_'

/-- Characters that are shown as themselves in a message. -/
def isPrintable (c : Char) : Bool := !within unprintableRanges c

/-- ASCII letters and the underscore, which begin an identifier. -/
def isIdentifierStart (c : Char) : Bool := c.isAlpha || c == '_'

/-- ASCII letters, digits and the underscore. -/
def isIdentifierChar (c : Char) : Bool := c.isAlphanum || c == '_'

def isHexDigit (c : Char) : Bool :=
  c.isDigit || ('a' ≤ c && c ≤ 'f') || ('A' ≤ c && c ≤ 'F')

theorem isWord_of_isLetter {c : Char} (h : isLetter c = true) : isWord c = true := by
  simp [isWord, h]

theorem isWord_of_isIdentifierChar {c : Char} (h : isIdentifierChar c = true) :
    isWord c = true := by
  simp only [isIdentifierChar, Char.isAlphanum, Bool.or_eq_true] at h
  simp only [isWord, isLetter, isDecimal, Bool.or_eq_true]
  rcases h with (h | h) | h
  · exact .inl (.inl (.inl (.inl h)))
  · exact .inl (.inl (.inr (.inl h)))
  · exact .inr h

theorem isDigit_iff {c : Char} : c.isDigit = true ↔ 0x30 ≤ c.toNat ∧ c.toNat ≤ 0x39 := by
  simp [Char.isDigit, UInt32.le_iff_toNat_le]

theorem isHexDigit_iff {c : Char} : isHexDigit c = true ↔
    (0x30 ≤ c.toNat ∧ c.toNat ≤ 0x39) ∨ (0x61 ≤ c.toNat ∧ c.toNat ≤ 0x66) ∨
      (0x41 ≤ c.toNat ∧ c.toNat ≤ 0x46) := by
  simp [isHexDigit, isDigit_iff, Char.le_def, UInt32.le_iff_toNat_le, or_assoc]

theorem toNat_of_isAlpha {c : Char} (h : c.isAlpha = true) : 0x41 ≤ c.toNat ∧ c.toNat ≤ 0x7A := by
  have code : c.toNat = c.val.toNat := rfl
  have cases : (decide (c.val ≥ 'A'.val ∧ c.val ≤ 'Z'.val) ||
      (decide (c.val ≥ 'a'.val) && decide (c.val ≤ 'z'.val))) = true := h
  simp only [Bool.or_eq_true, Bool.and_eq_true, decide_eq_true_eq, ge_iff_le,
    UInt32.le_iff_toNat_le] at cases
  rcases cases with upper | lower
  · simp at upper
    omega
  · simp at lower
    omega

theorem toNat_of_isIdentifierChar {c : Char} (h : isIdentifierChar c = true) :
    0x30 ≤ c.toNat ∧ c.toNat ≤ 0x7A := by
  simp only [isIdentifierChar, Char.isAlphanum, Bool.or_eq_true, beq_iff_eq] at h
  rcases h with (letter | digit) | underscore
  · have bounds := toNat_of_isAlpha letter
    omega
  · have bounds := isDigit_iff.1 digit
    omega
  · subst underscore
    decide

theorem isBlank_eq_false_of_isIdentifierChar {c : Char} (h : isIdentifierChar c = true) :
    isBlank c = false := by
  have := toNat_of_isIdentifierChar h
  simp only [isBlank, within, List.any_cons, List.any_nil, Bool.or_false, Bool.or_eq_false_iff,
    Bool.and_eq_false_iff, decide_eq_false_iff_not]
  omega

end GLBindings.Text
