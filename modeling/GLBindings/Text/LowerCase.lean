/-
# Lower case

Lower-casing by the Unicode mapping.  Two characters do not follow the plain character-by-character
rule: the capital I with a dot becomes two characters, and a capital sigma takes its final form at
the end of a word, that is after a cased character and before none, ignorable characters passed over.
-/
import GLBindings.Text.CharClass
import GLBindings.Text.CaseTable

namespace GLBindings.Text

set_option autoImplicit false

/-- The lower-case form of a character above U+007F that has a single one. -/
def lowerBeyondAscii (c : Char) : Char :=
  match lowerRuns.find? fun (first, last, step, _) =>
      first ≤ c.toNat && c.toNat ≤ last && (c.toNat - first) % step == 0 with
  | some (_, _, _, shift) => Char.ofNat (c.toNat + shift).toNat
  | none => c

/-- The next character that is not ignorable, if there is one, is cased. -/
def meetsCased (cs : List Char) : Bool :=
  match cs.find? fun c => !within caseIgnorableRanges c with
  | some c => within casedRanges c
  | none => false

/-- The lower-case form of `c`, given the characters before it, nearest first, and after it. -/
def lowerChar (before : List Char) (c : Char) (after : List Char) : List Char :=
  if c.toNat < 0x80 then [c.toLower]
  else if c = '\u0130' then ['i', '\u0307']
  else if c = '\u03A3' then [if meetsCased before && !meetsCased after then '\u03C2' else '\u03C3']
  else [lowerBeyondAscii c]

/-- Lower-cases a text that stands after `before`. -/
def lowerAfter : List Char → List Char → List Char
  | _, [] => []
  | before, c :: rest => lowerChar before c rest ++ lowerAfter (c :: before) rest

def lower (s : String) : String := String.ofList (lowerAfter [] s.toList)

end GLBindings.Text
