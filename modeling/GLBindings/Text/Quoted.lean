/-
# Quoted text

The form in which a message shows a text: between quotes, with everything that could not be told
apart in print written as an escape.  Single quotes are used unless the text holds a single quote
and no double quote.
-/
import GLBindings.Text.CharClass

namespace GLBindings.Text

set_option autoImplicit false

/-- A lower-case hexadecimal number with at least `width` digits. -/
def hexText (width n : Nat) : List Char :=
  let digits := Nat.toDigits 16 n
  List.replicate (width - digits.length) '0' ++ digits

def escapeChar (quoteMark c : Char) : List Char :=
  if c = quoteMark ∨ c = '\\' then ['\\', c]
  else if c = '\t' then ['\\', 't']
  else if c = '\n' then ['\\', 'n']
  else if c = '\r' then ['\\', 'r']
  else if isPrintable c then [c]
  else if c.toNat < 0x100 then '\\' :: 'x' :: hexText 2 c.toNat
  else if c.toNat < 0x10000 then '\\' :: 'u' :: hexText 4 c.toNat
  else '\\' :: 'U' :: hexText 8 c.toNat

/-- Double quotes serve only where they save escaping a single quote. -/
def quoteMarkFor (cs : List Char) : Char :=
  if '\'' ∈ cs ∧ '"' ∉ cs then '"' else '\''

/-- The text as a message shows it. -/
def quoted (s : String) : String :=
  let mark := quoteMarkFor s.toList
  String.ofList (mark :: s.toList.flatMap (escapeChar mark) ++ [mark])

end GLBindings.Text
