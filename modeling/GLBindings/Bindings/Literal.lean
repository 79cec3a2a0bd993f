/-
# Widths of constants

A constant is 64 bits wide unless its value is written as an unsigned number that fits in 32: `0x`
with at most eight hexadecimal digits, or decimal digits for a number below 2 to the 32nd.  Decimal
numbers of more than 4300 digits are beyond what can be read.
-/
import GLBindings.Text.CharClass

namespace GLBindings.Bindings

set_option autoImplicit false

inductive Width where
  | narrow
  | wide
  deriving DecidableEq

/-- A decimal number with more digits than can be read. -/
inductive LiteralError where
  | tooManyDigits
  deriving DecidableEq

/-- The most digits a decimal number can be read with. -/
def maxDecimalDigits : Nat := 4300

def decimalNumber (digits : List Char) : Nat :=
  digits.foldl (fun n c => n * 10 + (c.toNat - '0'.toNat)) 0

/-- The width of the constant whose value is written so. -/
def literalWidth : List Char → Except LiteralError Width
  | '0' :: 'x' :: digits =>
      if digits.length ≤ 8 ∧ digits ≠ [] ∧ digits.all Text.isHexDigit then .ok .narrow
      else .ok .wide
  | digits =>
      if digits = [] ∨ !digits.all Char.isDigit then .ok .wide
      else if maxDecimalDigits < digits.length then .error .tooManyDigits
      else if decimalNumber digits < 0x100000000 then .ok .narrow
      else .ok .wide

end GLBindings.Bindings
