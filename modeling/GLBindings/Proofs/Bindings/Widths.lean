/-
# Widths in both notations

The digits of a value denote a number in their base (`numberOf?`).  A decimal value is weighed by
its number, a hexadecimal one by its length alone; so leading zeros make a hexadecimal value wide,
and a decimal one at last too long to be read.  Without leading zeros the notation makes no
difference, because eight hexadecimal digits hold exactly what 32 bits hold.

* `literalWidth_hex`, `literalWidth_decimal`, `literalWidth_other`: the three kinds of value.
* `literalWidth_exact`: what is refused, what is narrow, and that both notations of a number agree.
-/
import GLBindings.Bindings.Literal
import GLBindings.Proofs.Text.LowerCase
import Mathlib.Data.List.Induction
import Mathlib.Data.Nat.Digits.Defs

namespace GLBindings.Bindings

open Text (isHexDigit isDigit_iff isHexDigit_iff)

set_option autoImplicit false

/-! ## Digits -/

def digitValue (c : Char) : Nat :=
  if c.toNat ≤ '9'.toNat then c.toNat - '0'.toNat
  else if c.toNat ≤ 'F'.toNat then c.toNat - 'A'.toNat + 10
  else c.toNat - 'a'.toNat + 10

theorem digitValue_eq (c : Char) : digitValue c =
    if c.toNat ≤ 0x39 then c.toNat - 0x30
    else if c.toNat ≤ 0x46 then c.toNat - 0x41 + 10 else c.toNat - 0x61 + 10 :=
  rfl

theorem digitValue_lt {c : Char} (hex : isHexDigit c = true) : digitValue c < 16 := by
  rw [isHexDigit_iff] at hex
  rw [digitValue_eq]
  grind

theorem digitValue_of_isDigit {c : Char} (digit : c.isDigit = true) :
    digitValue c = c.toNat - '0'.toNat :=
  if_pos (isDigit_iff.1 digit).2

/-- The case of a hexadecimal digit makes no difference. -/
theorem isHexDigit_toLower {c : Char} (hex : isHexDigit c.toLower = true) :
    isHexDigit c = true ∧ digitValue c.toLower = digitValue c := by
  rw [isHexDigit_iff, Text.toNat_toLower] at hex
  rw [isHexDigit_iff, digitValue_eq, digitValue_eq, Text.toNat_toLower]
  grind

theorem digitChar_spec : ∀ d < 16, isHexDigit d.digitChar = true ∧ digitValue d.digitChar = d := by
  decide

/-! ## Numbers -/

/-- The number that digits denote in a base, of which the last counts once. -/
def numberIn (base : Nat) (digits : List Char) : Nat :=
  Nat.ofDigits base (digits.reverse.map digitValue)

/-- The last digit counts once, and what stands before it by the base. -/
theorem numberIn_concat (base : Nat) (digits : List Char) (c : Char) :
    numberIn base (digits ++ [c]) = base * numberIn base digits + digitValue c := by
  rw [numberIn, List.reverse_append, List.reverse_singleton, List.singleton_append, List.map_cons,
    Nat.ofDigits_cons, Nat.add_comm]
  rfl

/-- Reading digits from the front gives the number that they denote. -/
theorem decimalNumber_eq {digits : List Char} (each : ∀ c ∈ digits, c.isDigit = true) :
    decimalNumber digits = numberIn 10 digits := by
  induction digits using List.reverseRecOn with
  | nil => rfl
  | append_singleton digits c ih =>
      rw [List.forall_mem_append, List.forall_mem_singleton] at each
      rw [numberIn_concat, ← ih each.1, digitValue_of_isDigit each.2, decimalNumber,
        List.foldl_append, Nat.mul_comm]
      rfl

/-- So many hexadecimal digits stay below that power of 16. -/
theorem numberIn_lt {digits : List Char} (each : ∀ c ∈ digits, isHexDigit c = true) :
    numberIn 16 digits < 16 ^ digits.length := by
  have bound := Nat.ofDigits_lt_base_pow_length (b := 16) (l := digits.reverse.map digitValue)
    (by decide) (by
      intro value member
      obtain ⟨c, inside, rfl⟩ := List.mem_map.1 member
      exact digitValue_lt (each c (List.mem_reverse.1 inside)))
  rwa [List.length_map, List.length_reverse] at bound

/-- What a number is written with are digits, and they denote it. -/
theorem toDigits_spec (base : Nat) (least : 1 < base) (most : base ≤ 16) (n : Nat) :
    (∀ c ∈ Nat.toDigits base n, isHexDigit c = true) ∧
      numberIn base (Nat.toDigits base n) = n := by
  induction n using Nat.strong_induction_on with
  | _ n ih =>
      by_cases short : n < base
      · obtain ⟨hex, value⟩ := digitChar_spec n (by omega)
        rw [Nat.toDigits_of_lt_base short]
        exact ⟨List.forall_mem_singleton.2 hex, by simp [numberIn, value]⟩
      · have long : base ≤ n := by omega
        have smaller : n / base < n := Nat.div_lt_self (by omega) least
        have rest : n % base < base := Nat.mod_lt n (by omega)
        obtain ⟨front, same⟩ := ih _ smaller
        obtain ⟨hex, value⟩ := digitChar_spec (n % base) (by omega)
        rw [Nat.toDigits_of_base_le least long, numberIn_concat, same, value, Nat.div_add_mod]
        exact ⟨List.forall_mem_append.2 ⟨front, List.forall_mem_singleton.2 hex⟩, rfl⟩

/-- The number that a value is written for, if it is written for one. -/
def numberOf? : List Char → Option Nat
  | '0' :: 'x' :: digits =>
      if digits ≠ [] ∧ digits.all isHexDigit then some (numberIn 16 digits) else none
  | digits =>
      if digits ≠ [] ∧ digits.all Char.isDigit then some (numberIn 10 digits) else none

/-! ## Three kinds of value -/

/-- Digits only, and more of them than can be read. -/
def IsOverlong (value : List Char) : Prop :=
  (∀ c ∈ value, c.isDigit = true) ∧ 4300 < value.length

/-- One to eight hexadecimal digits after `0x`. -/
def IsShortHex (value : List Char) : Prop :=
  ∃ digits, value = '0' :: 'x' :: digits ∧ 1 ≤ digits.length ∧ digits.length ≤ 8 ∧
    ∀ c ∈ digits, isHexDigit c = true

/-- Decimal digits, at least one, for a number of 32 bits. -/
def IsSmallDecimal (value : List Char) : Prop :=
  value ≠ [] ∧ (∀ c ∈ value, c.isDigit = true) ∧ numberIn 10 value ≤ 2 ^ 32 - 1

theorem ne_hex_of_digits {value : List Char} (each : ∀ c ∈ value, c.isDigit = true)
    (digits : List Char) : value ≠ '0' :: 'x' :: digits := by
  rintro rfl
  have x := each 'x' (by simp)
  exact absurd x (by decide)

/-- Behind `0x` the count of digits decides, and nothing is refused. -/
theorem literalWidth_hex (digits : List Char) :
    ∃ width, literalWidth ('0' :: 'x' :: digits) = .ok width ∧
      (width = .narrow ↔ IsShortHex ('0' :: 'x' :: digits)) := by
  have short : IsShortHex ('0' :: 'x' :: digits) ↔
      digits.length ≤ 8 ∧ digits ≠ [] ∧ digits.all isHexDigit = true := by
    simp [IsShortHex, List.length_pos_iff, Nat.succ_le_iff, and_left_comm]
  rw [literalWidth, short]
  split
  · rename_i fits
    exact ⟨.narrow, rfl, iff_of_true rfl fits⟩
  · rename_i unfit
    exact ⟨.wide, rfl, iff_of_false (by decide) unfit⟩

/-- Digits alone are refused if there are too many of them, and else compared with 32 bits. -/
theorem literalWidth_digits {value : List Char} (some : value ≠ [])
    (each : ∀ c ∈ value, c.isDigit = true) : literalWidth value =
      if 4300 < value.length then .error .tooManyDigits
      else .ok (if numberIn 10 value ≤ 2 ^ 32 - 1 then .narrow else .wide) := by
  have all : value.all Char.isDigit = true := List.all_eq_true.2 each
  have bound : decimalNumber value < 0x100000000 ↔ numberIn 10 value ≤ 2 ^ 32 - 1 := by
    rw [decimalNumber_eq each]
    omega
  rw [literalWidth.eq_2 _ fun digits same => ne_hex_of_digits each digits same]
  simp only [some, all, bound, maxDecimalDigits, Bool.not_true, Bool.false_eq_true, or_self,
    if_false]
  split
  · rfl
  · split <;> rfl

/-- What is no number of either form is wide. -/
theorem literalWidth_other {value : List Char} (noHex : ∀ digits, value ≠ '0' :: 'x' :: digits)
    (noDecimal : value ≠ [] → ¬ ∀ c ∈ value, c.isDigit = true) : literalWidth value = .ok .wide := by
  rw [literalWidth.eq_2 _ noHex, if_pos]
  rw [Bool.not_eq_true', ← Bool.not_eq_true, List.all_eq_true]
  by_cases empty : value = []
  · exact .inl empty
  · exact .inr (noDecimal empty)

/-- A value is refused if it is overlong, and has a width otherwise. -/
theorem literalWidth_spec (value : List Char) :
    (IsOverlong value ∧ literalWidth value = .error .tooManyDigits) ∨
      ¬ IsOverlong value ∧ ∃ width, literalWidth value = .ok width ∧
        (width = .narrow ↔ IsShortHex value ∨ IsSmallDecimal value) := by
  -- A value is of one form only: with `0x` in front, of digits alone, or neither.
  by_cases hex : ∃ digits, value = '0' :: 'x' :: digits
  · obtain ⟨digits, rfl⟩ := hex
    have noDigits : ¬ ∀ c ∈ '0' :: 'x' :: digits, c.isDigit = true :=
      fun each => ne_hex_of_digits each digits rfl
    have noDecimal : ¬ IsSmallDecimal ('0' :: 'x' :: digits) := fun small => noDigits small.2.1
    rw [or_iff_left noDecimal]
    exact .inr ⟨fun overlong => noDigits overlong.1, literalWidth_hex digits⟩
  · rw [not_exists] at hex
    have noHex : ¬ IsShortHex value := fun ⟨digits, same, _⟩ => hex digits same
    rw [or_iff_right noHex]
    by_cases decimal : value ≠ [] ∧ ∀ c ∈ value, c.isDigit = true
    · obtain ⟨some, each⟩ := decimal
      have small : IsSmallDecimal value ↔ numberIn 10 value ≤ 2 ^ 32 - 1 := by
        rw [IsSmallDecimal, and_iff_right some, and_iff_right each]
      have overlong : IsOverlong value ↔ 4300 < value.length := and_iff_right each
      rw [literalWidth_digits some each, overlong, small]
      split
      · rename_i long
        exact .inl ⟨long, rfl⟩
      · rename_i short
        refine .inr ⟨short, _, rfl, ?_⟩
        split
        · rename_i fits
          exact iff_of_true rfl fits
        · rename_i unfit
          exact iff_of_false (by decide) unfit
    · rw [not_and] at decimal
      refine .inr ⟨?_, .wide, literalWidth_other hex decimal, iff_of_false (by decide) ?_⟩
      · intro overlong
        exact decimal (List.ne_nil_of_length_pos (by have := overlong.2; omega)) overlong.1
      · intro small
        exact decimal small.1 small.2.1

/-- Nothing but too many digits is refused. -/
theorem literalWidth_eq_error_iff {value : List Char} {error : LiteralError} :
    literalWidth value = .error error ↔ IsOverlong value := by
  cases error
  rcases literalWidth_spec value with ⟨overlong, refused⟩ | ⟨short, width, has, -⟩
  · exact iff_of_true refused overlong
  · exact iff_of_false (by simp [has]) short

/-! ## Both notations -/

theorem Width.eq_of_narrow_iff {width other : Width} (same : width = .narrow ↔ other = .narrow) :
    width = other := by
  revert same
  cases width <;> cases other <;> decide

/-- A narrow value denotes a number of 32 bits. -/
theorem exists_numberOf?_of_narrow {value : List Char} (narrow : literalWidth value = .ok .narrow) :
    ∃ number, numberOf? value = some number ∧ number < 2 ^ 32 := by
  rcases literalWidth_spec value with ⟨-, refused⟩ | ⟨-, width, has, exact⟩
  · cases narrow.symm.trans refused
  · cases narrow.symm.trans has
    rcases exact.1 rfl with ⟨digits, rfl, some, short, each⟩ | ⟨some, each, small⟩
    · have bound := numberIn_lt each
      have most : 16 ^ digits.length ≤ 16 ^ 8 := Nat.pow_le_pow_right (by decide) short
      refine ⟨numberIn 16 digits, ?_, by omega⟩
      exact if_pos ⟨List.length_pos_iff.1 some, List.all_eq_true.2 each⟩
    · refine ⟨numberIn 10 value, ?_, by omega⟩
      rw [numberOf?.eq_2 _ fun digits same => ne_hex_of_digits each digits same]
      exact if_pos ⟨some, List.all_eq_true.2 each⟩

theorem isDigit_of_mem_decimal (n : Nat) : ∀ c ∈ Nat.toDigits 10 n, c.isDigit = true :=
  fun _ => Nat.isDigit_of_mem_toDigits (by decide) (by decide)

/-- A number written in decimal digits is read back. -/
theorem numberOf?_toDigits (n : Nat) : numberOf? (Nat.toDigits 10 n) = some n := by
  have each := isDigit_of_mem_decimal n
  obtain ⟨-, same⟩ := toDigits_spec 10 (by decide) (by decide) n
  rw [numberOf?.eq_2 _ fun digits => ne_hex_of_digits each digits,
    if_pos ⟨Nat.toDigits_ne_nil, List.all_eq_true.2 each⟩, same]

section

variable {n : Nat} {hex : List Char} (same : hex.map Char.toLower = Nat.toDigits 16 n)

include same

theorem isHexDigit_of_map_toLower {c : Char} (member : c ∈ hex) :
    isHexDigit c = true ∧ digitValue c.toLower = digitValue c := by
  obtain ⟨each, -⟩ := toDigits_spec 16 (by decide) (by decide) n
  apply isHexDigit_toLower
  apply each
  rw [← same]
  exact List.mem_map_of_mem member

theorem ne_nil_of_map_toLower : hex ≠ [] := by
  rintro rfl
  exact Nat.toDigits_ne_nil same.symm

/-- A number written in hexadecimal digits of either case is read back. -/
theorem numberOf?_of_map_toLower : numberOf? ('0' :: 'x' :: hex) = some n := by
  obtain ⟨-, value⟩ := toDigits_spec 16 (by decide) (by decide) n
  have each : hex.all isHexDigit = true :=
    List.all_eq_true.2 fun c member => (isHexDigit_of_map_toLower same member).1
  have values : hex.map (digitValue ∘ Char.toLower) = hex.map digitValue :=
    List.map_congr_left fun c member => (isHexDigit_of_map_toLower same member).2
  rw [numberOf?, if_pos ⟨ne_nil_of_map_toLower same, each⟩, ← value, ← same, numberIn, numberIn,
    List.map_reverse, List.map_reverse, List.map_map, values]

/-- Eight hexadecimal digits hold what 32 bits hold. -/
theorem isShortHex_iff_of_map_toLower : IsShortHex ('0' :: 'x' :: hex) ↔ n < 2 ^ 32 := by
  have length : hex.length = (Nat.toDigits 16 n).length := by rw [← same, List.length_map]
  have bound : hex.length ≤ 8 ↔ n < 2 ^ 32 := by
    rw [length]
    exact Nat.length_toDigits_le_iff (b := 16) (k := 8) (by decide) (by decide)
  constructor
  · rintro ⟨digits, written, -, short, -⟩
    cases written
    exact bound.1 short
  · intro small
    exact ⟨hex, rfl, List.length_pos_iff.2 (ne_nil_of_map_toLower same), bound.2 small,
      fun c member => (isHexDigit_of_map_toLower same member).1⟩

end

/-- **Widths are exact in both notations.**  Digits that are too many are refused.  Anything else is
narrow if it is `0x` with one to eight hexadecimal digits, or decimal digits for a number of 32 bits.
A number has one width in both notations, whatever the case of its hexadecimal digits. -/
theorem literalWidth_exact :
    (∀ value,
      (literalWidth value = .error .tooManyDigits ↔ IsOverlong value) ∧
      (¬ IsOverlong value → ∃ width, literalWidth value = .ok width ∧
        (width = .narrow ↔ IsShortHex value ∨ IsSmallDecimal value)) ∧
      (literalWidth value = .ok .narrow → ∃ number, numberOf? value = some number ∧
        number < 2 ^ 32)) ∧
    ∀ n, (Nat.toDigits 10 n).length ≤ 4300 → ∃ width,
      (width = .narrow ↔ n < 2 ^ 32) ∧
      numberOf? (Nat.toDigits 10 n) = some n ∧ literalWidth (Nat.toDigits 10 n) = .ok width ∧
      ∀ hex, hex.map Char.toLower = Nat.toDigits 16 n →
        numberOf? ('0' :: 'x' :: hex) = some n ∧ literalWidth ('0' :: 'x' :: hex) = .ok width := by
  refine ⟨fun value => ⟨literalWidth_eq_error_iff, ?_, exists_numberOf?_of_narrow⟩, ?_⟩
  · intro short
    rcases literalWidth_spec value with ⟨overlong, -⟩ | ⟨-, has⟩
    · exact absurd overlong short
    · exact has
  · intro n readable
    obtain ⟨-, value⟩ := toDigits_spec 10 (by decide) (by decide) n
    have decimal := literalWidth_digits Nat.toDigits_ne_nil (isDigit_of_mem_decimal n)
    rw [if_neg (Nat.not_lt.2 readable), value] at decimal
    have narrow : (if n ≤ 2 ^ 32 - 1 then Width.narrow else .wide) = .narrow ↔ n < 2 ^ 32 := by
      split
      · exact iff_of_true rfl (by omega)
      · exact iff_of_false (by decide) (by omega)
    refine ⟨_, narrow, numberOf?_toDigits n, decimal, ?_⟩
    intro hex same
    obtain ⟨width, has, exact⟩ := literalWidth_hex hex
    refine ⟨numberOf?_of_map_toLower same, ?_⟩
    rw [isShortHex_iff_of_map_toLower same, ← narrow] at exact
    rw [has, Width.eq_of_narrow_iff exact]

/-- Leading zeros in both notations, and a number beyond 32 bits in mixed case. -/
theorem literalWidth_exact_sample :
    (¬ IsOverlong "0x000000001".toList ∧ ∃ width, literalWidth "0x000000001".toList = .ok width ∧
      (width = .narrow ↔
        IsShortHex "0x000000001".toList ∨ IsSmallDecimal "0x000000001".toList)) ∧
    (literalWidth "00004294967295".toList = .ok .narrow ∧
      ∃ number, numberOf? "00004294967295".toList = some number ∧ number < 2 ^ 32) ∧
    (Nat.toDigits 10 0xAbCdEf012).length ≤ 4300 ∧
      "AbCdEf012".toList.map Char.toLower = Nat.toDigits 16 0xAbCdEf012 ∧ ∃ width,
        (width = .narrow ↔ 0xAbCdEf012 < 2 ^ 32) ∧
        literalWidth (Nat.toDigits 10 0xAbCdEf012) = .ok width ∧
        literalWidth ('0' :: 'x' :: "AbCdEf012".toList) = .ok width := by
  obtain ⟨values, numbers⟩ := literalWidth_exact
  have short : ¬ IsOverlong "0x000000001".toList := fun overlong => absurd overlong.2 (by decide)
  have narrow : literalWidth "00004294967295".toList = .ok .narrow := by decide
  have readable : (Nat.toDigits 10 0xAbCdEf012).length ≤ 4300 := by decide
  have same : "AbCdEf012".toList.map Char.toLower = Nat.toDigits 16 0xAbCdEf012 := by decide
  obtain ⟨width, exact, -, decimal, hexadecimal⟩ := numbers _ readable
  exact ⟨⟨short, (values _).2.1 short⟩, ⟨narrow, (values _).2.2 narrow⟩, readable, same, width,
    exact, decimal, (hexadecimal _ same).2⟩

end GLBindings.Bindings
