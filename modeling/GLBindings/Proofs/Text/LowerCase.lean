/-
# What lower case leaves alone

No character below the capital letters changes in lower case, and none comes from another character
(`lowerChar_of_low`, `low_of_mem_lowerChar`).  So blanks, slashes and dots are in a lower-cased text
where they were before (`mem_lower_iff`), and a text of such characters is the lower-case form of
itself alone (`lower_eq_iff`).  Decimal digits of any script stay what they are
(`lowerAfter_of_isDecimal`).
-/
import GLBindings.Text.LowerCase
import GLBindings.Text.CharClass

namespace GLBindings.Text

set_option autoImplicit false

/-! ## Characters -/

/-- The character comes before the capital letters. -/
def IsLow (c : Char) : Prop := c.toNat < 0x41

instance (c : Char) : Decidable (IsLow c) := inferInstanceAs (Decidable (_ < _))

theorem toNat_toLower (c : Char) :
    c.toLower.toNat = if 0x41 ≤ c.toNat ∧ c.toNat ≤ 0x5A then c.toNat + 0x20 else c.toNat := by
  have capital : c.val ≥ 'A'.val ∧ c.val ≤ 'Z'.val ↔ 0x41 ≤ c.toNat ∧ c.toNat ≤ 0x5A := by
    rw [ge_iff_le, UInt32.le_iff_toNat_le, UInt32.le_iff_toNat_le]
    rfl
  delta Char.toLower
  split
  · rename_i inside
    have bounds := capital.1 inside
    have code : c.toNat = c.val.toNat := rfl
    have shift : ('a'.val - 'A'.val).toNat = 0x20 := by decide
    rw [if_pos bounds]
    change (c.val + ('a'.val - 'A'.val)).toNat = c.val.toNat + 0x20
    rw [UInt32.toNat_add]
    omega
  · rename_i outside
    rw [if_neg (mt capital.2 outside)]

theorem toLower_of_isLow {c : Char} (low : IsLow c) : c.toLower = c := by
  apply Char.toNat_inj.1
  rw [IsLow] at low
  rw [toNat_toLower, if_neg (by omega)]

theorem lowerChar_of_low {c : Char} (low : IsLow c) (before after : List Char) :
    lowerChar before c after = [c] := by
  have ascii : c.toNat < 0x80 := by
    rw [IsLow] at low
    omega
  rw [lowerChar, if_pos ascii, toLower_of_isLow low]

theorem isLow_of_isLow_toLower {c : Char} (low : IsLow c.toLower) : IsLow c := by
  rw [IsLow, toNat_toLower] at low
  rw [IsLow]
  split at low <;> omega

/-- A run leads to characters above the capital letters. -/
theorem runs_are_high : ∀ run ∈ lowerRuns,
    0x41 ≤ run.1 + run.2.2.2 ∧ (run.2.1 + run.2.2.2 < 0xD800 ∨
      0xDFFF < run.1 + run.2.2.2 ∧ run.2.1 + run.2.2.2 < 0x110000) := by
  decide +kernel

theorem not_isLow_lowerBeyondAscii {c : Char} (beyond : 0x80 ≤ c.toNat) :
    ¬ IsLow (lowerBeyondAscii c) := by
  rw [lowerBeyondAscii]
  split
  · rename_i first last step shift found
    have inside := List.find?_some found
    simp only [Bool.and_eq_true, decide_eq_true_eq] at inside
    obtain ⟨least, valid⟩ := runs_are_high _ (List.mem_of_find?_eq_some found)
    dsimp only at least valid
    have isChar : ((c.toNat + shift : Int).toNat).isValidChar := by
      rw [Nat.isValidChar]
      omega
    rw [IsLow, Char.ofNat, dif_pos isChar]
    change ¬ (((c.toNat : Int) + shift).toNat < 0x41)
    omega
  · rw [IsLow]
    omega

/-- Lower-casing makes no low character of any other. -/
theorem low_of_mem_lowerChar {before after : List Char} {c d : Char}
    (member : d ∈ lowerChar before c after) (low : IsLow d) : IsLow c := by
  rw [lowerChar] at member
  split at member
  · rw [List.mem_singleton.1 member] at low
    exact isLow_of_isLow_toLower low
  · rename_i beyond
    split at member
    · have high : ∀ d ∈ ['i', '\u0307'], ¬ IsLow d := by simp [IsLow]
      exact absurd low (high d member)
    · split at member
      · have high : ∀ final : Bool, ¬ IsLow (if final then '\u03C2' else '\u03C3') := by decide
        rw [List.mem_singleton.1 member] at low
        exact absurd low (high _)
      · rw [List.mem_singleton.1 member] at low
        exact absurd low (not_isLow_lowerBeyondAscii (by omega))

theorem exists_mem_lowerChar (before : List Char) (c : Char) (after : List Char) :
    ∃ d, d ∈ lowerChar before c after := by
  rw [lowerChar]
  split
  · exact ⟨_, List.mem_singleton_self _⟩
  · split
    · exact ⟨'i', List.mem_cons_self⟩
    · split
      · exact ⟨_, List.mem_singleton_self _⟩
      · exact ⟨_, List.mem_singleton_self _⟩

/-! ## Texts -/

/-- Low characters stay as they are, and nothing becomes one. -/
theorem mem_lowerAfter_iff {d : Char} (low : IsLow d) (before cs : List Char) :
    d ∈ lowerAfter before cs ↔ d ∈ cs := by
  induction cs generalizing before with
  | nil => rfl
  | cons c rest ih =>
      rw [lowerAfter, List.mem_append, List.mem_cons, ih]
      refine or_congr_left ?_
      constructor
      · intro member
        rw [lowerChar_of_low (low_of_mem_lowerChar member low)] at member
        exact List.mem_singleton.1 member
      · rintro rfl
        rw [lowerChar_of_low low]
        exact List.mem_singleton_self d

theorem lowerAfter_eq_self {cs : List Char}
    (unchanged : ∀ c ∈ cs, ∀ before after, lowerChar before c after = [c]) (before : List Char) :
    lowerAfter before cs = cs := by
  induction cs generalizing before with
  | nil => rfl
  | cons c rest ih =>
      rw [List.forall_mem_cons] at unchanged
      rw [lowerAfter, unchanged.1, ih unchanged.2]
      rfl

theorem low_of_lowerAfter {before cs : List Char} (low : ∀ d ∈ lowerAfter before cs, IsLow d) :
    ∀ c ∈ cs, IsLow c := by
  induction cs generalizing before with
  | nil => simp
  | cons c rest ih =>
      rw [lowerAfter, List.forall_mem_append] at low
      obtain ⟨d, member⟩ := exists_mem_lowerChar before c rest
      exact List.forall_mem_cons.2 ⟨low_of_mem_lowerChar member (low.1 d member), ih low.2⟩

theorem lowerAfter_of_low {before cs : List Char} (low : ∀ c ∈ cs, IsLow c) :
    lowerAfter before cs = cs :=
  lowerAfter_eq_self (fun c member => lowerChar_of_low (low c member)) before

theorem mem_lower_iff {d : Char} (low : IsLow d) (s : String) :
    d ∈ (lower s).toList ↔ d ∈ s.toList := by
  rw [lower, String.toList_ofList, mem_lowerAfter_iff low]

/-- A text of low characters is the lower-case form of itself alone. -/
theorem lower_eq_iff {s t : String} (low : ∀ c ∈ t.toList, IsLow c) : lower s = t ↔ s = t := by
  constructor
  · rintro rfl
    rw [lower, String.toList_ofList] at low
    rw [lower, lowerAfter_of_low (low_of_lowerAfter low), String.ofList_toList]
  · rintro rfl
    rw [lower, lowerAfter_of_low low, String.ofList_toList]

/-! ## Digits -/

/-- No decimal digit belongs to a run, and none is a capital letter that is treated on its own. -/
theorem digits_have_no_case : ∀ range ∈ decimalRanges, 0x80 ≤ range.1 ∧
    (range.2 < 0x130 ∨ 0x130 < range.1) ∧ (range.2 < 0x3A3 ∨ 0x3A3 < range.1) ∧
    ∀ run ∈ lowerRuns, range.2 < run.1 ∨ run.2.1 < range.1 := by
  decide +kernel

theorem lowerChar_of_isDecimal {c : Char} (digit : isDecimal c = true) (before after : List Char) :
    lowerChar before c after = [c] := by
  rw [isDecimal, Bool.or_eq_true] at digit
  rcases digit with ascii | beyond
  · have low : IsLow c := by
      simp only [Char.isDigit, Bool.and_eq_true, decide_eq_true_eq, ge_iff_le,
        UInt32.le_iff_toNat_le] at ascii
      have code : c.toNat = c.val.toNat := rfl
      have most : ('9'.val).toNat = 0x39 := by decide
      rw [IsLow]
      omega
    exact lowerChar_of_low low before after
  · rw [within, List.any_eq_true] at beyond
    obtain ⟨range, member, inside⟩ := beyond
    simp only [Bool.and_eq_true, decide_eq_true_eq] at inside
    obtain ⟨high, dotted, sigma, apart⟩ := digits_have_no_case range member
    have notDotted : c ≠ '\u0130' := by
      rintro rfl
      have code : ('\u0130').toNat = 0x130 := by decide
      omega
    have notSigma : c ≠ '\u03A3' := by
      rintro rfl
      have code : ('\u03A3').toNat = 0x3A3 := by decide
      omega
    have noRun : lowerBeyondAscii c = c := by
      rw [lowerBeyondAscii]
      split
      · rename_i found
        have outside := apart _ (List.mem_of_find?_eq_some found)
        have within := List.find?_some found
        simp only [Bool.and_eq_true, decide_eq_true_eq] at within outside
        omega
      · rfl
    rw [lowerChar, if_neg (by omega), if_neg notDotted, if_neg notSigma, noRun]

theorem lowerAfter_of_isDecimal {before cs : List Char} (digits : ∀ c ∈ cs, isDecimal c = true) :
    lowerAfter before cs = cs :=
  lowerAfter_eq_self (fun c member => lowerChar_of_isDecimal (digits c member)) before

end GLBindings.Text
