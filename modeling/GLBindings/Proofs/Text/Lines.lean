/-
# What lines and margins keep

A text falls into lines in one way only, and what that way is can be said without reading the text
from the front (`Ruled`): no line holds a break, each line but perhaps the last is followed by one,
and a break is a carriage return with the line feed behind it or a single character.  These are the
lines that are found (`ruled_iff`), so that none is lost and none is added.  In the same manner the
text without the blanks at its end is what stands before blanks and does not end in one
(`isTrimmed_iff`).  A character of a word is never a break.
-/
import GLBindings.Text.Lines

namespace GLBindings.Text

set_option autoImplicit false

/-! ## Breaks -/

def Unbroken (cs : List Char) : Prop := ∀ c ∈ cs, isLineBreak c = false

instance (cs : List Char) : Decidable (Unbroken cs) :=
  List.decidableBAll (fun c => isLineBreak c = false) cs

theorem unbroken_append_iff {front rest : List Char} :
    Unbroken (front ++ rest) ↔ Unbroken front ∧ Unbroken rest :=
  List.forall_mem_append

theorem unbroken_cons_iff {c : Char} {rest : List Char} :
    Unbroken (c :: rest) ↔ isLineBreak c = false ∧ Unbroken rest :=
  List.forall_mem_cons

/-- No break is a character of a word. -/
theorem isLineBreak_of_isWord {c : Char} (word : isWord c = true) : isLineBreak c = false := by
  have breaks : ∀ code ∈ [0xA, 0xB, 0xC, 0xD, 0x1C, 0x1D, 0x1E, 0x85, 0x2028, 0x2029],
      isWord (Char.ofNat code) = false := by
    decide +kernel
  rw [← Bool.not_eq_true]
  intro ends
  have code : c.toNat ∈ [0xA, 0xB, 0xC, 0xD, 0x1C, 0x1D, 0x1E, 0x85, 0x2028, 0x2029] := by
    simp only [isLineBreak, within, List.any_cons, List.any_nil, Bool.or_false, Bool.or_eq_true,
      Bool.and_eq_true, decide_eq_true_eq] at ends
    simp only [List.mem_cons, List.not_mem_nil, or_false]
    omega
  have other := breaks _ code
  rw [Char.ofNat_toNat, word] at other
  cases other

theorem unbroken_of_isWord {cs : List Char} (word : ∀ c ∈ cs, isWord c = true) : Unbroken cs :=
  fun c member => isLineBreak_of_isWord (word c member)

/-- What ends a line. -/
inductive IsBreak : List Char → Prop where
  | pair : IsBreak ['\r', '\n']
  | single {c : Char} (ends : isLineBreak c = true) : IsBreak [c]

/-! ## Lines -/

/-- The text consists of the lines and a break after each, except that there may be none after the
last if that holds something.  No break ends between a carriage return and a line feed. -/
inductive Ruled : List Char → List (List Char) → Prop where
  | nil : Ruled [] []
  | last {line : List Char} (some : line ≠ []) (unbroken : Unbroken line) : Ruled line [line]
  | line {line ending rest : List Char} {others : List (List Char)} (unbroken : Unbroken line)
      (ends : IsBreak ending) (whole : ending = ['\r'] → rest.head? ≠ some '\n')
      (ruled : Ruled rest others) : Ruled (line ++ (ending ++ rest)) (line :: others)

namespace Ruled

variable {cs line : List Char} {others : List (List Char)}

theorem eq_nil (ruled : Ruled cs []) : cs = [] := by
  cases ruled
  rfl

/-- A break at the front ends a line that holds nothing. -/
theorem blank {ending : List Char} (ends : IsBreak ending)
    (whole : ending = ['\r'] → cs.head? ≠ some '\n') (ruled : Ruled cs others) :
    Ruled (ending ++ cs) ([] :: others) := by
  have nothing : Unbroken [] := by simp [Unbroken]
  exact .line nothing ends whole ruled

/-- A character that is no break comes to stand in the first line. -/
theorem cons {c : Char} (inside : isLineBreak c = false) (ruled : Ruled cs (line :: others)) :
    Ruled (c :: cs) ((c :: line) :: others) := by
  cases ruled with
  | last _ unbroken =>
      exact .last (List.cons_ne_nil c cs) (unbroken_cons_iff.2 ⟨inside, unbroken⟩)
  | line unbroken ends whole rest =>
      exact .line (unbroken_cons_iff.2 ⟨inside, unbroken⟩) ends whole rest

end Ruled

theorem ruled_splitLines (cs : List Char) : Ruled cs (splitLines cs) := by
  fun_induction splitLines cs with
  | case1 => exact .nil
  | case2 rest ih => exact ih.blank .pair (by simp)
  | case3 c rest unpaired ends ih =>
      refine ih.blank (.single ends) ?_
      intro isReturn isFeed
      obtain ⟨more, rfl⟩ := List.head?_eq_some_iff.1 isFeed
      exact unpaired more (List.singleton_inj.1 isReturn) rfl
  | case4 c rest unpaired inside none ih =>
      rw [none] at ih
      rw [ih.eq_nil]
      exact .last (List.cons_ne_nil c []) (by simpa [Unbroken] using inside)
  | case5 c rest unpaired inside line others found ih =>
      rw [found] at ih
      exact ih.cons (by simpa using inside)

/-- A character that ends no line joins the line behind it. -/
theorem splitLines_cons_of_inside {c : Char} (inside : isLineBreak c = false) (rest : List Char) :
    splitLines (c :: rest) =
      match splitLines rest with
      | [] => [[c]]
      | line :: others => (c :: line) :: others := by
  have unpaired : ∀ more, c = '\r' → rest = '\n' :: more → False := by
    rintro more rfl
    exact absurd inside (by decide)
  exact (splitLines.eq_3 c rest unpaired).trans (if_neg (by simp [inside]))

theorem splitLines_of_unbroken {line : List Char} (some : line ≠ []) (unbroken : Unbroken line) :
    splitLines line = [line] := by
  induction line with
  | nil => exact absurd rfl some
  | cons c rest ih =>
      obtain ⟨inside, unbroken⟩ := unbroken_cons_iff.1 unbroken
      rw [splitLines_cons_of_inside inside]
      by_cases last : rest = []
      · rw [last, splitLines]
      · rw [ih last unbroken]

theorem splitLines_append {line : List Char} (unbroken : Unbroken line) {rest : List Char}
    {others : List (List Char)} (split : splitLines rest = [] :: others) :
    splitLines (line ++ rest) = line :: others := by
  induction line with
  | nil => exact split
  | cons c front ih =>
      obtain ⟨inside, unbroken⟩ := unbroken_cons_iff.1 unbroken
      rw [List.cons_append, splitLines_cons_of_inside inside, ih unbroken]

theorem splitLines_break {ending rest : List Char} (ends : IsBreak ending)
    (whole : ending = ['\r'] → rest.head? ≠ some '\n') :
    splitLines (ending ++ rest) = [] :: splitLines rest := by
  cases ends with
  | pair => rw [List.cons_append, List.singleton_append, splitLines]
  | single ends =>
      rw [List.singleton_append, splitLines, if_pos ends]
      rintro more rfl rfl
      exact whole rfl rfl

/-- The lines of a text are those that are found in it. -/
theorem ruled_iff {cs : List Char} {found : List (List Char)} :
    Ruled cs found ↔ splitLines cs = found := by
  constructor
  · intro ruled
    induction ruled with
    | nil => rfl
    | last some unbroken => exact splitLines_of_unbroken some unbroken
    | line unbroken ends whole rest ih =>
        rw [splitLines_append unbroken (splitLines_break ends whole), ih]
  · rintro rfl
    exact ruled_splitLines cs

/-- A text without breaks is one line. -/
theorem lines_of_unbroken {text : String} (some : text ≠ "") (unbroken : Unbroken text.toList) :
    lines text = [text] := by
  rw [lines, splitLines_of_unbroken (by simpa using some) unbroken, List.map_singleton,
    String.ofList_toList]

/-! ## Margins -/

/-- Blanks follow the one text in the other, and it does not end in a blank itself. -/
def IsTrimmed (text kept : List Char) : Prop :=
  ∃ blanks, text = kept ++ blanks ∧ (∀ c ∈ blanks, isBlank c = true) ∧
    ∀ c ∈ kept.getLast?, isBlank c = false

theorem isTrimmed_dropTrailingBlanks (cs : List Char) : IsTrimmed cs (dropTrailingBlanks cs) := by
  induction cs with
  | nil => exact ⟨[], by simp [dropTrailingBlanks]⟩
  | cons c rest ih =>
      obtain ⟨blanks, split, blank, ends⟩ := ih
      rw [dropTrailingBlanks]
      cases kept : dropTrailingBlanks rest with
      | nil =>
          rw [kept, List.nil_append] at split
          subst split
          cases shown : isBlank c with
          | true => exact ⟨c :: rest, by simp, by simpa [shown] using blank, by simp⟩
          | false => exact ⟨rest, by simp, blank, by simp [shown]⟩
      | cons d more =>
          rw [kept] at split ends
          refine ⟨blanks, congrArg (c :: ·) split, blank, ?_⟩
          rwa [List.getLast?_cons_cons]

/-- What belongs to the blanks and to what ends in none is nothing. -/
theorem eq_nil_of_blank {kept extra : List Char} (blank : ∀ c ∈ extra, isBlank c = true)
    (ends : ∀ c ∈ (kept ++ extra).getLast?, isBlank c = false) : extra = [] := by
  rcases List.eq_nil_or_concat extra with rfl | ⟨front, c, rfl⟩
  · rfl
  · have isShown := ends c (by simp)
    have isBlank := blank c (by simp)
    cases isShown.symm.trans isBlank

/-- There is one way to trim a text. -/
theorem IsTrimmed.unique {cs kept kept' : List Char} (trimmed : IsTrimmed cs kept)
    (trimmed' : IsTrimmed cs kept') : kept = kept' := by
  obtain ⟨blanks, rfl, blank, ends⟩ := trimmed
  obtain ⟨blanks', split, blank', ends'⟩ := trimmed'
  rcases List.append_eq_append_iff.1 split with ⟨extra, rfl, rfl⟩ | ⟨extra, rfl, rfl⟩
  · rw [eq_nil_of_blank (List.forall_mem_append.1 blank).1 ends', List.append_nil]
  · rw [eq_nil_of_blank (List.forall_mem_append.1 blank').1 ends, List.append_nil]

theorem isTrimmed_iff {text kept : String} :
    IsTrimmed text.toList kept.toList ↔ kept = trimEnd text := by
  have own : IsTrimmed text.toList (trimEnd text).toList := by
    rw [trimEnd, String.toList_ofList]
    exact isTrimmed_dropTrailingBlanks text.toList
  constructor
  · intro trimmed
    exact String.toList_injective (trimmed.unique own)
  · rintro rfl
    exact own

/-! ## Physical lines -/

/-- The pieces of a text between line feeds. -/
def physicalLines (text : String) : List String := (text.toList.splitOn '\n').map String.ofList

/-- Up to its first line feed a text is one piece. -/
theorem physicalLines_append {line : String} (whole : '\n' ∉ line.toList) (rest : String) :
    physicalLines (line ++ "\n" ++ rest) = line :: physicalLines rest := by
  have split : (line ++ "\n" ++ rest).toList = line.toList ++ '\n' :: rest.toList := by
    simp [String.toList_append]
  rw [physicalLines, split, List.splitOn, List.splitOnP_append_cons _ _ (by simp),
    List.splitOnP_eq_singleton, List.singleton_append, List.map_cons, String.ofList_toList]
  · rfl
  · intro c member
    rw [beq_eq_false_iff_ne]
    rintro rfl
    exact whole member

theorem Unbroken.not_mem_feed {cs : List Char} (unbroken : Unbroken cs) : '\n' ∉ cs :=
  fun member => absurd (unbroken _ member) (by decide)

end GLBindings.Text
