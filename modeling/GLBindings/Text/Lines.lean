/-
# Lines and margins

Trimming blanks from the ends of a text and cutting it at line breaks.  A carriage return followed
by a line feed is one break, and a break at the very end opens no further line.

* `not_isLineBreak_of_mem_splitLines`: no line holds a line break.
-/
import GLBindings.Text.CharClass

namespace GLBindings.Text

set_option autoImplicit false

/-! ## Margins -/

/-- The characters up to the last one that is not blank. -/
def dropTrailingBlanks : List Char → List Char
  | [] => []
  | c :: rest =>
      match dropTrailingBlanks rest with
      | [] => if isBlank c then [] else [c]
      | kept => c :: kept

def trimEnd (s : String) : String := String.ofList (dropTrailingBlanks s.toList)

def trim (s : String) : String :=
  String.ofList (dropTrailingBlanks (s.toList.dropWhile isBlank))

/-! ## Lines -/

def isLineBreak (c : Char) : Bool :=
  within [(0xA, 0xD), (0x1C, 0x1E), (0x85, 0x85), (0x2028, 0x2029)] c

def splitLines : List Char → List (List Char)
  | [] => []
  | '\r' :: '\n' :: rest => [] :: splitLines rest
  | c :: rest =>
      if isLineBreak c then [] :: splitLines rest
      else
        match splitLines rest with
        | [] => [[c]]
        | line :: more => (c :: line) :: more

/-- The lines of a text, their breaks left out. -/
def lines (s : String) : List String := (splitLines s.toList).map String.ofList

/-- No line holds a line break. -/
theorem not_isLineBreak_of_mem_splitLines {cs line : List Char} (h : line ∈ splitLines cs) :
    ∀ c ∈ line, isLineBreak c = false := by
  fun_induction splitLines cs generalizing line with
  | case1 => simp at h
  | case2 rest ih =>
      rcases List.mem_cons.1 h with rfl | h
      · simp
      · exact ih h
  | case3 c rest _ hc ih =>
      rcases List.mem_cons.1 h with rfl | h
      · simp
      · exact ih h
  | case4 c rest _ hc hrest ih =>
      obtain rfl : line = [c] := by simpa using h
      simpa using hc
  | case5 c rest _ hc first more hrest ih =>
      rcases List.mem_cons.1 h with rfl | h
      · intro d hd
        rcases List.mem_cons.1 hd with rfl | hd
        · simpa using hc
        · exact ih (by simp [hrest]) d hd
      · exact ih (by simp [hrest, h])

end GLBindings.Text
