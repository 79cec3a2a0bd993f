/-
# Alias lines

The alias of a keyword has a name of word characters, so the line that declares it can be read
back: the name ends at the first blank, and what the line was written for follows at its end if it
differs (`aliasLine_injective`).  A module therefore declares an alias for a keyword exactly when
the keyword is among those that need one (`aliasLine_mem_typeAliases_iff`), and these are the names
of its unrecognized types that ctypes does not know (`mem_aliasKeywords_iff`).
-/
import GLBindings.Bindings.Import
import GLBindings.Proofs.Ascending
import GLBindings.Proofs.FirstOccurrence

namespace GLBindings.Bindings

set_option autoImplicit false

/-! ## Sorted names -/

theorem mem_sortedNames_iff {names : List String} {name : String} :
    name ∈ sortedNames names ↔ name ∈ names := by
  rw [sortedNames, List.mem_mergeSort, List.mem_eraseDups]

theorem ascending_sortedNames (names : List String) : Ascending id (sortedNames names) := by
  apply ascending_mergeSort
  rw [List.map_id]
  exact nodup_eraseDups names

/-! ## Alias names -/

/-- Joining runs leaves word characters only. -/
theorem isWord_of_mem_joinRuns {inRun : Bool} {cs : List Char} :
    ∀ c ∈ joinRuns inRun cs, Text.isWord c = true := by
  fun_induction joinRuns inRun cs with
  | case1 => simp
  | case2 inRun c rest word ih =>
      intro d member
      rcases List.mem_cons.1 member with rfl | later
      · exact word
      · exact ih d later
  | case3 c rest _ ih => exact ih
  | case4 inRun c rest _ _ ih =>
      intro d member
      rcases List.mem_cons.1 member with rfl | later
      · exact Text.isWord_of_isIdentifierChar (by decide)
      · exact ih d later

/-- Nothing but word characters stands in a name for an unrecognized keyword. -/
theorem isWord_of_mem_aliasName (keyword : String) :
    ∀ c ∈ (aliasName keyword).toList, Text.isWord c = true := by
  intro c member
  rw [aliasName, unreserved] at member
  split at member
  · rw [String.toList_append, String.toList_ofList, List.mem_append] at member
    rcases member with inName | mark
    · exact isWord_of_mem_joinRuns c inName
    · obtain rfl := List.mem_singleton.1 mark
      exact Text.isWord_of_isIdentifierChar (by decide)
  · rw [String.toList_ofList] at member
    exact isWord_of_mem_joinRuns c member

/-! ## Alias lines -/

/-- What follows the name in the line that declares an alias. -/
def aliasValue (keyword : String) : String :=
  " = " ++ pointerCtype ++ (if aliasName keyword = keyword then "" else "  # " ++ keyword)

theorem aliasLine_eq (keyword : String) :
    aliasLine keyword = aliasName keyword ++ aliasValue keyword := by
  simp only [aliasLine, aliasValue, String.append_assoc]

/-- The name in an alias line ends at its first blank. -/
theorem aliasLine_toList (keyword : String) :
    ∃ rest, (aliasLine keyword).toList = (aliasName keyword).toList ++ ' ' :: rest := by
  refine ⟨(aliasValue keyword).toList.tail, ?_⟩
  rw [aliasLine_eq, String.toList_append, aliasValue, String.toList_append, String.toList_append]
  rfl

theorem isWord_space : Text.isWord ' ' = false := by decide +kernel

/-- The name that an alias line binds is read back from its front. -/
theorem takeWhile_aliasLine (keyword : String) :
    (aliasLine keyword).toList.takeWhile Text.isWord = (aliasName keyword).toList := by
  obtain ⟨rest, line⟩ := aliasLine_toList keyword
  rw [line, List.takeWhile_append_of_pos (isWord_of_mem_aliasName keyword),
    List.takeWhile_cons_of_neg (by simp [isWord_space]), List.append_nil]

/-- A line is the alias line of one keyword only. -/
theorem aliasLine_injective : Function.Injective aliasLine := by
  intro a b same
  have name : aliasName a = aliasName b := by
    apply String.toList_injective
    rw [← takeWhile_aliasLine, same, takeWhile_aliasLine]
  have value : aliasValue a = aliasValue b := by
    rw [aliasLine_eq, aliasLine_eq, name] at same
    exact (String.append_right_inj _).1 same
  rw [aliasValue, aliasValue, name] at value
  have note := (String.append_right_inj _).1 value
  by_cases plain : aliasName b = a
  · by_cases plain' : aliasName b = b
    · exact plain.symm.trans plain'
    · rw [if_pos plain, if_neg plain'] at note
      simp at note
  · by_cases plain' : aliasName b = b
    · rw [if_neg plain, if_pos plain'] at note
      simp at note
    · rw [if_neg plain, if_neg plain'] at note
      exact (String.append_right_inj _).1 note

/-! ## What a module declares -/

def unrecognizedNames (commands : List Command) : List String :=
  ((mentionedTypes commands).filter (·.base == .unrecognized)).map ctype

/-- Exactly the unrecognized names that ctypes does not know get an alias. -/
theorem mem_aliasKeywords_iff {commands : List Command} {keyword : String} :
    keyword ∈ aliasKeywords commands ↔
      keyword ∈ unrecognizedNames commands ∧ keyword ∉ knownCtypes := by
  rw [aliasKeywords, mem_sortedNames_iff, List.mem_filter, unrecognizedNames]
  simp

/-- The heading of the aliases is no alias line. -/
theorem aliasLine_not_mem_heading (keyword : String) :
    aliasLine keyword ∉ ["", "", "# Opaque types"] := by
  obtain ⟨rest, line⟩ := aliasLine_toList keyword
  have name := takeWhile_aliasLine keyword
  have blank : ∀ heading ∈ ["", "", "# Opaque types"],
      heading.toList.takeWhile Text.isWord = [] ∧ heading.toList.head? ≠ some ' ' := by
    decide +kernel
  intro member
  obtain ⟨nameless, begins⟩ := blank _ member
  rw [line, ← name, nameless] at begins
  exact begins rfl

/-- No line of a module's aliases is like that of a keyword which gets none. -/
theorem aliasLine_mem_typeAliases_iff {commands : List Command} {keyword : String} :
    aliasLine keyword ∈ typeAliases commands ↔ keyword ∈ aliasKeywords commands := by
  rw [typeAliases]
  cases needed : aliasKeywords commands with
  | nil => simp
  | cons first others =>
      dsimp only
      rw [List.mem_append, or_iff_right (aliasLine_not_mem_heading keyword),
        List.mem_map_of_injective aliasLine_injective]

end GLBindings.Bindings
