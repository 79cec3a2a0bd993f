/-
# Names in generated code

A name that is a reserved word gets an underscore at its end, and nothing else is done to names.
So no name in generated code is reserved (`unreserved_not_mem_reservedWords`), and two names become
one exactly when one is a reserved word and the other the same word with an underscore
(`unreserved_eq_unreserved_iff`): that is the only way in which different names stop being
different (`nodup_map_unreserved_iff`).  An alias for a keyword of several words is named by the
words with underscores between them (`aliasName_intercalate`).  Type names consist of word
characters, whatever a type is spelled like, and `None` stands for no value and nothing else
(`ctypeName_eq_none_iff`).
-/
import GLBindings.Proofs.Bindings.AliasLines

namespace GLBindings.Bindings

set_option autoImplicit false

/-! ## Reserved words -/

/-- No reserved word ends in an underscore. -/
theorem getLast?_of_mem_reservedWords :
    ∀ k ∈ reservedWords, k.toList.getLast? ≠ some '_' := by
  decide

theorem getLast?_marked (k : String) : (k ++ "_").toList.getLast? = some '_' := by
  rw [String.toList_append]
  exact List.getLast?_concat

theorem marked_not_mem_reservedWords (k : String) : k ++ "_" ∉ reservedWords := by
  intro reserved
  exact getLast?_of_mem_reservedWords _ reserved (getLast?_marked k)

/-- Marking a reserved word does not lead to another one. -/
theorem unreserved_not_mem_reservedWords (name : String) : unreserved name ∉ reservedWords := by
  rw [unreserved]
  split
  · rename_i reserved
    exact marked_not_mem_reservedWords name
  · rename_i free
    exact free

/-- A name that is no reserved word and does not end in an underscore comes from itself alone. -/
theorem unreserved_eq_iff {name other : String} (free : other ∉ reservedWords)
    (unmarked : other.toList.getLast? ≠ some '_') : unreserved name = other ↔ name = other := by
  rw [unreserved]
  split
  · rename_i reserved
    refine iff_of_false ?_ ?_
    · rintro rfl
      exact unmarked (getLast?_marked name)
    · rintro rfl
      exact free reserved
  · rfl

/-- Names become one only where the one is a reserved word and the other the same word marked. -/
theorem unreserved_eq_unreserved_iff {a b : String} :
    unreserved a = unreserved b ↔
      a = b ∨ (a ∈ reservedWords ∧ b = a ++ "_") ∨ (b ∈ reservedWords ∧ a = b ++ "_") := by
  by_cases ha : a ∈ reservedWords
  · by_cases hb : b ∈ reservedWords
    · have notA : b ≠ a ++ "_" := fun same => marked_not_mem_reservedWords a (same ▸ hb)
      have notB : a ≠ b ++ "_" := fun same => marked_not_mem_reservedWords b (same ▸ ha)
      simp [unreserved, ha, hb, notA, notB, String.append_left_inj]
    · have differ : a ≠ b := fun same => hb (same ▸ ha)
      simp [unreserved, ha, hb, differ, eq_comm]
  · by_cases hb : b ∈ reservedWords
    · have differ : a ≠ b := fun same => ha (same ▸ hb)
      simp [unreserved, ha, hb, differ]
    · simp [unreserved, ha, hb]

/-- Names stay different unless one is a reserved word and another the same word with an
underscore. -/
theorem nodup_map_unreserved_iff {names : List String} :
    (names.map unreserved).Nodup ↔
      names.Nodup ∧ ∀ k ∈ reservedWords, ¬ (k ∈ names ∧ k ++ "_" ∈ names) := by
  constructor
  · intro apart
    have distinct := apart.of_map
    refine ⟨distinct, ?_⟩
    rintro k reserved ⟨plain, marked⟩
    have same : unreserved k = unreserved (k ++ "_") :=
      unreserved_eq_unreserved_iff.2 (.inr (.inl ⟨reserved, rfl⟩))
    have equal := List.inj_on_of_nodup_map apart plain marked same
    exact marked_not_mem_reservedWords k (equal ▸ reserved)
  · rintro ⟨distinct, clashless⟩
    refine distinct.map_on ?_
    intro a ha b hb same
    rcases unreserved_eq_unreserved_iff.1 same with equal | ⟨reserved, rfl⟩ | ⟨reserved, rfl⟩
    · exact equal
    · exact absurd ⟨ha, hb⟩ (clashless a reserved)
    · exact absurd ⟨hb, ha⟩ (clashless b reserved)

/-! ## Alias names -/

theorem aliasName_not_mem_reservedWords (keyword : String) : aliasName keyword ∉ reservedWords :=
  unreserved_not_mem_reservedWords _

/-- A word is no run to be joined, and ends the run before it. -/
theorem joinRuns_append {word : List Char} (some : word ≠ [])
    (inside : ∀ c ∈ word, Text.isWord c = true) (inRun : Bool) (rest : List Char) :
    joinRuns inRun (word ++ rest) = word ++ joinRuns false rest := by
  induction word generalizing inRun with
  | nil => exact absurd rfl some
  | cons c more ih =>
      rw [List.forall_mem_cons] at inside
      rw [List.cons_append, joinRuns, if_pos inside.1, List.cons_append]
      by_cases last : more = []
      · rw [last, List.nil_append, List.nil_append]
      · rw [ih last inside.2]

def underscored (cs : List Char) : List Char := cs.map fun c => if c = ' ' then '_' else c

theorem underscored_append (front rest : List Char) :
    underscored (front ++ rest) = underscored front ++ underscored rest :=
  List.map_append

/-- A character that does not stand in a text is not replaced in it. -/
theorem map_ite_eq_self {old new : Char} {cs : List Char} (absent : old ∉ cs) :
    (cs.map fun c => if c = old then new else c) = cs := by
  refine (List.map_congr_left ?_).trans (List.map_id cs)
  intro c member
  refine if_neg ?_
  rintro rfl
  exact absent member

theorem underscored_of_isWord {word : List Char} (inside : ∀ c ∈ word, Text.isWord c = true) :
    underscored word = word := by
  apply map_ite_eq_self
  intro blank
  have := inside ' ' blank
  rw [isWord_space] at this
  cases this

/-- Where words stand with single blanks between them, each blank becomes an underscore. -/
theorem joinRuns_intercalate {words : List (List Char)}
    (inside : ∀ w ∈ words, w ≠ [] ∧ ∀ c ∈ w, Text.isWord c = true) (inRun : Bool) :
    joinRuns inRun ([' '].intercalate words) = underscored ([' '].intercalate words) := by
  induction words generalizing inRun with
  | nil => rfl
  | cons first others ih =>
      rw [List.forall_mem_cons] at inside
      obtain ⟨⟨some, plain⟩, later⟩ := inside
      cases others with
      | nil =>
          have alone := joinRuns_append some plain inRun []
          rw [List.append_nil, joinRuns, List.append_nil] at alone
          simpa [underscored_of_isWord plain] using alone
      | cons second others =>
          have blank : Text.isWord ' ' = false := isWord_space
          rw [List.intercalate_cons_cons, List.append_assoc, joinRuns_append some plain,
            List.singleton_append, joinRuns, if_neg (by simp [blank]), if_neg (by simp), ih later]
          rw [underscored_append, underscored_of_isWord plain]
          rfl

/-- Words become a name with underscores for the blanks between them. -/
theorem aliasName_intercalate {words : List String}
    (inside : ∀ w ∈ words, w ≠ "" ∧ ∀ c ∈ w.toList, Text.isWord c = true) :
    aliasName (" ".intercalate words) =
      unreserved (String.ofList (underscored (" ".intercalate words).toList)) := by
  have written : (" ".intercalate words).toList = [' '].intercalate (words.map String.toList) :=
    String.toList_intercalate
  rw [aliasName, written, joinRuns_intercalate]
  rw [List.forall_mem_map]
  intro w member
  rw [Ne, String.toList_eq_nil_iff]
  exact inside w member

/-! ## Type names -/

theorem isWord_of_mem_ctypeName (t : TypeRef) :
    ∀ c ∈ (ctypeName t).toList, Text.isWord c = true := by
  have plain : ∀ name ∈ "None" :: knownCtypes, name.toList.all Text.isIdentifierChar = true := by
    decide
  rw [ctypeName]
  split
  · rename_i known
    intro c member
    have inside := List.all_eq_true.1 (plain _ (List.mem_cons.2 known.symm))
    exact Text.isWord_of_isIdentifierChar (inside c member)
  · exact isWord_of_mem_aliasName _

/-- Marks that stand around type names. -/
def punctuation : List Char := ['"', ')', ',', ':', '>']

theorem isWord_of_mem_punctuation {mark : Char} (around : mark ∈ punctuation) :
    Text.isWord mark = false := by
  have none : punctuation.any Text.isWord = false := by decide +kernel
  exact Bool.eq_false_iff.2 (List.any_eq_false.1 none mark around)

/-- No mark that can stand around a type name stands in one. -/
theorem not_mem_ctypeName {mark : Char} (around : mark ∈ punctuation) (t : TypeRef) :
    mark ∉ (ctypeName t).toList := by
  intro member
  have other := isWord_of_mem_punctuation around
  rw [isWord_of_mem_ctypeName t mark member] at other
  cases other

/-- A type goes by `None` exactly when there is no value of it. -/
theorem ctypeName_eq_none_iff {t : TypeRef} : ctypeName t = "None" ↔ isVoid t = true := by
  rw [isVoid, beq_iff_eq, ctypeName]
  split
  · rfl
  · rename_i unknown
    rw [not_or] at unknown
    refine iff_of_false ?_ unknown.2
    intro none
    exact aliasName_not_mem_reservedWords (ctype t) (none ▸ by decide)

end GLBindings.Bindings
