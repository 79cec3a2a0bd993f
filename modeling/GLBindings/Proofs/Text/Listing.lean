/-
# Lists inside a text

Generated code holds lists: between two marks of a line stand items with a comma and a blank from
one to the next.  Both steps of reading such a list are undone by writing it: what stands between
the marks is found again (`enclosedIn_eq`), and the items fall apart where they were joined
(`listedIn_intercalate`), as long as the items hold no comma and the text around them no mark.
-/
import GLBindings.Proofs.FirstOccurrence

namespace GLBindings

set_option autoImplicit false

/-! ## Between two marks -/

/-- What stands in a text between its first opening mark and its last closing one. -/
def enclosedIn (opening closing : Char) (text : String) : String :=
  let inside := (text.toList.dropWhile (· != opening)).tail
  String.ofList (inside.reverse.dropWhile (· != closing)).tail.reverse

theorem enclosedIn_eq {opening closing : Char} {text : String} {before inside after : List Char}
    (written : text.toList = before ++ opening :: (inside ++ closing :: after))
    (opens : opening ∉ before) (closes : closing ∉ after) :
    enclosedIn opening closing text = String.ofList inside := by
  have backwards : (inside ++ closing :: after).reverse =
      after.reverse ++ closing :: inside.reverse := by simp
  rw [enclosedIn, written, dropWhile_bne_append opens, List.tail_cons, backwards,
    dropWhile_bne_append (by rwa [List.mem_reverse]), List.tail_cons, List.reverse_reverse]

/-! ## Items -/

/-- The pieces of a text between commas that a blank follows; without such a comma it is one
piece. -/
def splitList : List Char → List (List Char)
  | [] => [[]]
  | ',' :: ' ' :: rest => [] :: splitList rest
  | c :: rest =>
      match splitList rest with
      | [] => [[c]]
      | piece :: more => (c :: piece) :: more

def listedIn (text : String) : List String := (splitList text.toList).map String.ofList

theorem splitList_cons {c : Char} (other : c ≠ ',') (rest : List Char) :
    splitList (c :: rest) =
      match splitList rest with
      | [] => [[c]]
      | piece :: more => (c :: piece) :: more := by
  rw [splitList]
  intro _ comma
  exact absurd comma other

theorem splitList_of_not_mem {piece : List Char} (whole : ',' ∉ piece) :
    splitList piece = [piece] := by
  induction piece with
  | nil => rfl
  | cons c rest ih =>
      rw [List.mem_cons, not_or] at whole
      rw [splitList_cons (Ne.symm whole.1), ih whole.2]

theorem splitList_append {piece : List Char} (whole : ',' ∉ piece) (rest : List Char) :
    splitList (piece ++ ',' :: ' ' :: rest) = piece :: splitList rest := by
  induction piece with
  | nil => rfl
  | cons c more ih =>
      rw [List.mem_cons, not_or] at whole
      rw [List.cons_append, splitList_cons (Ne.symm whole.1), ih whole.2]

/-- Pieces without commas are read back from their list. -/
theorem splitList_intercalate {pieces : List (List Char)} (some : pieces ≠ [])
    (whole : ∀ piece ∈ pieces, ',' ∉ piece) :
    splitList ([',', ' '].intercalate pieces) = pieces := by
  induction pieces with
  | nil => exact absurd rfl some
  | cons first others ih =>
      rw [List.forall_mem_cons] at whole
      cases others with
      | nil => simpa using splitList_of_not_mem whole.1
      | cons second others =>
          rw [List.intercalate_cons_cons, List.append_assoc]
          exact (splitList_append whole.1 _).trans
            (congrArg (first :: ·) (ih (List.cons_ne_nil _ _) whole.2))

/-- Items that are written one after the other are the items that are read. -/
theorem listedIn_intercalate {items : List String} (some : items ≠ [])
    (whole : ∀ item ∈ items, ',' ∉ item.toList) :
    listedIn (", ".intercalate items) = items := by
  have pieces : splitList ([',', ' '].intercalate (items.map String.toList)) =
      items.map String.toList :=
    splitList_intercalate (by simpa using some) (by simpa using whole)
  have written : (", ".intercalate items).toList =
      [',', ' '].intercalate (items.map String.toList) := String.toList_intercalate
  rw [listedIn, written, pieces, List.map_map]
  exact (List.map_congr_left fun item _ => String.ofList_toList).trans (List.map_id items)

theorem intercalate_ne_empty {separator : String} {items : List String} (some : items ≠ [])
    (nonempty : ∀ item ∈ items, item ≠ "") : separator.intercalate items ≠ "" := by
  cases items with
  | nil => exact absurd rfl some
  | cons first others =>
      intro none
      have front : first.toList ≠ [] := by
        rw [Ne, String.toList_eq_nil_iff]
        exact nonempty first List.mem_cons_self
      have written := congrArg String.toList none
      rw [String.toList_intercalate, List.map_cons] at written
      cases others with
      | nil => exact front (by simpa using written)
      | cons second others =>
          rw [List.map_cons, List.intercalate_cons_cons] at written
          exact front (List.append_eq_nil_iff.1 (List.append_eq_nil_iff.1 written).1).1

theorem not_mem_intercalate {separator : List Char} {c : Char} (apart : c ∉ separator)
    {items : List (List Char)} (absent : ∀ item ∈ items, c ∉ item) :
    c ∉ separator.intercalate items := by
  induction items with
  | nil => simp
  | cons first others ih =>
      rw [List.forall_mem_cons] at absent
      cases others with
      | nil => simpa using absent.1
      | cons second others =>
          simp only [List.intercalate_cons_cons, List.mem_append, not_or]
          exact ⟨⟨absent.1, apart⟩, ih absent.2⟩

end GLBindings
