/-
# Layout of type text

Tokens can be laid out in many ways: blanks may stand in front, behind and between them, and only
two identifiers need a blank in between, since without one they would be read as one run.  Reading
undoes laying out, whichever way it was done (`tokenize_layout`), and every text that has tokens is
a layout of them (`exists_layout`), so texts with the same tokens are exactly the layouts of one
list.  The type that a text describes does not depend on its layout (`parseType_layout`).

What carries the proofs is where a text may be cut: reading the parts gives the same tokens as
reading the whole, unless the cut goes through a run (`tokenize_append_of_apart`).
-/
import Mathlib.Data.List.Chain
import GLBindings.Proofs.Declaration.Lexing

namespace GLBindings

set_option autoImplicit false

namespace Text

/-- Ranges that lie apart have no character in common. -/
theorem within_eq_false_of_apart {ranges others : List (Nat × Nat)} {c : Char}
    (apart : ∀ range ∈ ranges, ∀ other ∈ others, range.2 < other.1 ∨ other.2 < range.1)
    (inside : within ranges c = true) : within others c = false := by
  rw [within, List.any_eq_true] at inside
  obtain ⟨range, member, bounds⟩ := inside
  rw [within, List.any_eq_false]
  intro other member' bounds'
  have := apart range member other member'
  simp only [Bool.and_eq_true, decide_eq_true_eq] at bounds bounds'
  omega

/-- No blank is a letter. -/
theorem isBlank_eq_false_of_isLetter {c : Char} (letter : isLetter c = true) :
    isBlank c = false := by
  rw [isLetter, Bool.or_eq_true] at letter
  rcases letter with ascii | beyond
  · apply isBlank_eq_false_of_isIdentifierChar
    rw [isIdentifierChar, Char.isAlphanum, ascii, Bool.true_or, Bool.true_or]
  · exact within_eq_false_of_apart (by decide +kernel) beyond

end Text

namespace Declaration

open Text (isIdentifierChar isIdentifierStart isBlank isLetter)

/-! ## Cutting a text -/

/-- No run goes across from the first text to the second. -/
def Apart (front rest : List Char) : Prop :=
  ∀ c ∈ front.getLast?, isIdentifierChar c = true → ∀ d ∈ rest.head?, isIdentifierChar d = false

theorem apart_of_head? {front rest : List Char}
    (other : ∀ d ∈ rest.head?, isIdentifierChar d = false) : Apart front rest :=
  fun _ _ _ => other

theorem apart_of_getLast? {front rest : List Char}
    (other : ∀ c ∈ front.getLast?, isIdentifierChar c = false) : Apart front rest := by
  intro c last inside
  rw [other c last] at inside
  cases inside

/-- More text in front of some text does not change where that ends. -/
theorem Apart.of_append {first front rest : List Char} (some : front ≠ [])
    (apart : Apart (first ++ front) rest) : Apart front rest := by
  intro c last
  apply apart c
  rwa [List.getLast?_append_of_ne_nil _ some]

def tokenizeBoth (front rest : List Char) : Except Char (List Token) := do
  return (← tokenize front) ++ (← tokenize rest)

theorem tokenizeBoth_nil (rest : List Char) : tokenizeBoth [] rest = tokenize rest := by
  rw [tokenizeBoth, tokenize]
  cases tokenize rest <;> rfl

theorem tokenizeBoth_eq_ok_iff {front rest : List Char} {tokens : List Token} :
    tokenizeBoth front rest = .ok tokens ↔ ∃ first second, tokenize front = .ok first ∧
      tokenize rest = .ok second ∧ tokens = first ++ second := by
  simp only [tokenizeBoth, bind_eq_ok_iff]
  constructor
  · rintro ⟨first, hfirst, second, hsecond, made⟩
    cases made
    exact ⟨first, second, hfirst, hsecond, rfl⟩
  · rintro ⟨first, second, hfirst, hsecond, rfl⟩
    exact ⟨first, hfirst, second, hsecond, rfl⟩

/-- **A text may be cut anywhere but inside a run.** -/
theorem tokenize_append_of_apart {front rest : List Char} (apart : Apart front rest) :
    tokenize (front ++ rest) = tokenizeBoth front rest := by
  have cons_both : ∀ (t : Token) (more : List Char),
      (t :: ·) <$> tokenizeBoth more rest =
        (do return (← (t :: ·) <$> tokenize more) ++ (← tokenize rest)) := by
    intro t more
    rw [tokenizeBoth]
    cases tokenize more with
    | error c => rfl
    | ok first => cases tokenize rest <;> rfl
  induction front using runs_induction with
  | nil => rw [List.nil_append, tokenizeBoth_nil]
  | skip c more other ih =>
      have later : tokenize (more ++ rest) = tokenizeBoth more rest := by
        cases more with
        | nil => rw [List.nil_append, tokenizeBoth_nil]
        | cons d more =>
            have apart : Apart ([c] ++ d :: more) rest := apart
            exact ih (apart.of_append (List.cons_ne_nil d more))
      rw [List.cons_append, tokenize_cons other, tokenizeBoth, tokenize_cons other, later]
      split
      · rfl
      · split
        · exact cons_both _ more
        · split
          · exact cons_both _ more
          · rfl
  | run c more behind inside ends ih =>
      -- the run ends where it did, with the rest behind it as well
      have ends' : ∀ d ∈ (behind ++ rest).head?, isIdentifierChar d = false := by
        cases behind with
        | nil =>
            rw [List.append_nil] at apart
            have last := List.getLast?_eq_some_getLast (List.cons_ne_nil c more)
            exact apart _ last (inside _ (List.getLast_mem _))
        | cons d behind => exact ends
      have later : tokenize (behind ++ rest) = tokenizeBoth behind rest := by
        cases behind with
        | nil => rw [List.nil_append, tokenizeBoth_nil]
        | cons d behind => exact ih (apart.of_append (List.cons_ne_nil d behind))
      rw [List.append_assoc, tokenize_append inside ends', tokenizeBoth,
        tokenize_append inside ends, later]
      split
      · rfl
      · exact cons_both _ behind

/-! ## Tokens one by one -/

/-- Blanks in front add no token. -/
theorem tokenize_blanks_append {gap : List Char} (blank : ∀ c ∈ gap, isBlank c = true)
    (rest : List Char) : tokenize (gap ++ rest) = tokenize rest := by
  induction gap with
  | nil => rfl
  | cons c gap ih =>
      rw [List.forall_mem_cons] at blank
      rw [List.cons_append, tokenize, if_pos blank.1, ih blank.2]

def Token.IsIdentifier (t : Token) : Prop := isIdentifier t.text.toList = true

instance (t : Token) : Decidable t.IsIdentifier := inferInstanceAs (Decidable (_ = true))

theorem isIdentifier_eq_true_iff {cs : List Char} :
    isIdentifier cs = true ↔ ∃ c more, cs = c :: more ∧ isIdentifierStart c = true ∧
      ∀ d ∈ c :: more, isIdentifierChar d = true := by
  cases cs with
  | nil => simp [isIdentifier]
  | cons c more => simp [isIdentifier]

theorem isDigit_eq_false_of_isIdentifierStart {c : Char} (start : isIdentifierStart c = true) :
    c.isDigit = false := by
  rw [← Bool.not_eq_true]
  intro digit
  rw [Text.isIdentifierStart_of_isDigit digit] at start
  cases start

/-- A run that begins as identifiers do is one token. -/
theorem tokenize_identifier {cs : List Char} (identifier : isIdentifier cs = true) :
    tokenize cs = .ok [Token.ofIdentifier cs] := by
  obtain ⟨c, more, rfl, start, inside⟩ := isIdentifier_eq_true_iff.1 identifier
  have ends : ∀ d ∈ ([] : List Char).head?, isIdentifierChar d = false := by simp
  have alone := tokenize_append inside ends
  rw [List.append_nil, if_neg (by simp [isDigit_eq_false_of_isIdentifierStart start]),
    tokenize] at alone
  exact alone

theorem Token.ofIdentifier_of_ne_const {w : String} (other : w ≠ "const") :
    Token.ofIdentifier w.toList = .word w := by
  have differ : w.toList ≠ ['c', 'o', 'n', 's', 't'] :=
    fun same => other (String.toList_injective same)
  rw [ofIdentifier, if_neg differ, String.ofList_toList]

/-- A letter beyond ASCII is no part of a run. -/
theorem isIdentifierChar_eq_false_of_le {c : Char} (beyond : 0x80 ≤ c.toNat) :
    isIdentifierChar c = false := by
  rw [← Bool.not_eq_true]
  intro inside
  have := Text.toNat_of_isIdentifierChar inside
  omega

/-- A token's text is read as that token. -/
theorem tokenize_text {t : Token} (lexeme : t.IsLexeme) : tokenize t.text.toList = .ok [t] := by
  cases t with
  | star =>
      refine (tokenize_cons_eq_ok_iff (by decide)).2 (.inr ?_)
      exact ⟨by decide, .star, [], .inl ⟨rfl, rfl⟩, by rw [tokenize], rfl⟩
  | const => exact tokenize_identifier (by decide)
  | word w =>
      rcases lexeme with ⟨star, -⟩ | ⟨const, -⟩ | ⟨-, ⟨identifier, other⟩ | single⟩
      · cases star
      · cases const
      · have differ : w ≠ "const" := other
        rw [tokenize_identifier identifier, Token.text, Token.ofIdentifier_of_ne_const differ]
      · obtain ⟨c, same, letter, beyond⟩ := single
        obtain rfl : w = String.singleton c := same
        have star : c ≠ '*' := by
          rintro rfl
          exact absurd beyond (by decide)
        rw [Token.text, String.toList_singleton]
        refine (tokenize_cons_eq_ok_iff (isIdentifierChar_eq_false_of_le beyond)).2 (.inr ?_)
        exact ⟨Text.isBlank_eq_false_of_isLetter letter, _, [], .inr ⟨star, letter, rfl⟩,
          by rw [tokenize], rfl⟩

/-- A token that is no identifier is a character outside all runs. -/
theorem Token.IsLexeme.exists_single {t : Token} (lexeme : t.IsLexeme) (other : ¬ t.IsIdentifier) :
    ∃ c, t.text.toList = [c] ∧ isIdentifierChar c = false := by
  rcases lexeme with ⟨-, star⟩ | ⟨-, const⟩ | ⟨-, ⟨identifier, -⟩ | ⟨c, same, -, beyond⟩⟩
  · rw [star]
    exact ⟨'*', by decide, by decide⟩
  · refine absurd ?_ other
    rw [IsIdentifier, const]
    decide
  · exact absurd identifier other
  · rw [same]
    exact ⟨c, String.toList_singleton c, isIdentifierChar_eq_false_of_le beyond⟩

theorem Token.IsIdentifier.exists_cons {t : Token} (identifier : t.IsIdentifier) :
    ∃ c more, t.text.toList = c :: more ∧ isIdentifierChar c = true := by
  obtain ⟨c, more, same, -, inside⟩ := isIdentifier_eq_true_iff.1 identifier
  exact ⟨c, more, same, inside c List.mem_cons_self⟩

/-! ## Layouts -/

/-- Tokens with blanks in front of the first and behind each of them; two identifiers are kept
apart. -/
structure Layout where
  lead : String
  items : List (Token × String)
  blankLead : ∀ c ∈ lead.toList, isBlank c = true
  blank : ∀ item ∈ items, ∀ c ∈ item.2.toList, isBlank c = true
  separated : items.IsChain fun item next =>
    item.1.IsIdentifier → next.1.IsIdentifier → item.2 ≠ ""

namespace Layout

def tokens (layout : Layout) : List Token := layout.items.map Prod.fst

def text (layout : Layout) : String :=
  layout.lead ++ String.join (layout.items.map fun item => item.1.text ++ item.2)

def empty : Layout where
  lead := ""
  items := []
  blankLead := by simp
  blank := by simp
  separated := .nil

def pad (layout : Layout) (c : Char) (blank : isBlank c = true) : Layout where
  lead := String.singleton c ++ layout.lead
  items := layout.items
  blankLead := by simpa [blank] using layout.blankLead
  blank := layout.blank
  separated := layout.separated

def push (layout : Layout) (t : Token)
    (apart : ∀ u ∈ layout.tokens.head?, t.IsIdentifier → u.IsIdentifier → layout.lead ≠ "") :
    Layout where
  lead := ""
  items := (t, layout.lead) :: layout.items
  blankLead := by simp
  blank := List.forall_mem_cons.2 ⟨layout.blankLead, layout.blank⟩
  separated := by
    refine List.isChain_cons.2 ⟨?_, layout.separated⟩
    intro item first
    apply apart
    rw [tokens, List.head?_map, Option.mem_def.1 first]
    rfl

end Layout

/-- The text of some tokens with what stands behind each of them. -/
def written (items : List (Token × String)) : List Char :=
  items.flatMap fun item => item.1.text.toList ++ item.2.toList

theorem written_cons (t : Token) (gap : String) (items : List (Token × String)) :
    written ((t, gap) :: items) = t.text.toList ++ (gap.toList ++ written items) := by
  rw [written, List.flatMap_cons, List.append_assoc, written]

theorem Layout.toList_text (layout : Layout) :
    layout.text.toList = layout.lead.toList ++ written layout.items := by
  rw [text, written, String.toList_append, String.toList_join, List.flatMap_map]
  simp only [String.toList_append]

theorem Layout.toList_text_push (layout : Layout) (t : Token)
    (apart : ∀ u ∈ layout.tokens.head?, t.IsIdentifier → u.IsIdentifier → layout.lead ≠ "") :
    (layout.push t apart).text.toList = t.text.toList ++ layout.text.toList := by
  rw [toList_text, toList_text]
  exact written_cons t layout.lead layout.items

theorem Layout.toList_text_pad (layout : Layout) (c : Char) (blank : isBlank c = true) :
    (layout.pad c blank).text.toList = c :: layout.text.toList := by
  rw [toList_text, toList_text]
  simp [pad]

/-! ## Reading undoes laying out -/

/-- No run goes on behind a token, whose blanks keep it from the next one where that is needed. -/
theorem apart_written {t : Token} {gap : String} {items : List (Token × String)}
    (lexemes : ∀ item ∈ (t, gap) :: items, item.1.IsLexeme)
    (blank : ∀ c ∈ gap.toList, isBlank c = true)
    (separated : ∀ next ∈ items.head?, t.IsIdentifier → next.1.IsIdentifier → gap ≠ "") :
    Apart t.text.toList (gap.toList ++ written items) := by
  by_cases identifier : t.IsIdentifier
  · -- An identifier is followed by a blank, or by a token that is none.
    apply apart_of_head?
    cases behind : gap.toList with
    | cons c more =>
        intro d first
        cases first
        have isBlank : isBlank c = true := blank c (by rw [behind]; exact List.mem_cons_self)
        rw [← Bool.not_eq_true]
        intro inside
        rw [Text.isBlank_eq_false_of_isIdentifierChar inside] at isBlank
        cases isBlank
    | nil =>
        obtain rfl : gap = "" := String.toList_eq_nil_iff.1 behind
        cases items with
        | nil =>
            intro d first
            cases first
        | cons next items =>
            have other : ¬ next.1.IsIdentifier := fun also => separated next rfl identifier also rfl
            have lexeme : next.1.IsLexeme :=
              lexemes next (List.mem_cons_of_mem _ List.mem_cons_self)
            obtain ⟨c, single, outside⟩ := lexeme.exists_single other
            rw [List.nil_append, written_cons next.1 next.2 items, single]
            intro d first
            cases first
            exact outside
  · apply apart_of_getLast?
    obtain ⟨c, single, outside⟩ := (lexemes _ List.mem_cons_self).exists_single identifier
    rw [single]
    intro d last
    cases last
    exact outside

/-- Tokens that are written one behind the other are read back whatever blanks stand between them,
if there is one between any two identifiers. -/
theorem tokenize_written {items : List (Token × String)}
    (lexemes : ∀ item ∈ items, item.1.IsLexeme)
    (blank : ∀ item ∈ items, ∀ c ∈ item.2.toList, isBlank c = true)
    (separated : items.IsChain fun item next =>
      item.1.IsIdentifier → next.1.IsIdentifier → item.2 ≠ "") :
    tokenize (written items) = .ok (items.map Prod.fst) := by
  induction items with
  | nil => rw [written, List.flatMap_nil, tokenize, List.map_nil]
  | cons item items ih =>
      obtain ⟨t, gap⟩ := item
      rw [List.isChain_cons] at separated
      have apart := apart_written lexemes (blank _ List.mem_cons_self) separated.1
      rw [List.forall_mem_cons] at lexemes blank
      rw [written_cons, tokenize_append_of_apart apart, tokenizeBoth_eq_ok_iff]
      refine ⟨[t], items.map Prod.fst, tokenize_text lexemes.1, ?_, rfl⟩
      rw [tokenize_blanks_append blank.1]
      exact ih lexemes.2 blank.2 separated.2

/-- **Reading a layout gives back its tokens.** -/
theorem tokenize_layout (layout : Layout) (lexemes : ∀ t ∈ layout.tokens, t.IsLexeme) :
    tokenize layout.text.toList = .ok layout.tokens := by
  rw [layout.toList_text, tokenize_blanks_append layout.blankLead]
  apply tokenize_written _ layout.blank layout.separated
  intro item member
  exact lexemes _ (List.mem_map_of_mem member)

/-- **A text that has tokens is a layout of them.** -/
theorem exists_layout {cs : List Char} {tokens : List Token} (taken : tokenize cs = .ok tokens) :
    ∃ layout : Layout, layout.tokens = tokens ∧ layout.text.toList = cs := by
  induction cs using runs_induction generalizing tokens with
  | nil =>
      rw [tokenize] at taken
      cases taken
      exact ⟨.empty, rfl, rfl⟩
  | skip c rest other ih =>
      rcases (tokenize_cons_eq_ok_iff other).1 taken with
        ⟨blank, later⟩ | ⟨-, t, others, kind, later, rfl⟩
      · obtain ⟨layout, rfl, rfl⟩ := ih later
        exact ⟨layout.pad c blank, rfl, layout.toList_text_pad c blank⟩
      · obtain ⟨layout, rfl, rfl⟩ := ih later
        have single : t.text.toList = [c] := by
          rcases kind with ⟨rfl, rfl⟩ | ⟨-, -, rfl⟩
          · rfl
          · exact String.toList_singleton c
        have outside : ¬ t.IsIdentifier := by
          intro identifier
          obtain ⟨d, more, same, inside⟩ := identifier.exists_cons
          rw [single] at same
          cases same
          rw [other] at inside
          cases inside
        refine ⟨layout.push t fun _ _ identifier => absurd identifier outside, rfl, ?_⟩
        rw [layout.toList_text_push, single, List.singleton_append]
  | run c more rest inside ends ih =>
      obtain ⟨-, others, later, rfl⟩ := (tokenize_append_eq_ok_iff inside ends).1 taken
      obtain ⟨layout, rfl, rfl⟩ := ih later
      -- without a blank in front the next identifier would have been read with the run
      have apart : ∀ u ∈ layout.tokens.head?, (Token.ofIdentifier (c :: more)).IsIdentifier →
          u.IsIdentifier → layout.lead ≠ "" := by
        intro u first _ identifier bare
        obtain ⟨d, behind, same, inside'⟩ := identifier.exists_cons
        rw [Layout.tokens, List.head?_map] at first
        obtain ⟨item, front, rfl⟩ := Option.map_eq_some_iff.1 first
        obtain ⟨items, split⟩ : ∃ items, layout.items = item :: items := by
          cases split : layout.items with
          | nil =>
              rw [split] at front
              cases front
          | cons item' items =>
              rw [split] at front
              cases front
              exact ⟨items, rfl⟩
        have outside := ends d
        rw [layout.toList_text, bare, split, written_cons item.1 item.2, same] at outside
        rw [outside rfl] at inside'
        cases inside'
      refine ⟨layout.push (Token.ofIdentifier (c :: more)) apart, rfl, ?_⟩
      rw [layout.toList_text_push, Token.text_ofIdentifier, String.toList_ofList]

/-- **The texts with given tokens are the layouts of these tokens.** -/
theorem tokenize_eq_ok_iff_exists_layout {cs : List Char} {tokens : List Token} :
    tokenize cs = .ok tokens ↔ (∀ t ∈ tokens, t.IsLexeme) ∧
      ∃ layout : Layout, layout.tokens = tokens ∧ layout.text.toList = cs := by
  constructor
  · intro taken
    exact ⟨(lexed_of_tokenize taken).lexemes, exists_layout taken⟩
  · rintro ⟨lexemes, layout, rfl, rfl⟩
    exact tokenize_layout layout lexemes

/-! ## Types -/

/-- **A type text describes the same type in every layout.** -/
theorem parseType_layout {text : String} {tokens : List Token}
    (taken : tokensOf text = .ok tokens) (layout : Layout) (same : layout.tokens = tokens) :
    tokensOf layout.text = .ok tokens ∧
    (∀ verbatim t, parseType layout.text verbatim = .ok t ↔ parseType text verbatim = .ok t) ∧
    ∀ fault, parseType layout.text = .error (.shape fault layout.text) ↔
      parseType text = .error (.shape fault text) := by
  rw [tokensOf, mapError_eq_ok_iff] at taken
  subst same
  have laidOut := tokenize_layout layout (lexed_of_tokenize taken).lexemes
  have plain : ∀ t, parseType layout.text = .ok t ↔ parseType text = .ok t := by
    intro t
    rw [parseType_eq_ok_iff, parseType_eq_ok_iff, laidOut, taken]
  refine ⟨mapError_eq_ok_iff.2 laidOut, ?_, ?_⟩
  · intro verbatim t
    cases verbatim with
    | none => exact plain t
    | some verbatim => simp only [parseType_some_eq_ok_iff, plain]
  · intro fault
    rw [parseType_eq_error_iff, parseType_eq_error_iff, laidOut, taken]
    simp

/-- Of all characters only those in the list are looked at. -/
instance decidableBlanks (cs : List Char) : Decidable (∀ c ∈ cs, isBlank c = true) :=
  decidable_of_iff (cs.all isBlank = true) List.all_eq_true

/-- A text with blanks of three sorts, and with a letter that is a word of its own. -/
def spacedText : String := "const  unsigned\u00a0éint *\nconst *"

/-- The same tokens, with other blanks or none. -/
def tightLayout : Layout where
  lead := "\t"
  items := [(.const, " "), (.word "unsigned", ""), (.word "é", ""), (.word "int", ""),
    (.star, ""), (.const, ""), (.star, "\u3000")]
  blankLead := by decide +kernel
  blank := by decide +kernel
  separated := by decide +kernel

theorem parseType_layout_sample :
    tokensOf spacedText = .ok tightLayout.tokens ∧
      tightLayout.text = "\tconst unsignedéint*const*\u3000" ∧
      tokensOf tightLayout.text = .ok tightLayout.tokens ∧
      parseType tightLayout.text = .ok {
        base := .unrecognized
        shape := .pointerToConstPointerToConst
        spelling := "unsigned é int" } := by
  have taken : tokensOf spacedText = .ok tightLayout.tokens := by decide +kernel
  have described : parseType spacedText = .ok {
      base := .unrecognized
      shape := .pointerToConstPointerToConst
      spelling := "unsigned é int" } := by decide +kernel
  obtain ⟨tokens, type, -⟩ := parseType_layout taken tightLayout rfl
  exact ⟨taken, by decide +kernel, tokens, (type none _).2 described⟩

end Declaration

end GLBindings
