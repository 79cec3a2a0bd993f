/-
# The lexer is exact

Type text holds blanks, stars, and runs of letters, digits and underscores.  A run of ASCII is one
token, a letter beyond ASCII is a token of its own, and blanks are left out.  So nothing but the
characters of a text decides whether it has tokens: it must hold none that type text does not hold,
and no run in it may begin with a digit (`exists_tokenize_iff`).  What is refused is the first
character that breaks this (`tokenize_eq_error_iff`), and what is read says all that the text says
(`lexed_of_tokenize`).

Every proof goes along the text run by run (`runs_induction`), since a run is what one step of the
lexer takes.
-/
import GLBindings.Proofs.Declaration.Arrangement

namespace GLBindings

set_option autoImplicit false

namespace Text

/-! ## Characters -/

theorem isIdentifierChar_eq (c : Char) :
    isIdentifierChar c = (isIdentifierStart c || c.isDigit) := by
  rw [isIdentifierChar, isIdentifierStart, Char.isAlphanum, Bool.or_right_comm]

theorem isIdentifierChar_eq_false_iff {c : Char} :
    isIdentifierChar c = false ↔ isIdentifierStart c = false ∧ c.isDigit = false := by
  rw [isIdentifierChar_eq, Bool.or_eq_false_iff]

theorem isIdentifierStart_of_isDigit {c : Char} (digit : c.isDigit = true) :
    isIdentifierStart c = false := by
  have bounds := isDigit_iff.1 digit
  rw [isIdentifierStart, Bool.or_eq_false_iff, beq_eq_false_iff_ne]
  constructor
  · rw [← Bool.not_eq_true]
    intro letter
    have := toNat_of_isAlpha letter
    omega
  · rintro rfl
    revert digit
    decide

theorem letterRanges_beyond_ascii : ∀ range ∈ letterRanges, 0x80 ≤ range.1 := by
  decide +kernel

/-- A letter begins an identifier or lies beyond ASCII. -/
theorem le_toNat_of_isLetter {c : Char} (letter : isLetter c = true)
    (other : isIdentifierStart c = false) : 0x80 ≤ c.toNat := by
  rw [isIdentifierStart, Bool.or_eq_false_iff] at other
  rw [isLetter, other.1, Bool.false_or, within, List.any_eq_true] at letter
  obtain ⟨range, member, inside⟩ := letter
  have beyond := letterRanges_beyond_ascii range member
  simp only [Bool.and_eq_true, decide_eq_true_eq] at inside
  omega

end Text

namespace Declaration

open Text (isIdentifierChar isIdentifierStart isBlank isLetter)

/-- The longest runs of ASCII letters, digits and underscores in a text, in order. -/
def runs (cs : List Char) : List (List Char) :=
  (cs.splitOnP (!isIdentifierChar ·)).filter (· ≠ [])

theorem runs_cons {c : Char} (other : isIdentifierChar c = false) (rest : List Char) :
    runs (c :: rest) = runs rest := by
  rw [runs, runs, List.splitOnP_cons_eq_if_modifyHead, if_pos (by simp [other]),
    List.filter_cons_of_neg (by simp)]

/-- A run is taken as a whole. -/
theorem runs_append {word rest : List Char} (some : word ≠ [])
    (inside : ∀ c ∈ word, isIdentifierChar c = true)
    (ends : ∀ c ∈ rest.head?, isIdentifierChar c = false) :
    runs (word ++ rest) = word :: runs rest := by
  have whole : ∀ c ∈ word, (!isIdentifierChar c) = false := by
    intro c member
    rw [inside c member]
    rfl
  cases rest with
  | nil =>
      rw [List.append_nil, runs, runs, List.splitOnP_eq_singleton whole, List.splitOnP_nil]
      simp [some]
  | cons c rest =>
      have other := ends c rfl
      rw [runs_cons other, runs, List.splitOnP_append_cons _ _ (by simp [other]),
        List.splitOnP_eq_singleton whole, List.singleton_append,
        List.filter_cons_of_pos (by simpa using some)]
      rfl

/-- A text is empty, or begins with a character of no run, or with a run that goes no further. -/
theorem runs_induction {P : List Char → Prop} (nil : P [])
    (skip : ∀ c rest, isIdentifierChar c = false → P rest → P (c :: rest))
    (run : ∀ c more rest, (∀ d ∈ c :: more, isIdentifierChar d = true) →
      (∀ d ∈ rest.head?, isIdentifierChar d = false) → P rest → P (c :: more ++ rest)) :
    ∀ cs, P cs
  | [] => nil
  | c :: rest => by
      by_cases inside : isIdentifierChar c = true
      · have split := List.takeWhile_append_dropWhile (p := isIdentifierChar) (l := rest)
        rw [← split, ← List.cons_append]
        refine run c _ _ ?_ ?_ (runs_induction nil skip run _)
        · rw [List.forall_mem_cons]
          exact ⟨inside, List.all_eq_true.1 List.all_takeWhile⟩
        · intro d first
          have ends := List.head?_dropWhile_not isIdentifierChar rest
          rw [Option.mem_def.1 first] at ends
          exact ends
      · exact skip c rest (by simpa using inside) (runs_induction nil skip run rest)
termination_by cs => cs.length
decreasing_by
  · exact Nat.lt_succ_of_le (List.dropWhile_sublist _).length_le
  · exact Nat.lt_succ_self _

/-! ## One token -/

/-- Outside identifiers every character is a token, a blank or an error. -/
theorem tokenize_cons {c : Char} (other : isIdentifierChar c = false) (rest : List Char) :
    tokenize (c :: rest) =
      if isBlank c then tokenize rest
      else if c = '*' then (Token.star :: ·) <$> tokenize rest
      else if isLetter c then (Token.word (String.singleton c) :: ·) <$> tokenize rest
      else .error c := by
  rw [tokenize, (Text.isIdentifierChar_eq_false_iff.1 other).1]
  simp only [Bool.false_eq_true, if_false]

/-- A run is one token unless a digit begins it. -/
theorem tokenize_append {c : Char} {more rest : List Char}
    (inside : ∀ d ∈ c :: more, isIdentifierChar d = true)
    (ends : ∀ d ∈ rest.head?, isIdentifierChar d = false) :
    tokenize (c :: more ++ rest) =
      if c.isDigit then .error c
      else (Token.ofIdentifier (c :: more) :: ·) <$> tokenize rest := by
  rw [List.forall_mem_cons] at inside
  have blank : isBlank c = false := Text.isBlank_eq_false_of_isIdentifierChar inside.1
  have star : c ≠ '*' := by
    rintro rfl
    exact absurd inside.1 (by decide)
  rw [List.cons_append, tokenize, blank, if_neg Bool.false_ne_true, if_neg star]
  by_cases digit : c.isDigit = true
  · have letter : isLetter c = false := by
      rw [← Bool.not_eq_true]
      intro letter
      have bounds := Text.isDigit_iff.1 digit
      have beyond := Text.le_toNat_of_isLetter letter (Text.isIdentifierStart_of_isDigit digit)
      omega
    rw [Text.isIdentifierStart_of_isDigit digit, letter, if_pos digit, if_neg Bool.false_ne_true,
      if_neg Bool.false_ne_true]
  · have start : isIdentifierStart c = true := by
      simpa [Text.isIdentifierChar_eq, digit] using inside.1
    have none : rest.takeWhile isIdentifierChar = [] := by
      cases rest with
      | nil => rfl
      | cons d rest => exact List.takeWhile_cons_of_neg (by simp [ends d rfl])
    have all : rest.dropWhile isIdentifierChar = rest := by
      cases rest with
      | nil => rfl
      | cons d rest => exact List.dropWhile_cons_of_neg (by simp [ends d rfl])
    rw [start, if_pos rfl, if_neg digit, List.takeWhile_append_of_pos inside.2, none,
      List.append_nil, List.dropWhile_append_of_pos inside.2, all]

/-! ## Where a text breaks -/

/-- The characters of type text that are no blanks. -/
def IsLexical (c : Char) : Prop :=
  c = '*' ∨ c = '_' ∨ c.isDigit = true ∨ isLetter c = true

/-- Behind the text in front of it the character begins no token and continues none: type text does
not hold it, or it is a digit that begins a run. -/
def Breaks (front : List Char) (c : Char) : Prop :=
  (isBlank c = false ∧ ¬ IsLexical c) ∨
    (c.isDigit = true ∧ ∀ d ∈ front.getLast?, isIdentifierChar d = false)

/-- The character is the first in the text that breaks it. -/
def IsFirstBreak (cs : List Char) (c : Char) : Prop :=
  ∃ front back, cs = front ++ c :: back ∧ Breaks front c ∧
    ∀ before d after, front = before ++ d :: after → ¬ Breaks before d

theorem isLexical_of_isIdentifierChar {c : Char} (inside : isIdentifierChar c = true) :
    IsLexical c := by
  simp only [isIdentifierChar, Char.isAlphanum, Bool.or_eq_true, beq_iff_eq] at inside
  rcases inside with (letter | digit) | underscore
  · exact .inr (.inr (.inr (by rw [isLetter, letter, Bool.true_or])))
  · exact .inr (.inr (.inl digit))
  · exact .inr (.inl underscore)

theorem isLexical_iff {c : Char} (other : isIdentifierChar c = false) :
    IsLexical c ↔ c = '*' ∨ isLetter c = true := by
  have underscore : c ≠ '_' := by
    rintro rfl
    exact absurd other (by decide)
  simp [IsLexical, underscore, (Text.isIdentifierChar_eq_false_iff.1 other).2]

/-- A break is one with other text in front as well, unless a run goes on from there. -/
theorem breaks_append_iff {front rest : List Char}
    (apart : ∀ c ∈ rest.head?, c.isDigit = true → ∀ d ∈ front.getLast?, isIdentifierChar d = false)
    {before after : List Char} {c : Char} (split : rest = before ++ c :: after) :
    Breaks (front ++ before) c ↔ Breaks before c := by
  refine or_congr_right (and_congr_right fun digit => ?_)
  cases before with
  | nil =>
      subst split
      simpa using apart c rfl digit
  | cons d before => simp [List.getLast?_append]

/-- Where a character stands in a text put together of two. -/
theorem append_eq_append_cons_cases {front rest before after : List Char} {c : Char}
    (split : front ++ rest = before ++ c :: after) :
    (∃ more, front = before ++ c :: more) ∨
      ∃ more, before = front ++ more ∧ rest = more ++ c :: after := by
  rcases List.append_eq_append_iff.1 split with ⟨more, early, later⟩ | ⟨more, early, later⟩
  · exact .inr ⟨more, early, later⟩
  · cases more with
    | nil => exact .inr ⟨[], by simpa using early.symm, later.symm⟩
    | cons d more =>
        obtain ⟨rfl, -⟩ := List.cons.inj later
        exact .inl ⟨more, early⟩

/-- What stands in front makes no difference if nothing in it breaks the text. -/
theorem isFirstBreak_append_iff {front rest : List Char} {c : Char}
    (quiet : ∀ before d after, front = before ++ d :: after → ¬ Breaks before d)
    (apart : ∀ c ∈ rest.head?, c.isDigit = true →
      ∀ d ∈ front.getLast?, isIdentifierChar d = false) :
    IsFirstBreak (front ++ rest) c ↔ IsFirstBreak rest c := by
  constructor
  · rintro ⟨all, back, split, breaks, first⟩
    rcases append_eq_append_cons_cases split with ⟨more, early⟩ | ⟨before, rfl, later⟩
    · exact absurd breaks (quiet all c more early)
    · refine ⟨before, back, later, (breaks_append_iff apart later).1 breaks, ?_⟩
      rintro before' d after rfl breaks'
      rw [List.append_assoc, List.cons_append] at later
      exact first (front ++ before') d after (List.append_assoc _ _ _).symm
        ((breaks_append_iff apart later).2 breaks')
  · rintro ⟨before, back, rfl, breaks, first⟩
    refine ⟨front ++ before, back, (List.append_assoc _ _ _).symm,
      (breaks_append_iff apart rfl).2 breaks, ?_⟩
    intro all d after split breaks'
    rcases append_eq_append_cons_cases split with ⟨more, early⟩ | ⟨before', rfl, rfl⟩
    · exact quiet all d more early breaks'
    · have later : before' ++ d :: after ++ c :: back = before' ++ d :: (after ++ c :: back) :=
        List.append_assoc _ _ _
      exact first before' d after rfl ((breaks_append_iff apart later).1 breaks')

theorem isFirstBreak_of_head {c : Char} {rest : List Char} (breaks : Breaks [] c) {d : Char} :
    IsFirstBreak (c :: rest) d ↔ d = c := by
  constructor
  · rintro ⟨front, back, split, -, first⟩
    cases front with
    | nil => exact (List.cons.inj split).1.symm
    | cons e front =>
        obtain ⟨rfl, -⟩ := List.cons.inj split
        exact absurd breaks (first [] c front rfl)
  · rintro rfl
    exact ⟨[], rest, rfl, breaks, by simp⟩

/-- Nothing inside a run breaks a text unless its first character does. -/
theorem not_breaks_of_run {c : Char} {more : List Char}
    (inside : ∀ d ∈ c :: more, isIdentifierChar d = true) (start : c.isDigit = false) :
    ∀ before d after, c :: more = before ++ d :: after → ¬ Breaks before d := by
  intro before d after split breaks
  rcases breaks with ⟨-, other⟩ | ⟨digit, begins⟩
  · have member : d ∈ c :: more := by simp [split]
    exact other (isLexical_of_isIdentifierChar (inside d member))
  · cases before with
    | nil =>
        obtain ⟨rfl, -⟩ := List.cons.inj split
        rw [start] at digit
        cases digit
    | cons e before =>
        have last := List.getLast?_eq_some_getLast (List.cons_ne_nil e before)
        have member : (e :: before).getLast (List.cons_ne_nil e before) ∈ c :: more := by
          rw [split]
          exact List.mem_append_left _ (List.getLast_mem _)
        have other := begins _ last
        rw [inside _ member] at other
        cases other

theorem breaks_nil_iff {c : Char} (other : isIdentifierChar c = false) :
    Breaks [] c ↔ isBlank c = false ∧ c ≠ '*' ∧ isLetter c = false := by
  have digit := (Text.isIdentifierChar_eq_false_iff.1 other).2
  simp [Breaks, isLexical_iff other, digit]

theorem not_breaks_of_single {c : Char} (fits : ¬ Breaks [] c) :
    ∀ before d after, [c] = before ++ d :: after → ¬ Breaks before d := by
  intro before d after split
  cases before with
  | nil =>
      obtain ⟨rfl, -⟩ := List.cons.inj split
      exact fits
  | cons e before => simp at split

/-- Reading tokens fails at the first character that breaks the text. -/
theorem tokenize_eq_error_iff {cs : List Char} {c : Char} :
    tokenize cs = .error c ↔ IsFirstBreak cs c := by
  induction cs using runs_induction with
  | nil => simp [tokenize, IsFirstBreak]
  | skip first rest other ih =>
      -- A single character is the first break, or takes no part in any later one.
      by_cases breaks : Breaks [] first
      · obtain ⟨blank, star, letter⟩ := (breaks_nil_iff other).1 breaks
        rw [isFirstBreak_of_head breaks, tokenize_cons other]
        simp [blank, star, letter, eq_comm]
      · have apart : ∀ d ∈ rest.head?, d.isDigit = true →
            ∀ e ∈ [first].getLast?, isIdentifierChar e = false := by
          intro d _ _ e last
          cases last
          exact other
        have later := isFirstBreak_append_iff (c := c) (not_breaks_of_single breaks) apart
        rw [List.singleton_append] at later
        rw [later, ← ih, tokenize_cons other]
        rw [breaks_nil_iff other] at breaks
        split
        · rfl
        · rename_i visible
          split
          · exact map_eq_error_iff
          · rename_i star
            rw [if_pos (by simpa [visible, star] using breaks)]
            exact map_eq_error_iff
  | run first more rest inside ends ih =>
      -- A run breaks at its first character or nowhere; the character behind it is no digit.
      rw [tokenize_append inside ends]
      by_cases digit : first.isDigit = true
      · have breaks : Breaks [] first := .inr ⟨digit, by simp⟩
        rw [if_pos digit, List.cons_append, isFirstBreak_of_head breaks, Except.error.injEq,
          eq_comm]
      · have apart : ∀ d ∈ rest.head?, d.isDigit = true →
            ∀ e ∈ (first :: more).getLast?, isIdentifierChar e = false := by
          intro d next start
          have other := ends d next
          rw [Text.isIdentifierChar_eq, start, Bool.or_true] at other
          cases other
        rw [if_neg digit, isFirstBreak_append_iff
          (not_breaks_of_run inside (by simpa using digit)) apart, ← ih]
        exact map_eq_error_iff

/-! ## Texts that nowhere break -/

/-- The text is of type text's characters, and every run in it begins with a letter or an
underscore. -/
structure IsLexable (cs : List Char) : Prop where
  characters : ∀ c ∈ cs, isBlank c = false → IsLexical c
  begins : ∀ run ∈ runs cs, ∀ c ∈ run.head?, c.isDigit = false

theorem isLexable_cons_iff {c : Char} {rest : List Char} (other : isIdentifierChar c = false) :
    IsLexable (c :: rest) ↔ (isBlank c = false → IsLexical c) ∧ IsLexable rest := by
  constructor
  · rintro ⟨characters, begins⟩
    rw [runs_cons other] at begins
    rw [List.forall_mem_cons] at characters
    exact ⟨characters.1, characters.2, begins⟩
  · rintro ⟨first, characters, begins⟩
    refine ⟨List.forall_mem_cons.2 ⟨first, characters⟩, ?_⟩
    rwa [runs_cons other]

theorem isLexable_append_iff {c : Char} {more rest : List Char}
    (inside : ∀ d ∈ c :: more, isIdentifierChar d = true)
    (ends : ∀ d ∈ rest.head?, isIdentifierChar d = false) :
    IsLexable (c :: more ++ rest) ↔ c.isDigit = false ∧ IsLexable rest := by
  have whole := runs_append (List.cons_ne_nil c more) inside ends
  constructor
  · rintro ⟨characters, begins⟩
    rw [whole, List.forall_mem_cons] at begins
    exact ⟨begins.1 c rfl, (List.forall_mem_append.1 characters).2, begins.2⟩
  · rintro ⟨start, characters, begins⟩
    constructor
    · rw [List.forall_mem_append]
      exact ⟨fun d member _ => isLexical_of_isIdentifierChar (inside d member), characters⟩
    · rw [whole, List.forall_mem_cons]
      refine ⟨?_, begins⟩
      intro d first
      cases first
      exact start

theorem isLexable_nil : IsLexable [] where
  characters := by simp
  begins := by simp [runs]

/-! ## Texts with tokens -/

theorem tokenize_cons_eq_ok_iff {c : Char} {rest : List Char} {tokens : List Token}
    (other : isIdentifierChar c = false) :
    tokenize (c :: rest) = .ok tokens ↔
      (isBlank c = true ∧ tokenize rest = .ok tokens) ∨
      (isBlank c = false ∧ ∃ t others,
        ((c = '*' ∧ t = .star) ∨ (c ≠ '*' ∧ isLetter c = true ∧ t = .word (String.singleton c))) ∧
        tokenize rest = .ok others ∧ tokens = t :: others) := by
  have begins : ∀ t : Token, (t :: ·) <$> tokenize rest = .ok tokens ↔
      ∃ others, tokenize rest = .ok others ∧ tokens = t :: others := by
    intro t
    refine map_eq_ok_iff.trans ?_
    simp only [eq_comm]
  rw [tokenize_cons other]
  cases blank : isBlank c with
  | true => simp
  | false =>
      rw [if_neg Bool.false_ne_true]
      by_cases star : c = '*'
      · rw [if_pos star]
        simp [star, begins]
      · by_cases letter : isLetter c = true
        · simp [star, letter, begins]
        · simp [star, letter]

theorem tokenize_append_eq_ok_iff {c : Char} {more rest : List Char} {tokens : List Token}
    (inside : ∀ d ∈ c :: more, isIdentifierChar d = true)
    (ends : ∀ d ∈ rest.head?, isIdentifierChar d = false) :
    tokenize (c :: more ++ rest) = .ok tokens ↔
      c.isDigit = false ∧ ∃ others, tokenize rest = .ok others ∧
        tokens = Token.ofIdentifier (c :: more) :: others := by
  rw [tokenize_append inside ends]
  by_cases digit : c.isDigit = true
  · simp [digit]
  · rw [if_neg digit, and_iff_right (by simpa using digit)]
    refine map_eq_ok_iff.trans ?_
    simp only [eq_comm]

/-- A text has tokens exactly when it nowhere breaks. -/
theorem exists_tokenize_iff {cs : List Char} :
    (∃ tokens, tokenize cs = .ok tokens) ↔ IsLexable cs := by
  induction cs using runs_induction with
  | nil => simp [tokenize, isLexable_nil]
  | skip first rest other ih =>
      rw [isLexable_cons_iff other, ← ih, isLexical_iff other]
      simp only [tokenize_cons_eq_ok_iff other]
      constructor
      · rintro ⟨tokens, ⟨blank, later⟩ | ⟨-, t, others, kind, later, -⟩⟩
        · exact ⟨by simp [blank], tokens, later⟩
        · refine ⟨fun _ => ?_, others, later⟩
          exact kind.imp And.left fun letter => letter.2.1
      · rintro ⟨lexical, tokens, later⟩
        cases blank : isBlank first with
        | true => exact ⟨tokens, .inl ⟨rfl, later⟩⟩
        | false =>
            by_cases star : first = '*'
            · exact ⟨_, .inr ⟨rfl, _, _, .inl ⟨star, rfl⟩, later, rfl⟩⟩
            · have letter := (lexical blank).resolve_left star
              exact ⟨_, .inr ⟨rfl, _, _, .inr ⟨star, letter, rfl⟩, later, rfl⟩⟩
  | run first more rest inside ends ih =>
      rw [isLexable_append_iff inside ends, ← ih]
      simp only [tokenize_append_eq_ok_iff inside ends]
      constructor
      · rintro ⟨_, start, others, later, -⟩
        exact ⟨start, others, later⟩
      · rintro ⟨start, others, later⟩
        exact ⟨_, start, others, later, rfl⟩

def isIdentifier (cs : List Char) : Bool :=
  cs.head?.any isIdentifierStart && cs.all isIdentifierChar

/-- The token is a star, a `const`, an identifier other than that, or a letter beyond ASCII. -/
def Token.IsLexeme (t : Token) : Prop :=
  (t.kind = .star ∧ t.text = "*") ∨ (t.kind = .const ∧ t.text = "const") ∨
    (t.kind = .word ∧ ((isIdentifier t.text.toList = true ∧ t.text ≠ "const") ∨
      ∃ c, t.text = String.singleton c ∧ isLetter c = true ∧ 0x80 ≤ c.toNat))

/-- The tokens are those of the text: together they say what it says without its blanks, and the
identifiers among them are its runs. -/
structure Lexed (cs : List Char) (tokens : List Token) : Prop where
  lossless : String.join (tokens.map Token.text) = String.ofList (cs.filter (!isBlank ·))
  lexemes : ∀ t ∈ tokens, t.IsLexeme
  identifiers : (tokens.map (·.text.toList)).filter isIdentifier = runs cs

theorem Token.text_ofIdentifier (cs : List Char) :
    (Token.ofIdentifier cs).text = String.ofList cs := by
  rw [ofIdentifier]
  split
  · rename_i same
    rw [same]
    rfl
  · rfl

theorem Token.isLexeme_ofIdentifier {cs : List Char} (identifier : isIdentifier cs = true) :
    (Token.ofIdentifier cs).IsLexeme := by
  rw [ofIdentifier]
  split
  · exact .inr (.inl ⟨rfl, rfl⟩)
  · rename_i other
    refine .inr (.inr ⟨rfl, .inl ⟨?_, ?_⟩⟩)
    · rwa [Token.text, String.toList_ofList]
    · intro same
      apply other
      have := congrArg String.toList same
      rwa [Token.text, String.toList_ofList] at this

theorem isIdentifier_run {c : Char} {more : List Char}
    (inside : ∀ d ∈ c :: more, isIdentifierChar d = true) (start : c.isDigit = false) :
    isIdentifier (c :: more) = true := by
  have first := inside c List.mem_cons_self
  rw [Text.isIdentifierChar_eq, start, Bool.or_false] at first
  rw [isIdentifier, List.all_eq_true.2 inside, Bool.and_true]
  exact first

/-- A token that is no identifier stands for its own character. -/
theorem Lexed.cons {c : Char} {rest : List Char} {t : Token} {others : List Token}
    (other : isIdentifierChar c = false) (visible : isBlank c = false)
    (written : t.text = String.singleton c) (lexeme : t.IsLexeme) (lexed : Lexed rest others) :
    Lexed (c :: rest) (t :: others) where
  lossless := by
    rw [List.map_cons, List.filter_cons_of_pos (by simp [visible])]
    apply String.toList_injective
    have := congrArg String.toList lexed.lossless
    rw [String.toList_join, String.toList_ofList] at this ⊢
    rw [List.flatMap_cons, this, written]
    simp
  lexemes := List.forall_mem_cons.2 ⟨lexeme, lexed.lexemes⟩
  identifiers := by
    rw [List.map_cons, List.filter_cons_of_neg, lexed.identifiers, runs_cons other]
    simp [isIdentifier, written, other]

/-- Blanks are left out. -/
theorem Lexed.blank {c : Char} {rest : List Char} {tokens : List Token}
    (other : isIdentifierChar c = false) (blank : isBlank c = true) (lexed : Lexed rest tokens) :
    Lexed (c :: rest) tokens where
  lossless := by rw [List.filter_cons_of_neg (by simp [blank]), lexed.lossless]
  lexemes := lexed.lexemes
  identifiers := by rw [runs_cons other, lexed.identifiers]

/-- A run is one token. -/
theorem Lexed.run {c : Char} {more rest : List Char} {others : List Token}
    (inside : ∀ d ∈ c :: more, isIdentifierChar d = true)
    (ends : ∀ d ∈ rest.head?, isIdentifierChar d = false) (start : c.isDigit = false)
    (lexed : Lexed rest others) :
    Lexed (c :: more ++ rest) (Token.ofIdentifier (c :: more) :: others) where
  lossless := by
    have visible : (c :: more).filter (!isBlank ·) = c :: more := by
      rw [List.filter_eq_self]
      intro d member
      rw [Text.isBlank_eq_false_of_isIdentifierChar (inside d member)]
      rfl
    rw [List.map_cons, Token.text_ofIdentifier, List.filter_append, visible]
    apply String.toList_injective
    have := congrArg String.toList lexed.lossless
    rw [String.toList_join, String.toList_ofList] at this ⊢
    rw [List.flatMap_cons, this, String.toList_ofList]
  lexemes := by
    rw [List.forall_mem_cons]
    exact ⟨Token.isLexeme_ofIdentifier (isIdentifier_run inside start), lexed.lexemes⟩
  identifiers := by
    rw [List.map_cons, Token.text_ofIdentifier, String.toList_ofList,
      List.filter_cons_of_pos (isIdentifier_run inside start), lexed.identifiers,
      runs_append (List.cons_ne_nil c more) inside ends]

/-- What is taken from a text says all that the text says. -/
theorem lexed_of_tokenize {cs : List Char} {tokens : List Token}
    (taken : tokenize cs = .ok tokens) : Lexed cs tokens := by
  induction cs using runs_induction generalizing tokens with
  | nil =>
      rw [tokenize] at taken
      cases taken
      exact ⟨rfl, by simp, by simp [runs]⟩
  | skip first rest other ih =>
      rcases (tokenize_cons_eq_ok_iff other).1 taken with
        ⟨blank, later⟩ | ⟨visible, t, others, kind, later, rfl⟩
      · exact (ih later).blank other blank
      · rcases kind with ⟨rfl, rfl⟩ | ⟨-, letter, rfl⟩
        · exact (ih later).cons other visible rfl (.inl ⟨rfl, rfl⟩)
        · have beyond := Text.le_toNat_of_isLetter letter
            (Text.isIdentifierChar_eq_false_iff.1 other).1
          exact (ih later).cons other visible rfl
            (.inr (.inr ⟨rfl, .inr ⟨first, rfl, letter, beyond⟩⟩))
  | run first more rest inside ends ih =>
      obtain ⟨start, others, later, rfl⟩ := (tokenize_append_eq_ok_iff inside ends).1 taken
      exact (ih later).run inside ends start

/-- **Tokens are read exactly from the texts that nowhere break, and nothing is lost.** -/
theorem tokensOf_exact (text : String) :
    ((∃ tokens, tokensOf text = .ok tokens) ↔ IsLexable text.toList) ∧
    (∀ error, tokensOf text = .error error ↔ ∃ c, IsFirstBreak text.toList c ∧
      error = .unexpected c text ∧
      error.message = "Unexpected " ++ Text.quoted (String.singleton c) ++ " in type " ++
        Text.quoted (Text.trim text)) ∧
    ∀ tokens, tokensOf text = .ok tokens → Lexed text.toList tokens := by
  have succeeds : ∀ tokens, tokensOf text = .ok tokens ↔ tokenize text.toList = .ok tokens :=
    fun tokens => mapError_eq_ok_iff
  refine ⟨?_, ?_, ?_⟩
  · simp only [succeeds, exists_tokenize_iff]
  · intro error
    simp only [tokensOf, mapError_eq_error_iff, tokenize_eq_error_iff]
    refine exists_congr fun c => and_congr_right fun _ => ?_
    constructor
    · rintro rfl
      exact ⟨rfl, rfl⟩
    · rintro ⟨rfl, -⟩
      rfl
  · intro tokens taken
    exact lexed_of_tokenize ((succeeds tokens).1 taken)

end Declaration

end GLBindings
