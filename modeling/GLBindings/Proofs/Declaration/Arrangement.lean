/-
# Arrangements of tokens

A type text is one word or more with stars and consts around them, and seven arrangements have a
meaning (`Arranged`).  They are given by the kinds of the tokens alone.  Taking a token list apart
undoes putting it together (`Outline.of_eq_ok_iff`), and the text by which the table of shapes is
searched gives back its stars and consts (`Token.eq_of_join_text_eq`).  So a list has a shape
exactly when its kinds are so arranged (`classify_eq_ok_iff`), and no two arrangements are confused.

* `parseType_eq_ok_iff`: a text describes the type that its tokens are arranged as.
* `parseType_eq_error_iff`: what else a text can be is a character that begins no token, or an
  arrangement without a meaning.
-/
import GLBindings.Declaration.Basic
import GLBindings.Proofs.Outcome

namespace GLBindings.Declaration

set_option autoImplicit false

/-! ## Kinds of tokens -/

namespace Token

inductive Kind where
  | const
  | star
  | word
  deriving DecidableEq

def kind : Token → Kind
  | .const => .const
  | .star => .star
  | .word _ => .word

/-- The token of a kind with a text; stars and consts are the same whatever their text is. -/
def ofKind (kind : Kind) (text : String) : Token :=
  match kind with
  | .const => .const
  | .star => .star
  | .word => .word text

@[simp] theorem kind_ofKind (kind : Kind) (text : String) : (ofKind kind text).kind = kind := by
  cases kind <;> rfl

/-- Stars and consts are known by their kinds. -/
theorem eq_of_kind_eq {t u : Token} (wordless : u.isWord = false) (same : t.kind = u.kind) :
    t = u := by
  cases u with
  | word w => cases wordless
  | const =>
      cases t with
      | const => rfl
      | star => cases same
      | word w => cases same
  | star =>
      cases t with
      | star => rfl
      | const => cases same
      | word w => cases same

theorem eq_of_map_kind_eq {tokens rest : List Token} (wordless : ∀ t ∈ rest, t.isWord = false)
    (same : tokens.map kind = rest.map kind) : tokens = rest := by
  induction rest generalizing tokens with
  | nil => exact List.map_eq_nil_iff.1 same
  | cons u rest ih =>
      obtain ⟨t, others, rfl, first, same⟩ := List.map_eq_cons_iff.1 same
      rw [List.forall_mem_cons] at wordless
      rw [eq_of_kind_eq wordless.1 first, ih wordless.2 same]

/-- Tokens that begin with words by their kinds begin with words. -/
theorem exists_words_of_map_kind_eq {tokens : List Token} {count : Nat} {kinds : List Kind}
    (arranged : tokens.map kind = List.replicate count .word ++ kinds) :
    ∃ (words : List String) (rest : List Token),
      tokens = words.map .word ++ rest ∧ words.length = count ∧ rest.map kind = kinds := by
  induction count generalizing tokens with
  | zero => exact ⟨[], tokens, rfl, rfl, arranged⟩
  | succ count ih =>
      rw [List.replicate_succ, List.cons_append] at arranged
      obtain ⟨t, others, rfl, first, later⟩ := List.map_eq_cons_iff.1 arranged
      obtain ⟨words, rest, rfl, counted, follow⟩ := ih later
      cases t with
      | word w => exact ⟨w :: words, rest, rfl, congrArg (· + 1) counted, follow⟩
      | const => cases first
      | star => cases first

/-- A star and a `const` begin differently, so the first of them is read off the text. -/
theorem eq_of_text_append_eq {t u : Token} {s r : List Char} (wordless : t.isWord = false)
    (wordless' : u.isWord = false) (same : t.text.toList ++ s = u.text.toList ++ r) :
    t = u ∧ s = r := by
  cases t with
  | word w => cases wordless
  | const =>
      cases u with
      | word w => cases wordless'
      | const => exact ⟨rfl, List.append_cancel_left same⟩
      | star => simp [text] at same
  | star =>
      cases u with
      | word w => cases wordless'
      | const => simp [text] at same
      | star => exact ⟨rfl, List.append_cancel_left same⟩

theorem toList_join_text (t : Token) (tokens : List Token) :
    (String.join ((t :: tokens).map text)).toList =
      t.text.toList ++ (String.join (tokens.map text)).toList := by
  rw [List.map_cons, String.join_cons, String.toList_append]

theorem eq_nil_of_join_text_eq {tokens : List Token} (wordless : ∀ t ∈ tokens, t.isWord = false)
    (blank : String.join (tokens.map text) = "") : tokens = [] := by
  cases tokens with
  | nil => rfl
  | cons t tokens =>
      have := congrArg String.toList blank
      rw [toList_join_text] at this
      cases t with
      | word w => cases wordless (.word w) List.mem_cons_self
      | const => simp [text] at this
      | star => simp [text] at this

/-- Written without blanks, different stars and consts are different texts. -/
theorem eq_of_join_text_eq {rest others : List Token} (wordless : ∀ t ∈ rest, t.isWord = false)
    (wordless' : ∀ t ∈ others, t.isWord = false)
    (same : String.join (rest.map text) = String.join (others.map text)) : rest = others := by
  induction rest generalizing others with
  | nil => exact (eq_nil_of_join_text_eq wordless' same.symm).symm
  | cons t rest ih =>
      cases others with
      | nil => exact eq_nil_of_join_text_eq wordless same
      | cons u others =>
          have front := congrArg String.toList same
          rw [toList_join_text, toList_join_text] at front
          rw [List.forall_mem_cons] at wordless wordless'
          obtain ⟨rfl, later⟩ := eq_of_text_append_eq wordless.1 wordless'.1 front
          rw [ih wordless.2 wordless'.2 (String.toList_inj.1 later)]

end Token

def wordsOf (tokens : List Token) : List String :=
  tokens.filterMap fun
    | .word w => some w
    | _ => none

/-- The arrangements of tokens that have a meaning, with `more` words beyond the first. -/
inductive Arranged : List Token.Kind → PointerShape → Prop where
  | plain (more : Nat) : Arranged (List.replicate (more + 1) .word) .plain
  | pointer (more : Nat) : Arranged (List.replicate (more + 1) .word ++ [.star]) .pointer
  | pointerToConst (more : Nat) :
      Arranged (.const :: List.replicate (more + 1) .word ++ [.star]) .pointerToConst
  | pointerToPointer (more : Nat) :
      Arranged (List.replicate (more + 1) .word ++ [.star, .star]) .pointerToPointer
  | pointerToConstPointer (more : Nat) :
      Arranged (.const :: List.replicate (more + 1) .word ++ [.star, .star]) .pointerToConstPointer
  | constAfterStar (more : Nat) :
      Arranged (List.replicate (more + 1) .word ++ [.star, .const, .star]) .pointerToConst
  | pointerToConstPointerToConst (more : Nat) :
      Arranged (.const :: List.replicate (more + 1) .word ++ [.star, .const, .star])
        .pointerToConstPointerToConst

/-! ## Taking a token list apart -/

/-- The tokens of an outline, put together again. -/
def Outline.tokens (outline : Outline) : List Token :=
  (if outline.leadingConst then [.const] else []) ++ (outline.words.map .word ++ outline.rest)

theorem leadingWords_eq {tokens : List Token} {words : List String} {rest : List Token}
    (taken : leadingWords tokens = (words, rest)) : tokens = words.map .word ++ rest := by
  induction tokens generalizing words with
  | nil =>
      cases taken
      rfl
  | cons t tokens ih =>
      cases t with
      | word w =>
          rw [leadingWords] at taken
          cases taken
          rw [List.map_cons, List.cons_append, ← ih rfl]
      | const =>
          cases taken
          rfl
      | star =>
          cases taken
          rfl

/-- Where no word follows, exactly the words in front are taken. -/
theorem leadingWords_append (words : List String) {rest : List Token}
    (wordless : ∀ t ∈ rest, t.isWord = false) :
    leadingWords (words.map .word ++ rest) = (words, rest) := by
  induction words with
  | nil =>
      cases rest with
      | nil => rfl
      | cons t rest =>
          cases t with
          | word w => cases wordless (.word w) List.mem_cons_self
          | const => rfl
          | star => rfl
  | cons w words ih => rw [List.map_cons, List.cons_append, leadingWords, ih]

theorem splitConst_eq {tokens rest : List Token} {leadingConst : Bool}
    (split : splitConst tokens = (leadingConst, rest)) :
    tokens = (if leadingConst then [.const] else []) ++ rest := by
  unfold splitConst at split
  split at split
  · cases split
    rfl
  · cases split
    rfl

/-- As there are words, a `const` at the front is the leading one. -/
theorem splitConst_tokens {outline : Outline} (based : outline.words ≠ []) :
    splitConst outline.tokens =
      (outline.leadingConst, outline.words.map .word ++ outline.rest) := by
  obtain ⟨leadingConst, words, rest⟩ := outline
  cases leadingConst with
  | true => rfl
  | false =>
      cases words with
      | nil => exact absurd rfl based
      | cons w words => rfl

/-- Taking a token list apart undoes putting it together. -/
theorem Outline.of_eq_ok_iff {tokens : List Token} {outline : Outline} :
    Outline.of tokens = .ok outline ↔
      tokens = outline.tokens ∧ outline.words ≠ [] ∧ ∀ t ∈ outline.rest, t.isWord = false := by
  constructor
  · intro taken
    rw [Outline.of] at taken
    cases split : splitConst tokens with
    | mk leadingConst others =>
        cases front : leadingWords others with
        | mk words rest =>
            simp only [split, front] at taken
            split at taken
            · cases taken
            · rename_i based
              split at taken
              · cases taken
              · rename_i wordless
                cases taken
                refine ⟨?_, by simpa using based, by simpa using wordless⟩
                rw [Outline.tokens, splitConst_eq split, leadingWords_eq front]
  · rintro ⟨rfl, based, wordless⟩
    rw [Outline.of, splitConst_tokens based]
    simp only [leadingWords_append outline.words wordless]
    have some : outline.words.isEmpty = false := by simpa using based
    have none : outline.rest.any Token.isWord = false := by simpa using wordless
    rw [some, none]
    rfl

theorem wordsOf_tokens {outline : Outline} (wordless : ∀ t ∈ outline.rest, t.isWord = false) :
    wordsOf outline.tokens = outline.words := by
  have inFront : (if outline.leadingConst then [Token.const] else []).filterMap
      (fun | .word w => some w | _ => none) = ([] : List String) := by
    cases outline.leadingConst <;> rfl
  have behind : outline.rest.filterMap (fun | .word w => some w | _ => none) =
      ([] : List String) := by
    rw [List.filterMap_eq_nil_iff]
    intro t member
    cases t with
    | word w => cases wordless (.word w) member
    | const => rfl
    | star => rfl
  rw [wordsOf, Outline.tokens, List.filterMap_append, List.filterMap_append, inFront, behind,
    List.filterMap_map, List.nil_append, List.append_nil]
  exact List.filterMap_some

/-! ## Shapes -/

/-- The shape is what the table has for the consts and stars around the words. -/
theorem classify_eq_ok_iff_exists {tokens : List Token} {shape : PointerShape} :
    classify tokens = .ok shape ↔ ∃ outline, Outline.of tokens = .ok outline ∧
      shapes.lookup (outline.leadingConst, outline.suffix) = some shape := by
  rw [classify, bind_eq_ok_iff]
  apply exists_congr
  intro outline
  apply and_congr_right
  intro _
  rw [Outline.shape]
  cases shapes.lookup (outline.leadingConst, outline.suffix) with
  | none => simp
  | some found => simp

/-- Stars and consts that have a meaning are arranged around any words. -/
theorem arranged_of_lookup {outline : Outline} {shape : PointerShape} (based : outline.words ≠ [])
    (wordless : ∀ t ∈ outline.rest, t.isWord = false)
    (meant : shapes.lookup (outline.leadingConst, outline.suffix) = some shape) :
    Arranged (outline.tokens.map Token.kind) shape := by
  obtain ⟨leadingConst, words, rest⟩ := outline
  cases words with
  | nil => exact absurd rfl based
  | cons w words =>
      have wordKinds : ((w :: words).map Token.word).map Token.kind =
          List.replicate (words.length + 1) .word := by
        rw [List.map_map, List.eq_replicate_iff]
        simp [Token.kind]
      -- The table gives the text behind the words; its tokens are the only ones with that text.
      have rest_eq : ∀ others : List Token, (∀ t ∈ others, t.isWord = false) →
          String.join (rest.map Token.text) = String.join (others.map Token.text) →
          rest = others := fun others => Token.eq_of_join_text_eq wordless
      obtain ⟨before, after, table, -⟩ := List.lookup_eq_some_iff.1 meant
      have entry : ((leadingConst, String.join (rest.map Token.text)), shape) ∈ shapes := by
        rw [table]
        exact List.mem_append_right _ List.mem_cons_self
      rw [Outline.tokens, List.map_append, List.map_append, wordKinds]
      simp only [shapes, List.mem_cons, List.not_mem_nil, or_false, Prod.mk.injEq] at entry
      obtain ⟨⟨rfl, suffix⟩, rfl⟩ | ⟨⟨rfl, suffix⟩, rfl⟩ | ⟨⟨rfl, suffix⟩, rfl⟩ |
        ⟨⟨rfl, suffix⟩, rfl⟩ | ⟨⟨rfl, suffix⟩, rfl⟩ | ⟨⟨rfl, suffix⟩, rfl⟩ |
        ⟨⟨rfl, suffix⟩, rfl⟩ := entry
      · obtain rfl := rest_eq [] (by decide) suffix
        rw [List.map_nil, List.append_nil]
        exact .plain _
      · obtain rfl := rest_eq [.star] (by decide) suffix
        exact .pointer _
      · obtain rfl := rest_eq [.star] (by decide) suffix
        exact .pointerToConst _
      · obtain rfl := rest_eq [.star, .star] (by decide) suffix
        exact .pointerToPointer _
      · obtain rfl := rest_eq [.star, .star] (by decide) suffix
        exact .pointerToConstPointer _
      · obtain rfl := rest_eq [.star, .const, .star] (by decide) suffix
        exact .constAfterStar _
      · obtain rfl := rest_eq [.star, .const, .star] (by decide) suffix
        exact .pointerToConstPointerToConst _

/-- What stands around the words in an arrangement. -/
theorem Arranged.exists_around {kinds : List Token.Kind} {shape : PointerShape}
    (arranged : Arranged kinds shape) :
    ∃ (leadingConst : Bool) (more : Nat) (rest : List Token),
      kinds = (if leadingConst then [Token.const] else []).map Token.kind ++
        (List.replicate (more + 1) .word ++ rest.map Token.kind) ∧
      (∀ t ∈ rest, t.isWord = false) ∧
      shapes.lookup (leadingConst, String.join (rest.map Token.text)) = some shape := by
  cases arranged with
  | plain more => exact ⟨false, more, [], by simp, by decide, rfl⟩
  | pointer more => exact ⟨false, more, [.star], rfl, by decide, rfl⟩
  | pointerToConst more => exact ⟨true, more, [.star], rfl, by decide, rfl⟩
  | pointerToPointer more => exact ⟨false, more, [.star, .star], rfl, by decide, rfl⟩
  | pointerToConstPointer more => exact ⟨true, more, [.star, .star], rfl, by decide, rfl⟩
  | constAfterStar more => exact ⟨false, more, [.star, .const, .star], rfl, by decide, rfl⟩
  | pointerToConstPointerToConst more =>
      exact ⟨true, more, [.star, .const, .star], rfl, by decide, rfl⟩

/-- Tokens that are arranged so have an outline of that shape. -/
theorem Arranged.exists_outline {tokens : List Token} {shape : PointerShape}
    (arranged : Arranged (tokens.map Token.kind) shape) :
    ∃ outline, Outline.of tokens = .ok outline ∧
      shapes.lookup (outline.leadingConst, outline.suffix) = some shape := by
  obtain ⟨leadingConst, more, rest, kinds, wordless, meant⟩ := arranged.exists_around
  obtain ⟨front, others, rfl, hfront, hothers⟩ := List.map_eq_append_iff.1 kinds
  obtain ⟨words, behind, rfl, counted, hrest⟩ := Token.exists_words_of_map_kind_eq hothers
  have constOnly : ∀ t ∈ (if leadingConst then [Token.const] else []), t.isWord = false := by
    cases leadingConst <;> decide
  cases Token.eq_of_map_kind_eq constOnly hfront
  cases Token.eq_of_map_kind_eq wordless hrest
  refine ⟨⟨leadingConst, words, rest⟩, Outline.of_eq_ok_iff.2 ⟨rfl, ?_, wordless⟩, meant⟩
  rintro rfl
  cases counted

/-- **A token list has a shape exactly when its kinds are arranged so.** -/
theorem classify_eq_ok_iff {tokens : List Token} {shape : PointerShape} :
    classify tokens = .ok shape ↔ Arranged (tokens.map Token.kind) shape := by
  rw [classify_eq_ok_iff_exists]
  constructor
  · rintro ⟨outline, taken, meant⟩
    obtain ⟨rfl, based, wordless⟩ := Outline.of_eq_ok_iff.1 taken
    exact arranged_of_lookup based wordless meant
  · intro arranged
    exact arranged.exists_outline

/-- Tokens are refused exactly where no arrangement has a meaning. -/
theorem exists_classify_eq_error_iff {tokens : List Token} :
    (∃ fault, classify tokens = .error fault) ↔
      ∀ shape, ¬ Arranged (tokens.map Token.kind) shape := by
  simp only [← classify_eq_ok_iff]
  cases classify tokens with
  | error fault => simp
  | ok shape => simp

/-! ## Types -/

/-- The words spell the type, with blanks between them, and its base is what they name; void under
stars is an address. -/
structure IsSpelled (words : List String) (t : TypeRef) : Prop where
  spelling : t.spelling = " ".intercalate words
  base : t.base =
    if keywords.lookup (" ".intercalate words) = some .void ∧ t.shape ≠ .plain then .address
    else (keywords.lookup (" ".intercalate words)).getD .unrecognized

theorem pointeeBase_baseTypeOf (keyword : String) (shape : PointerShape) :
    pointeeBase (baseTypeOf keyword) shape =
      if keywords.lookup keyword = some .void ∧ shape ≠ .plain then .address
      else (keywords.lookup keyword).getD .unrecognized := by
  rw [pointeeBase, baseTypeOf]
  cases keywords.lookup keyword with
  | none => simp
  | some base => simp

def typeOf (words : List String) (shape : PointerShape) : TypeRef where
  base := pointeeBase (baseTypeOf (" ".intercalate words)) shape
  shape
  spelling := " ".intercalate words

/-- A type is determined by its shape and the words that spell it. -/
theorem eq_typeOf_iff {words : List String} {shape : PointerShape} {t : TypeRef} :
    t = typeOf words shape ↔ t.shape = shape ∧ IsSpelled words t := by
  constructor
  · rintro rfl
    exact ⟨rfl, rfl, pointeeBase_baseTypeOf _ _⟩
  · rintro ⟨rfl, spelled⟩
    obtain ⟨base, shape, spelling⟩ := t
    rw [typeOf, pointeeBase_baseTypeOf, ← spelled.base, ← spelled.spelling]

/-- A text is read by its tokens, their shape and their words. -/
theorem parseType_eq (text : String) :
    parseType text = do
      let tokens ← (tokenize text.toList).mapError (.unexpected · text)
      let shape ← (classify tokens).mapError (.shape · text)
      return typeOf (wordsOf tokens) shape := by
  rw [parseType, outlineOf, tokensOf]
  cases tokenize text.toList with
  | error c => rfl
  | ok tokens =>
      cases taken : Outline.of tokens with
      | error fault =>
          have refused : classify tokens = .error fault := by
            rw [classify, taken]
            rfl
          simp only [Except.mapError, bind, Except.bind, taken, refused]
      | ok outline =>
          have shaped : classify tokens = outline.shape := by
            rw [classify, taken]
            rfl
          obtain ⟨rfl, -, wordless⟩ := Outline.of_eq_ok_iff.1 taken
          simp only [Except.mapError, bind, Except.bind, taken, shaped, wordsOf_tokens wordless]
          cases outline.shape with
          | error fault => rfl
          | ok shape => rfl

/-- A text describes the type that its tokens are arranged as. -/
theorem parseType_eq_ok_iff {text : String} {t : TypeRef} :
    parseType text = .ok t ↔ ∃ tokens, tokenize text.toList = .ok tokens ∧
      Arranged (tokens.map Token.kind) t.shape ∧ IsSpelled (wordsOf tokens) t := by
  simp only [parseType_eq, bind_eq_ok_iff, mapError_eq_ok_iff, classify_eq_ok_iff]
  apply exists_congr
  intro tokens
  apply and_congr_right
  intro _
  constructor
  · rintro ⟨shape, arranged, made⟩
    cases made
    obtain ⟨-, spelled⟩ := eq_typeOf_iff.1 rfl
    exact ⟨arranged, spelled⟩
  · rintro ⟨arranged, spelled⟩
    exact ⟨t.shape, arranged, congrArg Except.ok (eq_typeOf_iff.2 ⟨rfl, spelled⟩).symm⟩

/-- A text is refused for one of its characters or for the arrangement of its tokens. -/
theorem parseType_eq_error_iff {text : String} {error : DeclarationError} :
    parseType text = .error error ↔
      (∃ c, tokenize text.toList = .error c ∧ error = .unexpected c text) ∨
      ∃ tokens fault, tokenize text.toList = .ok tokens ∧ classify tokens = .error fault ∧
        error = .shape fault text := by
  rw [parseType_eq]
  cases tokenize text.toList with
  | error c => simp [Except.mapError, bind, Except.bind, eq_comm]
  | ok tokens =>
      cases shaped : classify tokens with
      | error fault => simp [Except.mapError, bind, Except.bind, shaped, eq_comm]
      | ok shape => simp [Except.mapError, bind, Except.bind, shaped, pure, Except.pure]

theorem outlineOf_eq_ok_iff {text : String} {outline : Outline} :
    outlineOf text = .ok outline ↔
      ∃ tokens, tokensOf text = .ok tokens ∧ Outline.of tokens = .ok outline := by
  simp only [outlineOf, bind_eq_ok_iff, mapError_eq_ok_iff]

/-- A text that is given for the spelling is read for its words alone. -/
theorem parseType_some_eq_ok_iff {text verbatim : String} {t : TypeRef} :
    parseType text (some verbatim) = .ok t ↔ ∃ u outline, parseType text = .ok u ∧
      outlineOf verbatim = .ok outline ∧
      t = { u with spelling := " ".intercalate outline.words } := by
  simp only [parseType, bind_eq_ok_iff, map_eq_ok_iff]
  constructor
  · rintro ⟨outline, taken, shape, shaped, _, ⟨spelled, apart, rfl⟩, made⟩
    cases made
    exact ⟨_, spelled, ⟨outline, taken, shape, shaped, _, rfl, rfl⟩, apart, rfl⟩
  · rintro ⟨u, spelled, ⟨outline, taken, shape, shaped, _, own, made⟩, apart, rfl⟩
    cases own
    cases made
    exact ⟨outline, taken, shape, shaped, _, ⟨spelled, apart, rfl⟩, rfl⟩

/-- **Exactly the seven arrangements are types.** -/
theorem parseType_arranged :
    (∀ (text : String) (t : TypeRef), parseType text = .ok t ↔
      ∃ tokens, tokenize text.toList = .ok tokens ∧
        Arranged (tokens.map Token.kind) t.shape ∧ IsSpelled (wordsOf tokens) t) ∧
    (∀ (text : String) (error : DeclarationError), parseType text = .error error ↔
      (∃ c, tokenize text.toList = .error c ∧ error = .unexpected c text) ∨
      ∃ tokens fault, tokenize text.toList = .ok tokens ∧ classify tokens = .error fault ∧
        error = .shape fault text) ∧
    ∀ written : List (Token.Kind × String),
      (∀ shape, classify (written.map fun token => Token.ofKind token.1 token.2) = .ok shape ↔
        Arranged (written.map Prod.fst) shape) ∧
      ((∃ fault, classify (written.map fun token => Token.ofKind token.1 token.2) =
          .error fault) ↔
        ∀ shape, ¬ Arranged (written.map Prod.fst) shape) := by
  refine ⟨fun text t => parseType_eq_ok_iff, fun text error => parseType_eq_error_iff, ?_⟩
  intro written
  have kinds : (written.map fun token => Token.ofKind token.1 token.2).map Token.kind =
      written.map Prod.fst := by
    rw [List.map_map]
    apply List.map_congr_left
    intro token _
    exact Token.kind_ofKind token.1 token.2
  constructor
  · intro shape
    rw [classify_eq_ok_iff, kinds]
  · rw [exists_classify_eq_error_iff, kinds]

end GLBindings.Declaration
