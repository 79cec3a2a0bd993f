/-
# From type text to type name

A star in a type text makes the type a pointer, whatever stands around it, and every pointer goes by
one name.  A text without stars has no consts either: it is words alone, and they name the type.  A
known keyword goes by the ctypes class of its base, and an unknown one by itself.

* `star_mem_iff`: a star in a text is a token of it.
* `Arranged.plain_iff`: an arrangement is plain when it has no star, and then it has no const.
* `named_of_parseType`: both together, for every text that describes a type.
-/
import GLBindings.Proofs.Bindings.Bound
import GLBindings.Proofs.Declaration.WellFormed

namespace GLBindings

set_option autoImplicit false

namespace Declaration

/-! ## Stars -/

theorem isBlank_star : Text.isBlank '*' = false := by decide

theorem isWord_star : Text.isWord '*' = false := by decide +kernel

/-- Only the star is written with a star. -/
theorem Token.IsLexeme.star_mem_text_iff {t : Token} (lexeme : t.IsLexeme) :
    '*' ∈ t.text.toList ↔ t = .star := by
  cases t with
  | star => exact iff_of_true (by decide) rfl
  | const => exact iff_of_false (by decide) (by decide)
  | word w =>
      refine iff_of_false ?_ (by simp)
      intro inside
      have word := lexeme.isWord.2 '*' inside
      rw [isWord_star] at word
      cases word

/-- A star in a text is a token of it. -/
theorem star_mem_iff {cs : List Char} {tokens : List Token} (taken : tokenize cs = .ok tokens) :
    '*' ∈ cs ↔ Token.star ∈ tokens := by
  have lexed := lexed_of_tokenize taken
  have lossless := congrArg String.toList lexed.lossless
  rw [String.toList_join, String.toList_ofList] at lossless
  have visible : '*' ∈ cs ↔ '*' ∈ cs.filter (!Text.isBlank ·) := by
    rw [List.mem_filter, isBlank_star, Bool.not_false, and_iff_left rfl]
  rw [visible, ← lossless, List.mem_flatMap]
  constructor
  · rintro ⟨_, written, inside⟩
    obtain ⟨t, member, rfl⟩ := List.mem_map.1 written
    rwa [← (lexed.lexemes t member).star_mem_text_iff.1 inside]
  · intro member
    exact ⟨"*", List.mem_map_of_mem member, by decide⟩

/-- An arrangement is plain when it has no star. -/
theorem Arranged.plain_iff {kinds : List Token.Kind} {shape : PointerShape}
    (arranged : Arranged kinds shape) : shape = .plain ↔ .star ∉ kinds := by
  cases arranged <;> simp [List.mem_replicate]

theorem Arranged.const_not_mem {kinds : List Token.Kind} (arranged : Arranged kinds .plain) :
    .const ∉ kinds := by
  cases arranged
  simp [List.mem_replicate]

theorem mem_iff_kind_mem {tokens : List Token} {t : Token} (wordless : t.isWord = false) :
    t ∈ tokens ↔ t.kind ∈ tokens.map Token.kind := by
  refine ⟨List.mem_map_of_mem, ?_⟩
  intro member
  obtain ⟨u, inside, same⟩ := List.mem_map.1 member
  rwa [← Token.eq_of_kind_eq wordless same]

/-! ## Keywords -/

theorem mem_keywords_of_lookup {keyword : String} {base : BaseType}
    (known : keywords.lookup keyword = some base) : (keyword, base) ∈ keywords := by
  obtain ⟨before, after, same, -⟩ := List.lookup_eq_some_iff.1 known
  rw [same]
  exact List.mem_append_right _ List.mem_cons_self

theorem recognized_of_mem_keywords : ∀ entry ∈ keywords, entry.2 ≠ .unrecognized := by decide

theorem void_of_mem_keywords : ∀ entry ∈ keywords, entry.2 = .void → entry.1 = "void" := by decide

/-- No other keyword than `void` names the type without values. -/
theorem lookup_eq_void_iff {keyword : String} :
    keywords.lookup keyword = some .void ↔ keyword = "void" := by
  constructor
  · intro known
    exact void_of_mem_keywords _ (mem_keywords_of_lookup known) rfl
  · rintro rfl
    decide

theorem lookup_none : keywords.lookup "None" = none := by decide

end Declaration

namespace Bindings

open Declaration

theorem baseCtype_eq_some_none_iff {base : BaseType} : baseCtype base = some "None" ↔ base = .void := by
  cases base <;> decide

/-! ## Names -/

/-- The type goes by the ctypes class of its keyword if that is known, and else by the keyword. -/
structure NamedBy (keyword : String) (t : TypeRef) : Prop where
  known : ∀ base, keywords.lookup keyword = some base →
    baseCtype base = some (ctype t) ∧ ctypeName t = ctype t
  unknown : keywords.lookup keyword = none → ctype t = keyword
  /-- There is no value of it where the keyword says so, in either language. -/
  void : isVoid t = true ↔ keyword = "void" ∨ keyword = "None"

theorem ctype_of_pointer {t : TypeRef} (pointer : t.shape ≠ .plain) : ctype t = "c_void_p" :=
  if_neg pointer

theorem ctype_of_plain {t : TypeRef} (plain : t.shape = .plain) :
    ctype t = (baseCtype t.base).getD t.spelling :=
  if_pos plain

/-- A name that ctypes or the language has is taken as it is. -/
theorem ctypeName_of_baseCtype {t : TypeRef} {base : BaseType}
    (named : baseCtype base = some (ctype t)) : ctypeName t = ctype t :=
  if_pos (known_of_baseCtype named)

/-- A type that is no pointer is named after the words that spell it. -/
theorem namedBy_of_isSpelled {words : List String} {t : TypeRef} (plain : t.shape = .plain)
    (spelled : IsSpelled words t) : NamedBy (" ".intercalate words) t := by
  have base := spelled.base
  rw [if_neg fun pointee => pointee.2 plain] at base
  cases known : keywords.lookup (" ".intercalate words) with
  | none =>
      have spelling : ctype t = " ".intercalate words := by
        rw [ctype_of_plain plain, base, known, ← spelled.spelling]
        rfl
      refine ⟨by simp [known], fun _ => spelling, ?_⟩
      rw [isVoid, beq_iff_eq, spelling, ← lookup_eq_void_iff, known, or_iff_right (by simp)]
  | some found =>
      have recognized := recognized_of_mem_keywords _ (mem_keywords_of_lookup known)
      obtain ⟨name, named⟩ := Option.ne_none_iff_exists'.1 (mt baseCtype_eq_none_iff.1 recognized)
      have classed : baseCtype found = some (ctype t) := by
        rw [ctype_of_plain plain, base, known, Option.getD_some, named]
        rfl
      have other : " ".intercalate words ≠ "None" := by
        intro same
        rw [same, lookup_none] at known
        cases known
      refine ⟨?_, by simp [known], ?_⟩
      · intro base' known'
        cases known.symm.trans known'
        exact ⟨classed, ctypeName_of_baseCtype classed⟩
      · rw [isVoid, beq_iff_eq, or_iff_left other, ← lookup_eq_void_iff, known,
          Option.some.injEq, ← baseCtype_eq_some_none_iff, classed, Option.some.injEq]

/-- **A text with stars describes a pointer, and one without goes by its words.** -/
theorem named_of_parseType {text : String} {t : TypeRef} (described : parseType text = .ok t) :
    ('*' ∈ text.toList → ctype t = "c_void_p" ∧ ctypeName t = "c_void_p" ∧ isVoid t = false) ∧
    ('*' ∉ text.toList → ∃ tokens, tokensOf text = .ok tokens ∧ Token.const ∉ tokens ∧
      NamedBy (" ".intercalate (wordsOf tokens)) t) := by
  obtain ⟨tokens, taken, arranged, spelled⟩ := parseType_eq_ok_iff.1 described
  have plain : t.shape = .plain ↔ '*' ∉ text.toList := by
    rw [star_mem_iff taken, mem_iff_kind_mem rfl]
    exact arranged.plain_iff
  constructor
  · intro star
    have pointer := ctype_of_pointer fun shape => plain.1 shape star
    refine ⟨pointer, ?_, ?_⟩
    · rw [ctypeName_of_known (pointer ▸ by decide), pointer]
    · rw [isVoid, pointer]
      decide
  · intro starless
    have shape := plain.2 starless
    rw [shape] at arranged
    refine ⟨tokens, mapError_eq_ok_iff.2 taken, ?_, namedBy_of_isSpelled shape spelled⟩
    rw [mem_iff_kind_mem rfl]
    exact arranged.const_not_mem

/-- A pointer to void, and a keyword that happens to be the name of no value. -/
theorem named_of_parseType_sample :
    (parseType "const void *const*" = .ok {
        base := .address, shape := .pointerToConstPointerToConst, spelling := "void" } ∧
      '*' ∈ "const void *const*".toList ∧
      ctypeName { base := .address, shape := .pointerToConstPointerToConst, spelling := "void" } =
        "c_void_p") ∧
    (parseType " None" = .ok { base := .unrecognized, spelling := "None" } ∧
      '*' ∉ " None".toList ∧ ∃ tokens, tokensOf " None" = .ok tokens ∧ Token.const ∉ tokens ∧
        NamedBy (" ".intercalate (wordsOf tokens))
          { base := .unrecognized, spelling := "None" }) := by
  have pointer : parseType "const void *const*" = .ok {
      base := .address, shape := .pointerToConstPointerToConst, spelling := "void" } := by
    decide +kernel
  have word : parseType " None" = .ok { base := .unrecognized, spelling := "None" } := by
    decide +kernel
  have star : '*' ∈ "const void *const*".toList := by decide
  have starless : '*' ∉ " None".toList := by decide
  exact ⟨⟨pointer, star, ((named_of_parseType pointer).1 star).2.1⟩,
    word, starless, (named_of_parseType word).2 starless⟩

end Bindings

end GLBindings
