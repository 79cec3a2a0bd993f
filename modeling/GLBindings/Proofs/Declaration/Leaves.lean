/-
# Types with leaves of their own

In `<param>const <ptype>GLchar</ptype> *<name>path</name></param>` the keyword stands in a leaf.
For its meaning it is read without the namespace in front, for its spelling as it is written, so the
type of a declaration is put together and read twice.  Where every leaf is a keyword that runs into
nothing beside it (`LeavesApart`), both texts are read as the same pieces (`piecesOf`), which are
the tokens of the texts between the leaves and the leaves themselves (`tokenize_typeText`).  So the
second text has tokens whenever the first has, of the same kinds, and a declaration is read whenever
the first text is a type: its type is that type, spelled with the leaves as they are written
(`parse_of_leavesApart`).
-/
import GLBindings.Proofs.Declaration.Layout

namespace GLBindings.Declaration

open Text (isIdentifierChar isIdentifierStart)
open Xml (Element Node)

set_option autoImplicit false

/-! ## Leaves -/

/-- The text of a type in some content, with its leaves written so. -/
def typeText (leaf : String → String) (content : List Node) : String :=
  String.join (content.map (typeTextOf leaf))

/-- The word is an ASCII identifier other than `const`. -/
def IsKeyword (w : String) : Prop := isIdentifier w.toList = true ∧ w ≠ "const"

instance (w : String) : Decidable (IsKeyword w) := inferInstanceAs (Decidable (_ ∧ _))

/-- The leaf that a piece of content is, as it is written but for blanks around it. -/
def leafOf? : Node → Option String
  | .text _ => none
  | .element e => if e.name = "name" then none else some (Text.trim e.text)

/-- Between these contents the node is no leaf, or it is a keyword without its namespace, and no
ASCII letter, digit or underscore stands right before it or right behind it in the type text. -/
def StandsApart (before : List Node) (node : Node) (after : List Node) : Prop :=
  ∀ keyword ∈ leafOf? node, IsKeyword (stripNamespace keyword) ∧
    (∀ c ∈ (typeText stripNamespace before).toList.getLast?, isIdentifierChar c = false) ∧
    ∀ c ∈ (typeText stripNamespace after).toList.head?, isIdentifierChar c = false

/-- Of all characters only the one that is there is looked at. -/
instance decidableOutside (c? : Option Char) :
    Decidable (∀ c ∈ c?, isIdentifierChar c = false) :=
  decidable_of_iff (c?.all (fun c => !isIdentifierChar c) = true) (by simp [Option.all_eq_true])

instance (before : List Node) (node : Node) (after : List Node) :
    Decidable (StandsApart before node after) :=
  inferInstanceAs (Decidable (∀ keyword ∈ leafOf? node, _ ∧ _ ∧ _))

/-- Every leaf in the content is a keyword that runs into nothing beside it. -/
def LeavesApart (content : List Node) : Prop :=
  ∀ before node after, content = before ++ node :: after → StandsApart before node after

theorem leavesApart_iff {content : List Node} :
    LeavesApart content ↔ ∀ i : Fin content.length,
      StandsApart (content.take i) content[i] (content.drop (i + 1)) := by
  constructor
  · intro apart i
    apply apart
    rw [Fin.getElem_fin, List.getElem_cons_drop, List.take_append_drop]
  · rintro apart before node after rfl
    have here := apart ⟨before.length, by simp⟩
    simpa using here

instance (content : List Node) : Decidable (LeavesApart content) :=
  decidable_of_iff _ leavesApart_iff.symm

/-- A token of some text, or a leaf. -/
inductive Piece where
  | token (t : Token)
  | leaf (keyword : String)
  deriving DecidableEq

namespace Piece

/-- The token as which a piece is read if leaves are written so. -/
def read (leaf : String → String) : Piece → Token
  | .token t => t
  | .leaf keyword => .word (leaf keyword)

def leaf? : Piece → Option String
  | .token _ => none
  | .leaf keyword => some keyword

theorem kind_read (leaf other : String → String) (piece : Piece) :
    (piece.read leaf).kind = (piece.read other).kind := by
  cases piece <;> rfl

end Piece

/-- The pieces of some content: its leaves, and the tokens of the texts between them.  In front of
it stands the text that follows the last leaf so far. -/
def piecesOf (front : List Char) : List Node → Except Char (List Piece)
  | [] => (tokenize front).map (List.map .token)
  | .text s :: rest => piecesOf (front ++ s.toList) rest
  | .element e :: rest =>
      if e.name = "name" then piecesOf front rest
      else do
        let tokens ← tokenize front
        let pieces ← piecesOf [] rest
        return tokens.map .token ++ .leaf (Text.trim e.text) :: pieces

/-! ## Keywords -/

theorem tokenize_keyword {w : String} (keyword : IsKeyword w) :
    tokenize w.toList = .ok [.word w] := by
  rw [tokenize_identifier keyword.1, Token.ofIdentifier_of_ne_const keyword.2]

/-- A keyword with its namespace is a keyword as well. -/
theorem isKeyword_of_stripNamespace {w : String} (keyword : IsKeyword (stripNamespace w)) :
    IsKeyword w := by
  rw [stripNamespace] at keyword
  split at keyword
  · rename_i rest spelled
    obtain ⟨c, more, same, -, inside⟩ := isIdentifier_eq_true_iff.1 keyword.1
    rw [String.toList_ofList] at same
    constructor
    · rw [spelled, isIdentifier_eq_true_iff]
      refine ⟨'G', 'L' :: rest, rfl, by decide, ?_⟩
      rw [same, List.forall_mem_cons, List.forall_mem_cons]
      exact ⟨by decide, by decide, inside⟩
    · rintro rfl
      cases spelled
  · exact keyword

/-! ## Content -/

theorem toList_typeText_cons (leaf : String → String) (node : Node) (content : List Node) :
    (typeText leaf (node :: content)).toList =
      (typeTextOf leaf node).toList ++ (typeText leaf content).toList := by
  rw [typeText, typeText, String.toList_join, String.toList_join, List.map_cons, List.flatMap_cons]

theorem toList_typeText_append (leaf : String → String) (content more : List Node) :
    (typeText leaf (content ++ more)).toList =
      (typeText leaf content).toList ++ (typeText leaf more).toList := by
  rw [typeText, typeText, typeText, String.toList_join, String.toList_join, String.toList_join,
    List.map_append, List.flatMap_append]

theorem typeTextOf_name {leaf : String → String} {e : Element} (name : e.name = "name") :
    typeTextOf leaf (.element e) = "" := by
  rw [typeTextOf, if_pos name]

theorem typeTextOf_leaf {leaf : String → String} {e : Element} (other : e.name ≠ "name") :
    typeTextOf leaf (.element e) = leaf (Text.trim e.text) := by
  rw [typeTextOf, if_neg other]

theorem leafOf?_of_ne {e : Element} (other : e.name ≠ "name") :
    leafOf? (.element e) = some (Text.trim e.text) := by
  rw [leafOf?, if_neg other]

/-- What follows a leaf goes on with no run, however leaves are written: it goes on with text. -/
theorem head?_typeText (leaf : String → String) {content : List Node}
    (keywords : ∀ node ∈ content, ∀ keyword ∈ leafOf? node, IsKeyword (stripNamespace keyword))
    (other : ∀ c ∈ (typeText stripNamespace content).toList.head?, isIdentifierChar c = false) :
    ∀ c ∈ (typeText leaf content).toList.head?, isIdentifierChar c = false := by
  induction content with
  | nil => exact other
  | cons node content ih =>
      have later := ih fun node member => keywords node (List.mem_cons_of_mem _ member)
      rw [toList_typeText_cons] at other ⊢
      cases node with
      | text s =>
          rw [typeTextOf] at other ⊢
          cases same : s.toList with
          | nil =>
              rw [same] at other
              exact later other
          | cons c more =>
              rw [same] at other
              exact other
      | element e =>
          by_cases name : e.name = "name"
          · rw [typeTextOf_name name] at other ⊢
            exact later other
          · -- a leaf would go on with its own first letter
            rw [typeTextOf_leaf name] at other
            obtain ⟨c, more, same, -, inside⟩ :=
              isIdentifier_eq_true_iff.1
                (keywords _ List.mem_cons_self _ (leafOf?_of_ne name)).1
            have outside := other c (by rw [same]; rfl)
            rw [inside c List.mem_cons_self] at outside
            cases outside

/-- The leaves among the pieces are those of the content, in order. -/
theorem leaves_of_piecesOf {front : List Char} {content : List Node} {pieces : List Piece}
    (made : piecesOf front content = .ok pieces) :
    pieces.filterMap Piece.leaf? = content.filterMap leafOf? := by
  have no_leaves : ∀ tokens : List Token,
      (tokens.map Piece.token).filterMap Piece.leaf? = [] := by
    intro tokens
    rw [List.filterMap_map, List.filterMap_eq_nil_iff]
    intro t _
    rfl
  fun_induction piecesOf front content generalizing pieces with
  | case1 front =>
      obtain ⟨tokens, -, rfl⟩ := map_eq_ok_iff.1 made
      exact no_leaves tokens
  | case2 front s rest ih => exact ih made
  | case3 front e rest name ih =>
      rw [List.filterMap_cons_none (by rw [leafOf?, if_pos name])]
      exact ih made
  | case4 front e rest other ih =>
      simp only [bind_eq_ok_iff] at made
      obtain ⟨tokens, -, others, later, same⟩ := made
      cases same
      rw [List.filterMap_append, no_leaves, List.nil_append,
        List.filterMap_cons_some (show Piece.leaf? (.leaf _) = some _ from rfl),
        List.filterMap_cons_some (leafOf?_of_ne other), ih later]

/-! ## Both texts have the same pieces -/

theorem LeavesApart.isKeyword {content : List Node} (apart : LeavesApart content) {node : Node}
    (member : node ∈ content) : ∀ keyword ∈ leafOf? node, IsKeyword (stripNamespace keyword) := by
  intro keyword leaf
  obtain ⟨before, after, split⟩ := List.append_of_mem member
  exact (apart before node after split keyword leaf).1

theorem getLast?_of_suffix {front all : List Char} (behind : front <:+ all)
    (other : ∀ c ∈ all.getLast?, isIdentifierChar c = false) :
    ∀ c ∈ front.getLast?, isIdentifierChar c = false := by
  obtain ⟨first, rfl⟩ := behind
  cases front with
  | nil => simp
  | cons d front => rwa [List.getLast?_append_of_ne_nil _ (List.cons_ne_nil d front)] at other

theorem map_read_token (leaf : String → String) (tokens : List Token) :
    (tokens.map Piece.token).map (Piece.read leaf) = tokens := by
  rw [List.map_map]
  exact List.map_id tokens

/-- A leaf that runs into nothing beside it is a token of its own. -/
theorem tokenize_around_keyword {front rest : List Char} {w : String} (keyword : IsKeyword w)
    (ends : ∀ c ∈ front.getLast?, isIdentifierChar c = false)
    (begins : ∀ c ∈ rest.head?, isIdentifierChar c = false) :
    tokenize (front ++ (w.toList ++ rest)) = do
      let tokens ← tokenize front
      let others ← tokenize rest
      return tokens ++ .word w :: others := by
  rw [tokenize_append_of_apart (apart_of_getLast? ends), tokenizeBoth,
    tokenize_append_of_apart (apart_of_head? begins), tokenizeBoth, tokenize_keyword keyword]
  cases tokenize front with
  | error c => rfl
  | ok tokens => cases tokenize rest <;> rfl

/-- Reading goes on through the content leaf by leaf: `before` has been passed, and `front` is the
text behind the last leaf in it. -/
theorem tokenize_append_typeText {leaf : String → String} {content : List Node}
    (apart : LeavesApart content)
    (keywords : ∀ node ∈ content, ∀ keyword ∈ leafOf? node, IsKeyword (leaf keyword))
    {before rest : List Node} {front : List Char} (split : content = before ++ rest)
    (behind : front <:+ (typeText stripNamespace before).toList) :
    tokenize (front ++ (typeText leaf rest).toList) =
      (piecesOf front rest).map (List.map (Piece.read leaf)) := by
  induction rest generalizing before front with
  | nil =>
      have nothing : (typeText leaf []).toList = [] := rfl
      rw [piecesOf, nothing, List.append_nil]
      cases tokenize front with
      | error c => rfl
      | ok tokens => exact congrArg Except.ok (map_read_token leaf tokens).symm
  | cons node rest ih =>
      have split' : content = (before ++ [node]) ++ rest := by rw [split, List.append_assoc]; rfl
      have passed : (typeText stripNamespace (before ++ [node])).toList =
          (typeText stripNamespace before).toList ++ (typeTextOf stripNamespace node).toList := by
        rw [toList_typeText_append, toList_typeText_cons]
        exact congrArg _ (List.append_nil _)
      rw [toList_typeText_cons]
      cases node with
      | text s =>
          -- The text joins what stands behind the last leaf, and no token is taken yet.
          obtain ⟨first, hfirst⟩ := behind
          rw [piecesOf, ← List.append_assoc]
          refine ih split' ⟨first, ?_⟩
          rw [passed, ← hfirst, List.append_assoc]
          rfl
      | element e =>
          by_cases name : e.name = "name"
          · rw [piecesOf, if_pos name, typeTextOf_name name]
            rw [typeTextOf_name name] at passed
            refine ih split' ?_
            rwa [passed, String.toList_empty, List.append_nil]
          · -- Nothing runs into the leaf, so the text in front of it is read by itself.
            obtain ⟨-, ends, begins⟩ := apart before _ rest split _ (leafOf?_of_ne name)
            have inside : ∀ other ∈ rest, other ∈ content := by
              intro other member
              rw [split']
              exact List.mem_append_right _ member
            have begins' := head?_typeText leaf
              (fun other member => apart.isKeyword (inside other member)) begins
            have keyword := keywords (.element e) (by rw [split]; simp) _ (leafOf?_of_ne name)
            have later := ih split' (List.nil_suffix (l := _))
            rw [List.nil_append] at later
            rw [typeTextOf_leaf name,
              tokenize_around_keyword keyword (getLast?_of_suffix behind ends) begins', later,
              piecesOf, if_neg name]
            cases tokenize front with
            | error c => rfl
            | ok tokens =>
                cases piecesOf [] rest with
                | error c => rfl
                | ok pieces =>
                    refine congrArg Except.ok ?_
                    rw [List.map_append, map_read_token]
                    rfl

/-- **With and without namespaces a type text is read as the same pieces.** -/
theorem tokenize_typeText {content : List Node} (apart : LeavesApart content) :
    tokenize (typeText stripNamespace content).toList =
        (piecesOf [] content).map (List.map (Piece.read stripNamespace)) ∧
      tokenize (typeText id content).toList =
        (piecesOf [] content).map (List.map (Piece.read id)) := by
  have whole : content = [] ++ content := rfl
  have nothing : [] <:+ (typeText stripNamespace []).toList := List.nil_suffix
  have keywords := fun node (member : node ∈ content) => apart.isKeyword member
  constructor
  · exact tokenize_append_typeText apart keywords whole nothing
  · have keywords' : ∀ node ∈ content, ∀ keyword ∈ leafOf? node, IsKeyword (id keyword) :=
      fun node member keyword leaf =>
        isKeyword_of_stripNamespace (keywords node member keyword leaf)
    exact tokenize_append_typeText apart keywords' whole nothing

/-! ## Types -/

/-- The token lists are read from the same pieces of the content, the second with its leaves as they
are written. -/
structure ReadAlike (content : List Node) (tokens verbatim : List Token) : Prop where
  kinds : verbatim.map Token.kind = tokens.map Token.kind
  pieces : ∃ pieces, piecesOf [] content = .ok pieces ∧
    pieces.filterMap Piece.leaf? = content.filterMap leafOf? ∧
    tokens = pieces.map (Piece.read stripNamespace) ∧ verbatim = pieces.map (Piece.read id)

theorem readAlike_of_piecesOf {content : List Node} {pieces : List Piece}
    (made : piecesOf [] content = .ok pieces) :
    ReadAlike content (pieces.map (Piece.read stripNamespace)) (pieces.map (Piece.read id)) where
  kinds := by
    rw [List.map_map, List.map_map]
    exact List.map_congr_left fun piece _ => Piece.kind_read _ _ piece
  pieces := ⟨pieces, made, leaves_of_piecesOf made, rfl, rfl⟩

theorem split_eq_ok {e : Element} (named : (declaredName e).getD "" ≠ "") :
    split e = .ok {
      name := (declaredName e).getD ""
      typeText := typeText stripNamespace e.content
      verbatim := typeText id e.content } := by
  rw [split]
  split
  · rename_i nameless
    exact absurd nameless named
  · rfl

/-- The type is that of the text without namespaces, spelled in the words of the text as written. -/
theorem parse_eq_ok_iff {e : Element} (named : (declaredName e).getD "" ≠ "") {type : TypeRef}
    {name : String} :
    parse e = .ok (type, name) ↔ name = (declaredName e).getD "" ∧ ∃ t outline,
      parseType (typeText stripNamespace e.content) = .ok t ∧
      outlineOf (typeText id e.content) = .ok outline ∧
      type = { t with spelling := " ".intercalate outline.words } := by
  simp only [parse, split_eq_ok named, bind_eq_ok_iff, ← parseType_some_eq_ok_iff]
  constructor
  · rintro ⟨parts, same, _, described, made⟩
    cases same
    cases made
    exact ⟨rfl, described⟩
  · rintro ⟨rfl, described⟩
    exact ⟨_, rfl, type, described, rfl⟩

/-- Where leaves stand apart, both texts are taken to pieces alike, or both refused. -/
theorem tokensOf_typeText {content : List Node} (apart : LeavesApart content) :
    (∀ tokens, tokensOf (typeText stripNamespace content) = .ok tokens ↔
      ∃ pieces, piecesOf [] content = .ok pieces ∧
        pieces.map (Piece.read stripNamespace) = tokens) ∧
    ∀ verbatim, tokensOf (typeText id content) = .ok verbatim ↔
      ∃ pieces, piecesOf [] content = .ok pieces ∧ pieces.map (Piece.read id) = verbatim := by
  obtain ⟨stripped, kept⟩ := tokenize_typeText apart
  simp only [tokensOf, mapError_eq_ok_iff, stripped, kept, map_eq_ok_iff, implies_true, and_self]

/-- The words of a text that is put together of stars, consts and words that stand together. -/
theorem words_of_outlineOf {text : String} {outline : Outline} {tokens : List Token}
    (apart : outlineOf text = .ok outline) (taken : tokensOf text = .ok tokens) :
    outline.words = wordsOf tokens := by
  obtain ⟨_, taken', whole⟩ := outlineOf_eq_ok_iff.1 apart
  cases taken.symm.trans taken'
  obtain ⟨rfl, -, wordless⟩ := Outline.of_eq_ok_iff.1 whole
  exact (wordsOf_tokens wordless).symm

/-- Where the one text is a type, the other can be taken apart as well, since it is arranged in the
same way. -/
theorem exists_outlineOf_typeText {content : List Node} (apart : LeavesApart content) {t : TypeRef}
    (described : parseType (typeText stripNamespace content) = .ok t) :
    ∃ outline pieces, outlineOf (typeText id content) = .ok outline ∧
      piecesOf [] content = .ok pieces ∧
      outline.words = wordsOf (pieces.map (Piece.read id)) := by
  obtain ⟨stripped, kept⟩ := tokensOf_typeText apart
  obtain ⟨tokens, taken, arranged, -⟩ := parseType_eq_ok_iff.1 described
  obtain ⟨pieces, made, rfl⟩ := (stripped tokens).1 (mapError_eq_ok_iff.2 taken)
  rw [← (readAlike_of_piecesOf made).kinds] at arranged
  obtain ⟨outline, whole, -⟩ := arranged.exists_outline
  have verbatim := (kept _).2 ⟨pieces, made, rfl⟩
  have taken' := outlineOf_eq_ok_iff.2 ⟨_, verbatim, whole⟩
  exact ⟨outline, pieces, taken', made, words_of_outlineOf taken' verbatim⟩

/-- **A declaration whose leaves stand apart is read whenever its type text is, and spelled with the
leaves as they are written.** -/
theorem parse_of_leavesApart {e : Element} (named : (declaredName e).getD "" ≠ "")
    (apart : LeavesApart e.content) :
    ∃ parts, split e = .ok parts ∧
      ((∃ tokens, tokensOf parts.typeText = .ok tokens) ↔
        ∃ verbatim, tokensOf parts.verbatim = .ok verbatim) ∧
      (∀ tokens verbatim, tokensOf parts.typeText = .ok tokens →
        tokensOf parts.verbatim = .ok verbatim → ReadAlike e.content tokens verbatim) ∧
      ((∃ result, parse e = .ok result) ↔ ∃ t, parseType parts.typeText = .ok t) ∧
      ∀ type name, parse e = .ok (type, name) → name = parts.name ∧
        ∃ t pieces, parseType parts.typeText = .ok t ∧ piecesOf [] e.content = .ok pieces ∧
          type = { t with
            spelling := " ".intercalate (wordsOf (pieces.map (Piece.read id))) } := by
  obtain ⟨stripped, kept⟩ := tokensOf_typeText apart
  have separated := split_eq_ok named
  refine ⟨_, separated, ?_, ?_, ?_, ?_⟩
  · simp only [stripped, kept]
    constructor
    · rintro ⟨_, pieces, made, -⟩
      exact ⟨_, pieces, made, rfl⟩
    · rintro ⟨_, pieces, made, -⟩
      exact ⟨_, pieces, made, rfl⟩
  · intro tokens verbatim taken taken'
    obtain ⟨pieces, made, rfl⟩ := (stripped tokens).1 taken
    obtain ⟨pieces', made', rfl⟩ := (kept verbatim).1 taken'
    cases made.symm.trans made'
    exact readAlike_of_piecesOf made
  · constructor
    · rintro ⟨⟨type, name⟩, parsed⟩
      obtain ⟨-, t, -, described, -⟩ := (parse_eq_ok_iff named).1 parsed
      exact ⟨t, described⟩
    · rintro ⟨t, described⟩
      obtain ⟨outline, -, taken, -⟩ := exists_outlineOf_typeText apart described
      exact ⟨_, (parse_eq_ok_iff named).2 ⟨rfl, t, outline, described, taken, rfl⟩⟩
  · intro type name parsed
    obtain ⟨rfl, t, outline, described, taken, rfl⟩ := (parse_eq_ok_iff named).1 parsed
    obtain ⟨outline', pieces, taken', made, words⟩ := exists_outlineOf_typeText apart described
    cases taken.symm.trans taken'
    exact ⟨rfl, t, pieces, described, made, by rw [words]⟩

/-! ## A declaration with two leaves -/

/-- The declaration `const struct <ptype> GLfoo </ptype>*<name>old</name>const*<name>x</name>`. -/
def sampleDeclaration : Element where
  name := "param"
  attributes := []
  content := [
    .text "const struct ",
    .element ⟨"ptype", [], [.text " GLfoo "]⟩,
    .text " ",
    .element ⟨"ptype", [], [.text "GLsizei"]⟩,
    .text "*",
    .element ⟨"name", [], [.text "old"]⟩,
    .text "const*",
    .element ⟨"name", [], [.text "x"]⟩]

def samplePieces : List Piece := [
  .token .const, .token (.word "struct"), .leaf "GLfoo", .leaf "GLsizei", .token .star,
  .token .const, .token .star]

theorem parse_of_leavesApart_sample :
    (declaredName sampleDeclaration).getD "" ≠ "" ∧ LeavesApart sampleDeclaration.content ∧
      ∃ parts, split sampleDeclaration = .ok parts ∧
        parts.typeText = "const struct foo sizei*const*" ∧
        parse sampleDeclaration = .ok ({
          base := .unrecognized
          shape := .pointerToConstPointerToConst
          spelling := "struct GLfoo GLsizei" }, "x") := by
  have named : (declaredName sampleDeclaration).getD "" ≠ "" := by decide +kernel
  have apart : LeavesApart sampleDeclaration.content := by decide +kernel
  have cut : piecesOf [] sampleDeclaration.content = .ok samplePieces := by decide +kernel
  have bare : parseType "const struct foo sizei*const*" = .ok {
      base := .unrecognized
      shape := .pointerToConstPointerToConst
      spelling := "struct foo sizei" } := by decide +kernel
  obtain ⟨parts, separated, -, -, succeeds, spelled⟩ := parse_of_leavesApart named apart
  obtain ⟨text, name⟩ : parts.typeText = "const struct foo sizei*const*" ∧ parts.name = "x" := by
    rw [split_eq_ok named] at separated
    cases separated
    decide +kernel
  rw [text] at succeeds spelled
  obtain ⟨⟨type, declared⟩, parsed⟩ := succeeds.2 ⟨_, bare⟩
  obtain ⟨rfl, t, pieces, described, made, rfl⟩ := spelled type declared parsed
  cases bare.symm.trans described
  cases cut.symm.trans made
  refine ⟨named, apart, parts, separated, text, parsed.trans ?_⟩
  rw [name]
  decide +kernel

end GLBindings.Declaration
