/-
# Plain documents

A document that is written in UTF-8 without references, declarations, comments and namespaces says
what it means: its tags, in the order in which they are written, are those of one tree, and reading
it gives this tree back (`readDocument_utf8Bytes`).

* `foldlM_markup`: the tags of a plain element put that element in its place.
* `ofBytes_utf8Bytes`: the characters of such a document are the ones that were encoded.
* `referencesInside_eq_true`, `expandFrom_eq`, `affords_nil`: without references nothing is
  resolved, and nothing grows.
-/
import GLBindings.Xml.Document
import GLBindings.Proofs.FirstOccurrence

namespace GLBindings.Xml

set_option autoImplicit false

/-! ## Plain elements -/

/-- A name that stands in no namespace and declares none. -/
def isPlainName (name : String) : Bool := nameParts name = ("", name) && name ≠ "xmlns"

def writtenAttributes (attributes : List (String × String)) : List (String × List ValuePart) :=
  attributes.map fun (name, value) => (name, [.text value.toList])

mutual

def Element.markup : Element → List Markup
  | ⟨name, attributes, content⟩ =>
      .openTag name (writtenAttributes attributes) false :: contentMarkup content ++
        [.closeTag name]

def contentMarkup : List Node → List Markup
  | [] => []
  | .text s :: rest => .text s.toList :: contentMarkup rest
  | .element e :: rest => e.markup ++ contentMarkup rest

end

mutual

/-- An element with plain names, each attribute once, and no text that another text continues. -/
def Element.isPlain : Element → Bool
  | ⟨name, attributes, content⟩ =>
      isPlainName name && attributes.all (isPlainName ·.1) && (attributes.map Prod.fst).Nodup &&
        contentIsPlain false content

/-- Content in which every element is plain and no text is empty or continues another. -/
def contentIsPlain (afterText : Bool) : List Node → Bool
  | [] => true
  | .text s :: rest => !s.isEmpty && !afterText && contentIsPlain true rest
  | .element e :: rest => e.isPlain && contentIsPlain false rest

end

/-! ## Plain names -/

theorem nameParts_of_isPlainName {name : String} (plain : isPlainName name = true) :
    nameParts name = ("", name) := by
  simp only [isPlainName, Bool.and_eq_true, decide_eq_true_eq] at plain
  exact plain.1

theorem declared?_of_isPlainName {name : String} (plain : isPlainName name = true) :
    Scope.declared? name = none := by
  have parts := nameParts_of_isPlainName plain
  simp only [isPlainName, Bool.and_eq_true, decide_eq_true_eq] at plain
  rw [Scope.declared?, if_neg plain.2, parts]
  rfl

theorem attributeName_of_isPlainName {name : String} (plain : isPlainName name = true)
    (scope : Scope) : scope.attributeName name = some name := by
  rw [Scope.attributeName, nameParts_of_isPlainName plain]
  rfl

theorem elementName_of_isPlainName {name : String} (plain : isPlainName name = true) :
    Scope.initial.elementName name = some name := by
  rw [Scope.elementName, nameParts_of_isPlainName plain]
  rfl

/-- Plain attributes leave the scope as it is. -/
theorem extend_of_isPlainName {attributes : List (String × String)}
    (plain : ∀ pair ∈ attributes, isPlainName pair.1 = true) (scope : Scope) :
    scope.extend attributes = some scope := by
  rw [Scope.extend]
  induction attributes with
  | nil => rfl
  | cons pair rest ih =>
      obtain ⟨name, value⟩ := pair
      have none := declared?_of_isPlainName (plain (name, value) List.mem_cons_self)
      simp only [List.foldlM_cons, none]
      exact ih fun other member => plain other (List.mem_cons_of_mem _ member)

/-! ## From tags to trees -/

theorem resolve_text (doctype : Doctype) (cs : List Char) :
    doctype.resolve [.text cs] = some cs := by
  rw [Doctype.resolve, resolveParts, resolveParts]
  simp

theorem mapM_eq_self {α : Type} {f : α → Option α} {l : List α} (each : ∀ a ∈ l, f a = some a) :
    l.mapM f = some l := by
  induction l with
  | nil => rfl
  | cons a rest ih =>
      rw [List.mapM_cons, each a List.mem_cons_self,
        ih fun b member => each b (List.mem_cons_of_mem _ member)]
      rfl

theorem completeAttributes_written {attributes : List (String × String)} (element : String)
    (distinct : (attributes.map Prod.fst).Nodup) :
    Builder.completeAttributes {} element (writtenAttributes attributes) = some attributes := by
  have names : (writtenAttributes attributes).map Prod.fst = attributes.map Prod.fst := by
    rw [writtenAttributes, List.map_map]
    rfl
  have count : (writtenAttributes attributes).length = (attributes.map Prod.fst).length := by
    rw [← names, List.length_map]
  rw [Builder.completeAttributes, names, count, eraseDups_eq_self distinct, if_neg (not_not.2 rfl),
    writtenAttributes, List.mapM_map, mapM_eq_self]
  · simp [Doctype.defaults]
  · intro pair _
    simp [resolve_text, Doctype.normalise]

theorem start_written {builder : Builder} {name : String} {attributes : List (String × String)}
    (plain : isPlainName name = true)
    (plainAttributes : ∀ pair ∈ attributes, isPlainName pair.1 = true)
    (distinct : (attributes.map Prod.fst).Nodup)
    (scope : ∀ parent ∈ builder.begun.head?, parent.scope = Scope.initial) :
    builder.start {} name (writtenAttributes attributes) =
      some { written := name, name, attributes, scope := Scope.initial } := by
  have own : (attributes.filter fun pair => (Scope.declared? pair.1).isNone) = attributes := by
    rw [List.filter_eq_self]
    intro pair member
    rw [declared?_of_isPlainName (plainAttributes pair member)]
    rfl
  have named : (attributes.mapM fun pair => do
      return (← Scope.initial.attributeName pair.1, pair.2)) = some attributes := by
    apply mapM_eq_self
    intro pair member
    rw [attributeName_of_isPlainName (plainAttributes pair member)]
    rfl
  rw [Builder.start, completeAttributes_written name distinct]
  simp only [Option.bind_eq_bind, Option.bind_some, Option.pure_def,
    extend_of_isPlainName plainAttributes, own] at named ⊢
  cases begun : builder.begun with
  | nil =>
      simp [named, eraseDups_eq_self distinct, elementName_of_isPlainName plain]
  | cons parent outer =>
      have inherited : parent.scope = Scope.initial := scope parent (by rw [begun]; rfl)
      simp [inherited, named, eraseDups_eq_self distinct, elementName_of_isPlainName plain]

mutual

/-- The tags of a plain element put it in its place. -/
theorem foldlM_markup (e : Element) (outer : List OpenElement) (plain : e.isPlain = true)
    (scope : ∀ parent ∈ outer.head?, parent.scope = Scope.initial) :
    e.markup.foldlM (Builder.step {}) { begun := outer } = some (Builder.place e outer) := by
  obtain ⟨name, attributes, content⟩ := e
  simp only [Element.isPlain, Bool.and_eq_true, List.all_eq_true, decide_eq_true_eq] at plain
  obtain ⟨⟨⟨plainName, plainAttributes⟩, distinct⟩, plainContent⟩ := plain
  have start := @start_written { begun := outer } _ _ plainName plainAttributes distinct scope
  have opens : Builder.step {} { begun := outer }
      (.openTag name (writtenAttributes attributes) false) =
      some { begun := { written := name, name, attributes, scope := Scope.initial } :: outer } := by
    simp [Builder.step, start]
  rw [Element.markup, List.cons_append, List.foldlM_cons, opens, Option.bind_eq_bind,
    Option.bind_some, List.foldlM_append,
    foldlM_contentMarkup content _ outer false plainContent rfl (by simp)]
  simp [Builder.step, OpenElement.finish]

/-- The tags and texts of plain content fill the element that is open. -/
theorem foldlM_contentMarkup (content : List Node) (parent : OpenElement)
    (outer : List OpenElement) (afterText : Bool) (plain : contentIsPlain afterText content = true)
    (scope : parent.scope = Scope.initial)
    (before : afterText = false → ∀ s rest, parent.content ≠ .text s :: rest) :
    (contentMarkup content).foldlM (Builder.step {}) { begun := parent :: outer } =
      some { begun := { parent with content := content.reverse ++ parent.content } :: outer } := by
  cases content with
  | nil => rfl
  | cons node rest =>
      cases node with
      | text s =>
          simp only [contentIsPlain, Bool.and_eq_true, Bool.not_eq_true'] at plain
          obtain ⟨⟨filled, apart⟩, plainRest⟩ := plain
          -- No text came right before, so that this one stands on its own.
          have appended : appendText parent.content s = .text s :: parent.content := by
            unfold appendText
            split
            · rename_i earlier more held
              exact absurd held (before apart earlier more)
            · rw [if_neg (by simp [filled])]
          have takes : Builder.step {} { begun := parent :: outer } (.text s.toList) =
              some { begun := { parent with content := .text s :: parent.content } :: outer } := by
            simp [Builder.step, appended]
          rw [contentMarkup, List.foldlM_cons, takes, Option.bind_eq_bind, Option.bind_some,
            foldlM_contentMarkup rest { parent with content := .text s :: parent.content } outer
              true plainRest scope (by simp)]
          simp
      | element e =>
          simp only [contentIsPlain, Bool.and_eq_true] at plain
          rw [contentMarkup, List.foldlM_append,
            foldlM_markup e (parent :: outer) plain.1 (by simpa using scope), Option.bind_eq_bind,
            Option.bind_some, Builder.place,
            foldlM_contentMarkup rest { parent with content := .element e :: parent.content } outer
              false plain.2 scope (by simp)]
          simp

end

/-! ## Nothing to resolve -/

mutual

theorem ne_entity_of_mem_markup (e : Element) (entity : String) :
    ∀ item ∈ e.markup, item ≠ .entity entity := by
  obtain ⟨name, attributes, content⟩ := e
  intro item member
  rw [Element.markup, List.mem_append, List.mem_cons, List.mem_singleton] at member
  rcases member with (rfl | inside) | rfl
  · exact Markup.noConfusion
  · exact ne_entity_of_mem_contentMarkup content entity item inside
  · exact Markup.noConfusion

theorem ne_entity_of_mem_contentMarkup (content : List Node) (entity : String) :
    ∀ item ∈ contentMarkup content, item ≠ .entity entity := by
  intro item member
  cases content with
  | nil => cases member
  | cons node rest =>
      cases node with
      | text s =>
          rw [contentMarkup, List.mem_cons] at member
          rcases member with rfl | later
          · exact Markup.noConfusion
          · exact ne_entity_of_mem_contentMarkup rest entity item later
      | element e =>
          rw [contentMarkup, List.mem_append] at member
          rcases member with inside | later
          · exact ne_entity_of_mem_markup e entity item inside
          · exact ne_entity_of_mem_contentMarkup rest entity item later

end

namespace Markup

theorem referencesInside_eq_true (depth : Nat) {items : List Markup}
    (plain : ∀ entity, ∀ item ∈ items, item ≠ .entity entity) :
    referencesInside depth items = true := by
  fun_induction referencesInside depth items with
  | case1 => rfl
  | case2 entity rest => exact absurd rfl (plain entity _ List.mem_cons_self)
  | case3 depth name attributes rest ih =>
      exact ih fun entity item later => plain entity item (List.mem_cons_of_mem _ later)
  | case4 depth name rest ih =>
      exact ih fun entity item later => plain entity item (List.mem_cons_of_mem _ later)
  | case5 depth item rest _ _ _ ih =>
      exact ih fun entity item later => plain entity item (List.mem_cons_of_mem _ later)

/-- Without references there is nothing to expand. -/
theorem expandFrom_eq (entities : Entities) (before : List Markup) {items : List Markup}
    (plain : ∀ entity, ∀ item ∈ items, item ≠ .entity entity) :
    expandFrom entities before items = some (before.reverse ++ items) := by
  induction items generalizing before with
  | nil => rw [expandFrom, List.append_nil]
  | cons item rest ih =>
      have other : ∀ name, item = .entity name → False :=
        fun name same => plain name item List.mem_cons_self same
      have plainRest : ∀ entity, ∀ later ∈ rest, later ≠ .entity entity :=
        fun entity later member => plain entity later (List.mem_cons_of_mem _ member)
      rw [expandFrom.eq_3 _ _ _ _ other, ih (item :: before) plainRest]
      simp

end Markup

namespace Entities

theorem weigh_nil (depth : Nat) (weights : List (String × Nat)) (name : String) :
    Entities.weigh [] depth weights name = weights := by
  cases depth with
  | zero => rfl
  | succ depth => simp [weigh, replacement?]

theorem affords_nil (size : Nat) (text : List Char) : Entities.affords [] size text = true := by
  have weights : ∀ names : List String,
      names.foldl (Entities.weigh [] (List.length ([] : Entities) + 1)) [] = [] := by
    intro names
    induction names with
    | nil => rfl
    | cons name rest ih => rw [List.foldl_cons, weigh_nil, ih]
  have nothing : ∀ names : List String, total [] names = 0 := by
    intro names
    rw [total]
    induction names with
    | nil => rfl
    | cons name rest ih => exact ih
  have growth : Entities.growth [] text = 0 := by
    simp only [Entities.growth, weights, nothing]
  simp [affords, growth]

end Entities

/-! ## Decoding -/

def utf8Bytes (cs : List Char) : List UInt8 := cs.flatMap String.utf8EncodeChar

/-- What is written in UTF-8 is read back. -/
theorem decode_utf8Bytes (cs : List Char) : Encoding.decode .utf8 (utf8Bytes cs) = some cs := by
  have bytes : ByteArray.mk (utf8Bytes cs).toArray = cs.utf8Encode := by
    apply ByteArray.ext
    rw [List.utf8Encode, utf8Bytes]
    simp
  have valid : cs.utf8Encode.IsValidUTF8 := ⟨cs, rfl⟩
  have text : String.fromUTF8 cs.utf8Encode valid = String.ofList cs := by
    apply String.toByteArray_inj.1
    rw [String.toByteArray_ofList]
    rfl
  simp only [Encoding.decode, bytes, String.fromUTF8?, dif_pos valid, text]
  simp

theorem utf8EncodeChar_of_isAlpha {c : Char} (letter : c.isAlpha = true) :
    String.utf8EncodeChar c = [c.toNat.toUInt8] := by
  have code : c.toNat = c.val.toNat := rfl
  have bounds := Text.toNat_of_isAlpha letter
  apply String.utf8EncodeChar_eq_singleton
  have small : c.val ≤ 127 := UInt32.le_iff_toNat_le.2 (by simp; omega)
  simp [Char.utf8Size, small]

theorem detect_markup {second : UInt8} (nonzero : second ≠ 0) (rest : List UInt8) :
    Encoding.detect (0x3C :: second :: rest) = (.utf8, 0x3C :: second :: rest) := by
  unfold Encoding.detect
  split <;> simp_all

theorem normaliseLineEnds_eq (before : List Char) {cs : List Char} (plain : '\r' ∉ cs) :
    Source.normaliseLineEnds before cs = before.reverse ++ cs := by
  induction cs generalizing before with
  | nil => simp [Source.normaliseLineEnds]
  | cons c rest ih =>
      obtain ⟨other, later⟩ := not_or.1 (List.mem_cons.not.1 plain)
      have kept : c ≠ '\r' := Ne.symm other
      rw [Source.normaliseLineEnds, if_neg kept, ih _ later]
      · simp
      · intro _ same
        exact absurd same kept

/-! ## Reading -/

theorem Scanner.repeatUntil_of_done {α : Type} {done : List Char → Bool} {input : List Char}
    (ends : done input = true) (step : Scanner α) (alphabet : Alphabet) :
    repeatUntil done step alphabet input = some ([], input) := by
  cases input with
  | nil => simp [repeatUntil, repeatAlong, ends]
  | cons c rest => simp [repeatUntil, repeatAlong, ends]

theorem Scanner.discard_eq_some {α : Type} {scanner : Scanner α} {alphabet : Alphabet}
    {input rest : List Char} {result : α} (gives : scanner alphabet input = some (result, rest)) :
    (discard scanner : Scanner Unit) alphabet input = some ((), rest) := by
  show (scanner alphabet input).bind (fun found => some ((), found.2)) = _
  rw [gives]
  rfl

/-- Text that begins with a tag and holds no carriage return. -/
def isPlainText : List Char → Bool
  | '<' :: first :: rest =>
      first.isAlpha && ('<' :: first :: rest).all fun c => isDocumentChar c && c ≠ '\r'
  | _ => false

/-- Where a tag begins, no declaration does. -/
theorem not_isPrefixOf_tag {first second : Char} (letter : first.isAlpha = true)
    (mark : second.isAlpha = false) (front rest : List Char) :
    ('<' :: second :: front).isPrefixOf ('<' :: first :: rest) = false := by
  have other : second ≠ first := by
    rintro rfl
    rw [letter] at mark
    cases mark
  simp [List.isPrefixOf, other]

theorem read_of_tag {first : Char} (letter : first.isAlpha = true) (rest : List Char) :
    Declaration.read {} ('<' :: first :: rest) = some ({}, '<' :: first :: rest) := by
  have undeclared : "<?xml".toList.isPrefixOf ('<' :: first :: rest) = false :=
    not_isPrefixOf_tag letter (by decide) ['x', 'm', 'l'] rest
  simp only [Declaration.read, undeclared, Bool.false_and]
  rfl

/-- A document in UTF-8 that begins with a tag and has no carriage returns is read as it was
written. -/
theorem ofBytes_utf8Bytes {first : Char} {rest : List Char} (letter : first.isAlpha = true)
    (allowed : ∀ c ∈ '<' :: first :: rest, isDocumentChar c = true)
    (plain : '\r' ∉ '<' :: first :: rest) :
    Source.ofBytes false (utf8Bytes ('<' :: first :: rest)) = .ok {
      size := (utf8Bytes ('<' :: first :: rest)).length
      standalone := false
      alphabet := {}
      characters := '<' :: first :: rest } := by
  have bounds := Text.toNat_of_isAlpha letter
  have bytes : utf8Bytes ('<' :: first :: rest) =
      0x3C :: first.toNat.toUInt8 :: utf8Bytes rest := by
    simp only [utf8Bytes, List.flatMap_cons, utf8EncodeChar_of_isAlpha letter]
    rfl
  have code : first.toNat.toUInt8.toNat = first.toNat := by
    simp
    omega
  have nonzero : first.toNat.toUInt8 ≠ 0 := by
    intro zero
    rw [zero] at code
    simp at code
    omega
  have shown : Char.ofNat first.toNat.toUInt8.toNat = first := by rw [code, Char.ofNat_toNat]
  have decoded := decode_utf8Bytes ('<' :: first :: rest)
  rw [bytes] at decoded ⊢
  simp only [Source.ofBytes, detect_markup nonzero]
  have provisional :
      (Encoding.utf8.units (0x3C :: first.toNat.toUInt8 :: utf8Bytes rest)).map Char.ofNat =
        '<' :: first :: (utf8Bytes rest).map fun byte => Char.ofNat byte.toNat := by
    simp only [Encoding.units, List.map_cons, shown, List.map_map]
    rfl
  have undeclared := read_of_tag letter ((utf8Bytes rest).map fun byte => Char.ofNat byte.toNat)
  rw [provisional]
  simp only [Encoding.alphabet, undeclared]
  simp [orIllFormed, decoded, List.all_eq_true.2 allowed, normaliseLineEnds_eq [] plain, bind,
    Except.bind, pure, Except.pure]

theorem skipAsides_of_tag {first : Char} (letter : first.isAlpha = true) (alphabet : Alphabet)
    (rest : List Char) :
    skipAsides alphabet ('<' :: first :: rest) = some ((), '<' :: first :: rest) := by
  have comment : "<!--".toList.isPrefixOf ('<' :: first :: rest) = false :=
    not_isPrefixOf_tag letter (by decide) ['-', '-'] rest
  have instruction : "<?".toList.isPrefixOf ('<' :: first :: rest) = false :=
    not_isPrefixOf_tag letter (by decide) [] rest
  have tag : isSpace '<' = false := by decide
  apply Scanner.discard_eq_some
  apply Scanner.repeatUntil_of_done
  rw [comment, instruction]
  simp [tag]

theorem root?_of_tag {root : Element} {first : Char} {rest : List Char} {source : Source}
    (letter : first.isAlpha = true) (characters : source.characters = '<' :: first :: rest)
    (alphabet : source.alphabet = {}) (plainRoot : root.isPlain = true)
    (scanned : Markup.readAll.whole {} ('<' :: first :: rest) = some root.markup) :
    source.root? = some root := by
  have undeclared : "<!DOCTYPE".toList.isPrefixOf ('<' :: first :: rest) = false :=
    not_isPrefixOf_tag letter (by decide) ['D', 'O', 'C', 'T', 'Y', 'P', 'E'] rest
  have inside := Markup.referencesInside_eq_true 0 (ne_entity_of_mem_markup root)
  have expanded := Markup.expandFrom_eq [] [] (ne_entity_of_mem_markup root)
  have built := foldlM_markup root [] plainRoot (by simp)
  rw [Source.root?, characters, alphabet, skipAsides_of_tag letter]
  simp only [Option.bind_eq_bind, Option.bind_some, undeclared, Bool.false_eq_true, if_false,
    scanned, inside, Entities.affords_nil, Markup.expand, expanded, List.reverse_nil,
    List.nil_append, built]
  rfl

/-- **A plain document gives back the tree that it is written from.** -/
theorem readDocument_utf8Bytes {root : Element} {cs : List Char} (plainText : isPlainText cs = true)
    (plainRoot : root.isPlain = true) (scanned : Markup.readAll.whole {} cs = some root.markup) :
    readDocument (utf8Bytes cs) = .ok root := by
  unfold isPlainText at plainText
  split at plainText
  · rename_i first rest
    rw [Bool.and_eq_true, List.all_eq_true] at plainText
    obtain ⟨letter, each⟩ := plainText
    have allowed : ∀ c ∈ '<' :: first :: rest, isDocumentChar c = true := by
      intro c member
      exact (Bool.and_eq_true_iff.1 (each c member)).1
    have plain : '\r' ∉ '<' :: first :: rest := by
      intro member
      simpa using (Bool.and_eq_true_iff.1 (each _ member)).2
    rw [readDocument, ofBytes_utf8Bytes letter allowed plain]
    simp only [bind, Except.bind]
    rw [root?_of_tag letter rfl rfl plainRoot scanned]
    rfl
  · cases plainText

end GLBindings.Xml
