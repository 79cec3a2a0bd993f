/-
# References and attribute values

Text with references in it, and the entities that references name.  An entity is replaced by its
text, in which further references are resolved; while that text is read the entity itself is
closed, so a definition that leads back to itself is caught and every replacement comes to an end.
-/
import GLBindings.Xml.Scanner

namespace GLBindings.Xml

set_option autoImplicit false

/-- A reference, to a character by number or to an entity by name. -/
inductive Reference where
  | character (c : Char)
  | entity (name : String)
  deriving DecidableEq

/-- What an entity name stands for: a text, or nothing that could be read here, because it lies
outside the document or is being read already. -/
inductive Entity where
  | replacement (text : List Char)
  | closed
  deriving DecidableEq

/-- The declared entities, first declaration first. -/
abbrev Entities := List (String × Entity)

namespace Entities

def replacement? (entities : Entities) (name : String) : Option (List Char) :=
  match entities.lookup name with
  | some (.replacement text) => some text
  | _ => none

/-- The same entities while the named one is being read. -/
def reading (entities : Entities) (name : String) : Entities :=
  entities.map fun entry => if entry.1 = name then (name, .closed) else entry

def readable (entities : Entities) : Nat :=
  entities.countP fun entry => entry.2 != .closed

theorem readable_reading_le (entities : Entities) (name : String) :
    (entities.reading name).readable ≤ entities.readable := by
  induction entities with
  | nil => simp [reading]
  | cons first rest ih =>
      simp only [readable, reading, List.map_cons, List.countP_cons] at ih ⊢
      by_cases hn : first.1 = name
      · simp only [hn, ↓reduceIte, bne_self_eq_false, Bool.false_eq_true]
        omega
      · simp only [hn, ↓reduceIte]
        omega

/-- An entity cannot be read again inside itself, which bounds how deep references nest. -/
theorem readable_reading_lt {entities : Entities} {name : String} {text : List Char}
    (h : entities.replacement? name = some text) :
    (entities.reading name).readable < entities.readable := by
  induction entities with
  | nil => simp [replacement?] at h
  | cons first rest ih =>
      obtain ⟨key, entity⟩ := first
      by_cases hn : key = name
      · subst hn
        have he : entity = .replacement text := by
          cases entity <;> simp_all [replacement?]
        have := readable_reading_le rest key
        simp only [readable, reading, List.map_cons, List.countP_cons] at this ⊢
        simp only [he, ↓reduceIte, bne_self_eq_false, Bool.false_eq_true]
        have : (Entity.replacement text != .closed) = true := rfl
        simp only [this, ↓reduceIte]
        omega
      · have hb : (name == key) = false := by simpa using fun h => hn h.symm
        have hrest : replacement? rest name = some text := by
          simpa [replacement?, List.lookup_cons, hb] using h
        have := ih hrest
        simp only [readable, reading, List.map_cons, List.countP_cons, hn, ↓reduceIte] at this ⊢
        omega

end Entities

/-! ## Growth -/

def mentioned (text : List Char) : List String :=
  ((text.splitOn '&').drop 1).map fun piece => String.ofList (piece.takeWhile (· != ';'))

def total (weights : List (String × Nat)) (names : List String) : Nat :=
  names.foldl (fun sum name => sum + (weights.lookup name).getD 0) 0

namespace Entities

/-- How many bytes of replacement text references bring in, by name, with the named one weighed too;
`depth` bounds how deep entities may lie in each other. -/
def weigh (entities : Entities) :
    Nat → List (String × Nat) → String → List (String × Nat)
  | 0, weights, _ => weights
  | depth + 1, weights, name =>
      if (weights.lookup name).isSome then weights
      else
        match entities.replacement? name with
        | none => weights
        | some text =>
            let inner := mentioned text
            let weights := inner.foldl (entities.weigh depth) weights
            (name, (String.ofList text).utf8ByteSize + total weights inner) :: weights

/-- How many bytes of replacement text the references in a text bring in. -/
def growth (entities : Entities) (text : List Char) : Nat :=
  let names := mentioned text
  total (names.foldl (entities.weigh (entities.length + 1)) []) names

/-- A document must not grow to a hundred times its size, once it holds 8 MiB. -/
def affords (entities : Entities) (size : Nat) (text : List Char) : Bool :=
  let growth := entities.growth text
  size + growth < 0x800000 || growth ≤ 99 * size

end Entities

/-! ## References -/

def hexValue (digits : List Char) : Nat :=
  digits.foldl (fun n c =>
    n * 16 + (if c.isDigit then c.toNat - 48 else if c ≤ 'F' then c.toNat - 55 else c.toNat - 87)) 0

def decimalValue (digits : List Char) : Nat :=
  digits.foldl (fun n c => n * 10 + (c.toNat - 48)) 0

/-- The character with the number, if a document may hold it. -/
def numbered (n : Nat) : Scanner Reference := do
  let c := Char.ofNat n
  Scanner.require (c.toNat == n && isDocumentChar c)
  return .character c

/-- The five entities that every document knows. -/
def predefined : List (String × Char) :=
  [("amp", '&'), ("lt", '<'), ("gt", '>'), ("quot", '"'), ("apos", '\'')]

open Scanner in
def Reference.read : Scanner Reference := do
  expect "&"
  if ← accept "#x" then
    let digits ← takeRun Text.isHexDigit
    require !digits.isEmpty
    expect ";"
    numbered (hexValue digits)
  else if ← accept "#" then
    let digits ← takeRun Char.isDigit
    require !digits.isEmpty
    expect ";"
    numbered (decimalValue digits)
  else
    let name ← plainName
    expect ";"
    return .entity name

/-! ## Attribute values -/

/-- A piece of an attribute value: a run of text or a reference. -/
inductive ValuePart where
  | text (cs : List Char)
  | reference (r : Reference)
  deriving DecidableEq

/-- White space written as such in an attribute value counts as spaces. -/
def spaced (cs : List Char) : List Char := cs.map fun c => if isSpace c then ' ' else c

open Scanner in
def ValuePart.read : Scanner ValuePart := do
  if ← sees "&" then return .reference (← Reference.read)
  let run ← takeRun fun c => c != '&' && c != '<'
  require !run.isEmpty
  return .text (spaced run)

/-- The pieces of the attribute value that comes next, up to the end of the text. -/
def valueParts : Scanner (List ValuePart) := Scanner.repeatUntil List.isEmpty ValuePart.read

/-- The value that the pieces amount to.  Where declarations may be missing, a name without one
stands for nothing. -/
def resolveParts (missing : Bool) (entities : Entities) (parts : List ValuePart) :
    Option (List Char) :=
  match parts with
  | [] => some []
  | .text cs :: rest => do return cs ++ (← resolveParts missing entities rest)
  | .reference (.character c) :: rest => do return c :: (← resolveParts missing entities rest)
  | .reference (.entity name) :: rest =>
      match predefined.lookup name with
      | some c => do return c :: (← resolveParts missing entities rest)
      | none =>
          match _found : entities.replacement? name with
          | some text => do
              let inner ←
                resolveParts missing (entities.reading name) (← valueParts.whole {} text)
              return inner ++ (← resolveParts missing entities rest)
          | none =>
              if missing && (entities.lookup name).isNone then resolveParts missing entities rest
              else none
termination_by (entities.readable, parts.length)
decreasing_by
  · exact Prod.Lex.right _ (by simp)
  · exact Prod.Lex.right _ (by simp)
  · exact Prod.Lex.right _ (by simp)
  · exact Prod.Lex.left _ _ (Entities.readable_reading_lt _found)
  · exact Prod.Lex.right _ (by simp)
  · exact Prod.Lex.right _ (by simp)

end GLBindings.Xml
