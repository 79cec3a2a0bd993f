/-
# Markup

The content of a document as a flat sequence: tags, text and references, in the order in which they
are written.  Nothing is said here about which tags belong together.
-/
import GLBindings.Xml.Doctype

namespace GLBindings.Xml

set_option autoImplicit false

inductive Markup where
  /-- Text as written. -/
  | text (cs : List Char)
  /-- Characters that stand for themselves, such as those of a CDATA section. -/
  | verbatim (cs : List Char)
  | entity (name : String)
  | openTag (name : String) (attributes : List (String × List ValuePart)) (closed : Bool)
  | closeTag (name : String)
  /-- A comment or a processing instruction. -/
  | aside
  deriving DecidableEq

namespace Markup

open Scanner

def writtenAttribute : Scanner (String × List ValuePart) := do
  let name ← qualifiedName
  discard space
  expect "="
  discard space
  return (name, ← valueParts.inside (← literal))

def atTagEnd (input : List Char) : Bool := input.head? == some '>' || input.head? == some '/'

/-- Takes a start tag, in which white space parts the name and the attributes. -/
def startTag : Scanner Markup := do
  expect "<"
  let name ← qualifiedName
  let apart ← space
  require (apart || atTagEnd (← get))
  let attributes ← repeatUntil atTagEnd do
    let pair ← writtenAttribute
    let apart ← space
    require (apart || atTagEnd (← get))
    return pair
  let closed ← accept "/"
  expect ">"
  return .openTag name attributes closed

def endTag : Scanner Markup := do
  expect "</"
  let name ← qualifiedName
  discard space
  expect ">"
  return .closeTag name

/-- Text may not hold the mark that ends a CDATA section. -/
def holdsSectionEnd (cs : List Char) : Bool := (splitAtMarker "]]>".toList cs).isSome

def read : Scanner Markup := do
  if ← sees "<!--" then
    MarkupDeclaration.comment
    return .aside
  if ← accept "<![CDATA[" then
    return .verbatim (← takeUntil "]]>")
  if ← sees "<?" then
    MarkupDeclaration.instruction
    return .aside
  if ← sees "</" then return ← endTag
  if ← sees "<" then return ← startTag
  if ← sees "&" then
    match ← Reference.read with
    | .character c => return .verbatim [c]
    | .entity name => return .entity name
  let run ← takeRun fun c => c != '<' && c != '&'
  require (!run.isEmpty && !holdsSectionEnd run)
  return .text run

/-- Takes the items of content that come next, up to the end of the text. -/
def readAll : Scanner (List Markup) := repeatUntil List.isEmpty read

/-! ## Expansion -/

/-- Every tag opened is closed again, and none before it is opened, from `depth` open tags on. -/
def balanced : Nat → List Markup → Bool
  | depth, [] => depth == 0
  | depth, .openTag _ _ false :: rest => balanced (depth + 1) rest
  | 0, .closeTag _ :: _ => false
  | depth + 1, .closeTag _ :: rest => balanced depth rest
  | depth, _ :: rest => balanced depth rest

/-- Every reference to an entity lies between tags, from `depth` open tags on. -/
def referencesInside : Nat → List Markup → Bool
  | _, [] => true
  | 0, .entity _ :: _ => false
  | depth, .openTag _ _ false :: rest => referencesInside (depth + 1) rest
  | depth, .closeTag _ :: rest => referencesInside (depth - 1) rest
  | depth, _ :: rest => referencesInside depth rest

/-- Replaces references by the items of their entities, which must be balanced on their own;
`before` are in reverse the items passed already. -/
def expandFrom (entities : Entities) (before items : List Markup) : Option (List Markup) :=
  match items with
  | [] => some before.reverse
  | .entity name :: rest =>
      match predefined.lookup name with
      | some c => expandFrom entities (.verbatim [c] :: before) rest
      | none =>
          match _found : entities.replacement? name with
          | some replaced => do
              let inner ← readAll.whole {} replaced
              if balanced 0 inner then
                let inner ← expandFrom (entities.reading name) [] inner
                expandFrom entities (inner.reverseAux before) rest
              else none
          | none => none
  | item :: rest => expandFrom entities (item :: before) rest
termination_by (entities.readable, items.length)
decreasing_by
  · exact Prod.Lex.right _ (by simp)
  · exact Prod.Lex.left _ _ (Entities.readable_reading_lt _found)
  · exact Prod.Lex.right _ (by simp)
  · exact Prod.Lex.right _ (by simp)

def expand (entities : Entities) (items : List Markup) : Option (List Markup) :=
  expandFrom entities [] items

end Markup

end GLBindings.Xml
