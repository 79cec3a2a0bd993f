/-
# Documents

From bytes to the root element.  Tags are paired, names are put into their namespaces, attributes
are completed by the declared defaults, and text on both sides of a comment becomes one piece.
Anything that breaks a rule of well-formedness leaves no document at all.
-/
import GLBindings.Xml.Encoding
import GLBindings.Xml.Markup
import GLBindings.Xml.Element

namespace GLBindings.Xml

set_option autoImplicit false

/-! ## Namespaces -/

/-- The namespaces in scope by prefix, nearest first; the empty prefix is the default one. -/
abbrev Scope := List (String × String)

def xmlNamespace : String := "http://www.w3.org/XML/1998/namespace"

/-- The namespace of namespace declarations, to which no prefix may be bound. -/
def declarationNamespace : String := "http://www.w3.org/2000/xmlns/"

/-- The parts of a name before and after its colon; without one the first part is empty. -/
def nameParts (name : String) : String × String :=
  let before := name.toList.takeWhile (· != ':')
  if before.length = name.length then ("", name)
  else (String.ofList before, String.ofList (name.toList.drop (before.length + 1)))

namespace Scope

def initial : Scope := [("xml", xmlNamespace)]

/-- The prefix that an attribute declares, if it is a namespace declaration. -/
def declared? (name : String) : Option String :=
  if name = "xmlns" then some ""
  else match nameParts name with
    | ("xmlns", label) => some label
    | _ => none

/-- A prefix may be bound to this namespace: `xml` only to its own, and no other to a reserved one. -/
def mayBind (label space : String) : Bool :=
  label != "xmlns" && (label == "" || space != "") && ((label == "xml") == (space == xmlNamespace)) &&
    space != declarationNamespace && !space.toList.contains '\x7d'

def extend (scope : Scope) (attributes : List (String × String)) : Option Scope :=
  attributes.foldlM (fun scope (name, value) =>
    match declared? name with
    | some label => if mayBind label value then some ((label, value) :: scope) else none
    | none => some scope) scope

def qualify (space name : String) : String :=
  if space = "" then name else "\x7b" ++ space ++ "\x7d" ++ name

/-- The full name of an element; its prefix must be declared. -/
def elementName (scope : Scope) (name : String) : Option String :=
  match nameParts name with
  | ("", plain) => some (qualify ((scope.lookup "").getD "") plain)
  | (label, plain) => (scope.lookup label).map (qualify · plain)

/-- The full name of an attribute, to which the default namespace does not apply. -/
def attributeName (scope : Scope) (name : String) : Option String :=
  match nameParts name with
  | ("", plain) => some plain
  | (label, plain) => (scope.lookup label).map (qualify · plain)

end Scope

/-! ## Building the tree -/

/-- Content with one more text at its end; `content` is in reverse. -/
def appendText (content : List Node) (text : String) : List Node :=
  match content with
  | .text before :: rest => .text (before ++ text) :: rest
  | content => if text.isEmpty then content else .text text :: content

/-- An element whose end tag has not come yet; `content` is in reverse. -/
structure OpenElement where
  written : String
  name : String
  attributes : List (String × String)
  scope : Scope
  content : List Node := []

namespace OpenElement

def finish (e : OpenElement) : Element := ⟨e.name, e.attributes, e.content.reverse⟩

end OpenElement

/-- The elements begun and not ended, innermost first, and the root once it has ended. -/
structure Builder where
  begun : List OpenElement := []
  root : Option Element := none

namespace Builder

/-- The attributes of a start tag: those written, then those that take a default. -/
def completeAttributes (doctype : Doctype) (element : String)
    (written : List (String × List ValuePart)) : Option (List (String × String)) := do
  if (written.map Prod.fst).eraseDups.length ≠ written.length then none
  let given ← written.mapM fun (name, value) => do
    return (name, String.ofList (doctype.normalise element name (← doctype.resolve value)))
  return given ++ (doctype.defaults element).filter fun pair => (given.lookup pair.1).isNone

def start (doctype : Doctype) (builder : Builder) (name : String)
    (written : List (String × List ValuePart)) : Option OpenElement := do
  let attributes ← completeAttributes doctype name written
  let outer := match builder.begun with
    | parent :: _ => parent.scope
    | [] => Scope.initial
  let scope ← outer.extend attributes
  let own := attributes.filter fun pair => (Scope.declared? pair.1).isNone
  let named ← own.mapM fun (name, value) => do return (← scope.attributeName name, value)
  if (named.map Prod.fst).eraseDups.length ≠ named.length then none
  return { written := name, name := ← scope.elementName name, attributes := named, scope }

def place (e : Element) : List OpenElement → Builder
  | [] => { root := some e }
  | parent :: outer => { begun := { parent with content := .element e :: parent.content } :: outer }

/-- Takes one item of markup into account.  Outside the root only white space may be written. -/
def step (doctype : Doctype) (builder : Builder) : Markup → Option Builder
  | .aside => some builder
  | .entity _ => none
  | .text cs =>
      match builder.begun with
      | e :: outer =>
          some { builder with
            begun := { e with content := appendText e.content (String.ofList cs) } :: outer }
      | [] => if cs.all isSpace then some builder else none
  | .verbatim cs =>
      match builder.begun with
      | e :: outer =>
          some { builder with
            begun := { e with content := appendText e.content (String.ofList cs) } :: outer }
      | [] => none
  | .openTag name attributes closed => do
      if builder.begun.isEmpty && builder.root.isSome then none
      let e ← builder.start doctype name attributes
      return if closed then place e.finish builder.begun
        else { builder with begun := e :: builder.begun }
  | .closeTag name =>
      match builder.begun with
      | e :: outer => if e.written = name then some (place e.finish outer) else none
      | [] => none

end Builder

/-! ## Documents -/

open Scanner in
/-- Skips what may come before the document type declaration. -/
def skipAsides : Scanner Unit :=
  discard <| repeatUntil
    (fun input => !(input.head?.any isSpace || "<!--".toList.isPrefixOf input ||
      "<?".toList.isPrefixOf input))
    (do
      if ← sees "<!--" then MarkupDeclaration.comment
      else if ← sees "<?" then MarkupDeclaration.instruction
      else someSpace)

def Source.root? (source : Source) : Option Element := do
  let (_, rest) ← skipAsides source.alphabet source.characters
  let (doctype, rest) ←
    if "<!DOCTYPE".toList.isPrefixOf rest then
      Doctype.read source.size source.standalone source.alphabet rest
    else some ({}, rest)
  let items ← Markup.readAll.whole source.alphabet rest
  if !Markup.referencesInside 0 items || !doctype.entities.affords source.size rest then none
  let items ← Markup.expand doctype.entities items
  let builder ← items.foldlM (Builder.step doctype) {}
  if builder.begun.isEmpty then builder.root else none

def readDocument (bytes : List UInt8) : Except DocumentError Element := do
  orIllFormed (← Source.ofBytes false bytes).root?

def readText (text : String) : Option Element := do
  (← (Source.ofBytes true text.toUTF8.toList).toOption).root?

end GLBindings.Xml
