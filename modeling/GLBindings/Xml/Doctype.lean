/-
# Document type declarations

The declarations at the head of a document: entities, whose text replaces references to them, and
attribute rules, which say how values are normalised and what an attribute left out amounts to.
Declarations outside the document are not read.  Once some have been passed over, the ones that
follow count only if the document says that it stands alone.
-/
import GLBindings.Xml.Reference

namespace GLBindings.Xml

set_option autoImplicit false

/-- How an attribute of some element is normalised, and its value where it is left out.  Of several
rules for an attribute the first holds. -/
structure AttributeRule where
  element : String
  name : String
  tokenised : Bool
  default : Option (List Char)

/-- What the declarations at the head of a document amount to. -/
structure Doctype where
  entities : Entities := []
  rules : List AttributeRule := []
  /-- Some declarations lie outside the document. -/
  incomplete : Bool := false
  /-- Declarations are still taken into account. -/
  open? : Bool := true

inductive MarkupDeclaration where
  | entity (name : String) (value : Option (List Char))
  | parameterEntity (value : Option (List Char))
  | attributes (rules : List AttributeRule)
  | parameterReference
  | other

namespace MarkupDeclaration

open Scanner

/-! ## Comments and processing instructions -/

/-- Skips a comment, in which two hyphens may not meet. -/
def comment : Scanner Unit := do
  expect "<!--"
  discard (takeUntil "--")
  expect ">"

/-- Skips a processing instruction; its target may not spell `xml` in any case. -/
def instruction : Scanner Unit := do
  expect "<?"
  let target ← plainName
  require (target.map Char.toLower != "xml")
  if !(← sees "?>") then someSpace
  discard (takeUntil "?>")

/-! ## Declarations -/

def isPublicChar (c : Char) : Bool :=
  c.isAlphanum || c == ' ' || c == '\r' || c == '\n' || "-'()+,./:=?;!*#@$_%".toList.contains c

/-- Skips the identifiers of something outside the document. -/
def outsideName (systemNeeded : Bool) : Scanner Unit := do
  if ← accept "SYSTEM" then
    someSpace
    discard literal
  else
    expect "PUBLIC"
    someSpace
    require ((← literal).all isPublicChar)
    let apart ← space
    if apart && !(← sees ">") then discard literal else require !systemNeeded

def close : Scanner Unit := do
  discard space
  expect ">"

def entityDeclaration : Scanner MarkupDeclaration := do
  someSpace
  if ← accept "%" then
    someSpace
    discard plainName
    someSpace
    if (← sees "\"") || (← sees "'") then
      let value ← literal
      close
      return .parameterEntity (some value)
    outsideName true
    close
    return .parameterEntity none
  let name ← plainName
  someSpace
  if (← sees "\"") || (← sees "'") then
    let value ← literal
    close
    return .entity name (some value)
  outsideName true
  let apart ← space
  if apart && (← accept "NDATA") then
    someSpace
    discard plainName
  close
  return .entity name none

def notationDeclaration : Scanner Unit := do
  someSpace
  discard plainName
  someSpace
  outsideName false
  close

def atGroupEnd (input : List Char) : Bool := input.head? == some ')'

def repetition : Scanner Unit := do
  unless ← accept "?" do
    unless ← accept "*" do
      discard (accept "+")

/-- Skips a content particle, a name or a group, whose groups nest at most `depth` deep. -/
def particle : Nat → Scanner Unit
  | 0 => illFormed
  | depth + 1 => do
      if ← accept "(" then
        discard space
        particle depth
        discard space
        let separator := if ← sees "|" then "|" else ","
        discard <| repeatUntil atGroupEnd do
          expect separator
          discard space
          particle depth
          discard space
        expect ")"
      else discard declaredName
      repetition

def seesMixed : Scanner Bool := do
  return "#PCDATA".toList.isPrefixOf (((← get).drop 1).dropWhile isSpace)

def mixedModel : Scanner Unit := do
  expect "("
  discard space
  expect "#PCDATA"
  discard space
  let names ← repeatUntil atGroupEnd do
    expect "|"
    discard space
    discard declaredName
    discard space
  expect ")"
  if names.isEmpty then discard (accept "*") else expect "*"

def elementDeclaration : Scanner Unit := do
  someSpace
  discard declaredName
  someSpace
  if ← sees "(" then
    if ← seesMixed then mixedModel else particle (← get).length
  else unless ← accept "EMPTY" do expect "ANY"
  close

def alternatives (alternative : Scanner Unit) : Scanner Unit := do
  expect "("
  discard space
  alternative
  discard space
  discard <| repeatUntil atGroupEnd do
    expect "|"
    discard space
    alternative
    discard space
  expect ")"

/-- Skips a run of name characters, a colon among them. -/
def nameToken : Scanner Unit := do
  let alphabet ← read
  require !(← takeRun fun c => alphabet.isNameChar c || c == ':').isEmpty

/-- Skips the type of an attribute and tells whether its values are normalised as tokens. -/
def attributeType : Scanner Bool := do
  if ← sees "(" then
    alternatives nameToken
    return true
  let keyword ← plainName
  if keyword == "NOTATION" then
    someSpace
    alternatives (discard plainName)
    return true
  require (["CDATA", "ID", "IDREF", "IDREFS", "ENTITY", "ENTITIES", "NMTOKEN", "NMTOKENS"].contains
    keyword)
  return keyword != "CDATA"

def attributeDefault : Scanner (Option (List Char)) := do
  if ← accept "#REQUIRED" then return none
  if ← accept "#IMPLIED" then return none
  if ← accept "#FIXED" then someSpace
  return some (← literal)

def attributeListDeclaration : Scanner MarkupDeclaration := do
  someSpace
  let element ← declaredName
  let apart ← space
  require (apart || (← sees ">"))
  let rules ← repeatUntil (fun input => input.head? == some '>') do
    let name ← declaredName
    someSpace
    let tokenised ← attributeType
    someSpace
    let default ← attributeDefault
    let apart ← space
    require (apart || (← sees ">"))
    return { element, name, tokenised, default : AttributeRule }
  close
  return .attributes rules

/-- Takes one declaration, or what may stand between declarations. -/
def read : Scanner MarkupDeclaration := do
  if ← space then return .other
  if ← accept "%" then
    discard plainName
    expect ";"
    return .parameterReference
  if ← sees "<!--" then
    comment
    return .other
  if ← sees "<?" then
    instruction
    return .other
  if ← accept "<!ENTITY" then return ← entityDeclaration
  if ← accept "<!ATTLIST" then return ← attributeListDeclaration
  if ← accept "<!NOTATION" then
    notationDeclaration
    return .other
  expect "<!ELEMENT"
  elementDeclaration
  return .other

end MarkupDeclaration

namespace Doctype

open Scanner

/-! ## Meaning of declarations -/

/-- Takes one piece of an entity's value: character references are resolved at once and others kept. -/
def replacementPart : Scanner (List Char) := do
  if ← sees "&" then
    match ← Reference.read with
    | .character c => return [c]
    | .entity name => return '&' :: name.toList ++ [';']
  let run ← takeRun fun c => c != '&' && c != '%'
  require !run.isEmpty
  return run

/-- Takes an entity's value, up to the end of the text, and gives the replacement text. -/
def replacementText : Scanner (List Char) :=
  List.flatten <$> repeatUntil List.isEmpty replacementPart

/-- Values of all types but one are lists of tokens, with one space between two. -/
def tokens (value : List Char) : List Char :=
  [' '].intercalate ((value.splitOn ' ').filter fun token => !token.isEmpty)

def normalise (doctype : Doctype) (element name : String) (value : List Char) : List Char :=
  match doctype.rules.find? fun rule => rule.element == element && rule.name == name with
  | some rule => if rule.tokenised then tokens value else value
  | none => value

/-- The attributes that an element has where they are left out, with their values. -/
def defaults (doctype : Doctype) (element : String) : List (String × String) :=
  let rules := doctype.rules.filter (·.element == element)
  let first := rules.foldl (fun (held : List AttributeRule) rule =>
    if held.any (·.name == rule.name) then held else held ++ [rule]) []
  first.filterMap fun rule => rule.default.map fun value => (rule.name, String.ofList value)

def resolve (doctype : Doctype) (parts : List ValuePart) : Option (List Char) :=
  resolveParts doctype.incomplete doctype.entities parts

def defaultValue (size : Nat) (doctype : Doctype) (tokenised : Bool) (written : List Char) :
    Scanner (List Char) := do
  require (doctype.entities.affords size written)
  let parts ← valueParts.inside written
  let value ← (doctype.resolve parts : Option (List Char))
  return if tokenised then tokens value else value

def declare (size : Nat) (standalone : Bool) (doctype : Doctype) :
    MarkupDeclaration → Scanner Doctype
  | .other => return doctype
  | .parameterReference =>
      return { doctype with incomplete := !standalone, open? := doctype.open? && standalone }
  | .parameterEntity value => do
      if doctype.open? then discard (value.mapM replacementText.inside)
      return doctype
  | .entity name value => do
      if !doctype.open? then return doctype
      let entity ← match value with
        | some text => Entity.replacement <$> replacementText.inside text
        | none => pure Entity.closed
      return { doctype with entities := doctype.entities ++ [(name, entity)] }
  | .attributes rules => do
      if !doctype.open? then return doctype
      rules.foldlM (fun doctype rule => do
        let default ← rule.default.mapM (doctype.defaultValue size rule.tokenised)
        return { doctype with rules := doctype.rules ++ [{ rule with default }] }) doctype

/-! ## The declaration as a whole -/

/-- Takes a document type declaration, in a document of `size` bytes. -/
def read (size : Nat) (standalone : Bool) : Scanner Doctype := do
  expect "<!DOCTYPE"
  someSpace
  discard declaredName
  let apart ← space
  let outside := apart && !(← sees "[") && !(← sees ">")
  if outside then
    MarkupDeclaration.outsideName true
    discard space
  let declarations ←
    if ← accept "[" then
      let declarations ← repeatUntil (fun input => input.head? == some ']') MarkupDeclaration.read
      expect "]"
      discard space
      pure declarations
    else pure []
  expect ">"
  let start : Doctype := { incomplete := outside && !standalone }
  declarations.foldlM (declare size standalone) start

end Doctype

end GLBindings.Xml
