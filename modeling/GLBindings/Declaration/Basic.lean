/-
# Declarations

An element such as `<param>const <ptype>GLchar</ptype> *const*<name>path</name></param>` declares a
name with a type.  The name is the text of the last `<name>` inside it; all other text, taken in
document order, is the type.  Keywords in leaves of their own lose the namespace in front for the
reading of the type, and keep it in the spelling.
-/
import GLBindings.Declaration.Shape
import GLBindings.Declaration.Keyword
import GLBindings.Text.Lines
import GLBindings.Text.Quoted
import GLBindings.Xml.Element

namespace GLBindings.Declaration

open Xml (Element Node)

set_option autoImplicit false

inductive DeclarationError where
  /-- The element with this name and text declares no name. -/
  | nameless (element text : String)
  /-- The character begins no token. -/
  | unexpected (c : Char) (text : String)
  /-- The tokens of the text are no type. -/
  | shape (fault : ShapeFault) (text : String)
  deriving DecidableEq

/-- How a message shows the text of a type. -/
def shown (text : String) : String := Text.quoted (Text.trim text)

def DeclarationError.message : DeclarationError → String
  | .nameless element text =>
      "<" ++ element ++ "> declaration is missing its <name> leaf: " ++ shown text
  | .unexpected c text =>
      "Unexpected " ++ Text.quoted (String.singleton c) ++ " in type " ++ shown text
  | .shape .noBase text => "No base type in " ++ shown text
  | .shape .strayWord text => "Unexpected keyword in type " ++ shown text
  | .shape .unsupported text => "Unsupported pointer/const arrangement in " ++ shown text

/-! ## Types -/

def tokensOf (text : String) : Except DeclarationError (List Token) :=
  (tokenize text.toList).mapError (.unexpected · text)

def outlineOf (text : String) : Except DeclarationError Outline := do
  (Outline.of (← tokensOf text)).mapError (.shape · text)

/-- A pointer to void is an address. -/
def pointeeBase (base : BaseType) (shape : PointerShape) : BaseType :=
  if base = .void ∧ shape ≠ .plain then .address else base

/-- The type that a text describes, spelled as it is in `verbatim` if that is given. -/
def parseType (text : String) (verbatim : Option String := none) :
    Except DeclarationError TypeRef := do
  let outline ← outlineOf text
  let shape ← outline.shape.mapError (.shape · text)
  let keyword := " ".intercalate outline.words
  let spelling ← match verbatim with
    | none => pure keyword
    | some verbatim => (outlineOf verbatim).map fun outline => " ".intercalate outline.words
  return { base := pointeeBase (baseTypeOf keyword) shape, shape, spelling }

/-! ## Names and types apart -/

/-- The parts of a declaration: its name, the text of its type without namespaces, and the same
text as written. -/
structure Parts where
  name : String
  typeText : String
  verbatim : String
  deriving DecidableEq

/-- What a piece of content adds to the text of a type; `leaf` says how leaves are written. -/
def typeTextOf (leaf : String → String) : Node → String
  | .text s => s
  | .element e => if e.name = "name" then "" else leaf (Text.trim e.text)

/-- The name that an element declares: the text of its last `<name>`. -/
def declaredName (e : Element) : Option String :=
  (e.childrenNamed "name").getLast?.map fun leaf => Text.trim leaf.text

/-- Separates the name that an element declares from the text of its type. -/
def split (e : Element) : Except DeclarationError Parts :=
  match (declaredName e).getD "" with
  | "" => .error (.nameless e.name e.allText)
  | name => .ok {
      name
      typeText := String.join (e.content.map (typeTextOf stripNamespace))
      verbatim := String.join (e.content.map (typeTextOf id)) }

def parse (e : Element) : Except DeclarationError (TypeRef × String) := do
  let parts ← split e
  return (← parseType parts.typeText (some parts.verbatim), parts.name)

end GLBindings.Declaration
