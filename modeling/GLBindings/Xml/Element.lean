/-
# Elements

An XML document as a reader of it sees it: elements with attributes and mixed content.  Comments and
processing instructions are gone, references are resolved, and neighbouring pieces of text are one.
The name of an element or attribute in a namespace is written `{uri}local`.
-/
namespace GLBindings.Xml

set_option autoImplicit false

mutual

/-- An element: its name, its attributes and what stands between its tags. -/
structure Element where
  name : String
  attributes : List (String × String)
  content : List Node

inductive Node where
  | text (s : String)
  | element (e : Element)

end

def Node.element? : Node → Option Element
  | .text _ => none
  | .element e => some e

/-- The text at the front of the content, up to the first element. -/
def leadingText : List Node → String
  | .text s :: rest => s ++ leadingText rest
  | _ => ""

mutual

/-- All text inside the element, at any depth, in document order. -/
def Element.allText : Element → String
  | ⟨_, _, content⟩ => contentText content

def contentText : List Node → String
  | [] => ""
  | .text s :: rest => s ++ contentText rest
  | .element e :: rest => e.allText ++ contentText rest

end

namespace Element

def attribute? (e : Element) (key : String) : Option String := e.attributes.lookup key

def children (e : Element) : List Element := e.content.filterMap Node.element?

def childrenNamed (e : Element) (name : String) : List Element :=
  e.children.filter (·.name == name)

def child? (e : Element) (name : String) : Option Element :=
  e.children.find? (·.name == name)

/-- The text of the element before its first child. -/
def text (e : Element) : String := leadingText e.content

end Element

end GLBindings.Xml
