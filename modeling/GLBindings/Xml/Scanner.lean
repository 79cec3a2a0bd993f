/-
# Scanning

Reading a text from the front.  A scanner takes what it recognises off the front of the remaining
characters, or fails; failure means that the document is not well-formed and is never retried.
Which characters make up names depends on the alphabet of the text that is read.
-/
import GLBindings.Xml.NameTable
import GLBindings.Text.CharClass

namespace GLBindings.Xml

set_option autoImplicit false

/-! ## Characters -/

/-- Space, tab, line feed and carriage return. -/
def isSpace (c : Char) : Bool := c == ' ' || c == '\t' || c == '\n' || c == '\r'

def isDocumentChar (c : Char) : Bool :=
  (c.toNat ≥ 0x20 || isSpace c) && c.toNat != 0xFFFE && c.toNat != 0xFFFF

/-- The letters that names in a text are made of: those of every text, and `more`. -/
structure Alphabet where
  more : List Char := []

namespace Alphabet

/-- Characters that may begin a name; a colon separates names and belongs to none. -/
def isNameStart (alphabet : Alphabet) (c : Char) : Bool :=
  Text.isIdentifierStart c || Text.within nameStartRanges c || alphabet.more.contains c

def isNameChar (alphabet : Alphabet) (c : Char) : Bool :=
  alphabet.isNameStart c || c.isDigit || c == '-' || c == '.' || Text.within nameRestRanges c

end Alphabet

/-! ## Scanners -/

/-- A step that reads from the front of the remaining characters. -/
abbrev Scanner := ReaderT Alphabet (StateT (List Char) Option)

namespace Scanner

def illFormed {α : Type} : Scanner α := fun _ _ => none

def require (condition : Bool) : Scanner Unit := if condition then pure () else illFormed

def sees (front : String) : Scanner Bool := fun _ input =>
  some (front.toList.isPrefixOf input, input)

def expect (front : String) : Scanner Unit := fun _ input =>
  if front.toList.isPrefixOf input then some ((), input.drop front.length) else none

/-- Takes the given characters if they come next, and tells whether they did. -/
def accept (front : String) : Scanner Bool := do
  let here ← sees front
  if here then expect front
  return here

def takeRun (class? : Char → Bool) : Scanner (List Char) := fun _ input =>
  some (input.takeWhile class?, input.dropWhile class?)

/-- The characters before the first occurrence of `marker`, and those after it; `before` are in
reverse those already passed. -/
def splitFrom (marker before : List Char) : List Char → Option (List Char × List Char)
  | [] => none
  | c :: rest =>
      if marker.isPrefixOf (c :: rest) then
        some (before.reverse, (c :: rest).drop marker.length)
      else splitFrom marker (c :: before) rest

/-- The characters before the first occurrence of `marker`, and those after it. -/
def splitAtMarker (marker input : List Char) : Option (List Char × List Char) :=
  splitFrom marker [] input

/-- Takes everything up to and with the first occurrence of `marker`, and gives what came before. -/
def takeUntil (marker : String) : Scanner (List Char) := fun _ input =>
  splitAtMarker marker.toList input

def space : Scanner Bool := do
  let run ← takeRun isSpace
  return !run.isEmpty

def someSpace : Scanner Unit := do require (← space)

/-- Takes a text between single or double quotes. -/
def literal : Scanner (List Char) := fun _ input =>
  match input with
  | '"' :: rest => splitAtMarker ['"'] rest
  | '\'' :: rest => splitAtMarker ['\''] rest
  | _ => none

/-! ## Names -/

def nameRun : Scanner (List Char) := do takeRun (← read).isNameChar

/-- Takes a name without a colon. -/
def plainName : Scanner String := do
  let name ← nameRun
  require (name.head?.any (← read).isNameStart)
  return String.ofList name

/-- Takes a name that may carry a namespace prefix before a colon. -/
def qualifiedName : Scanner String := do
  let first ← plainName
  if ← accept ":" then
    let second ← plainName
    return first ++ ":" ++ second
  return first

/-- Takes a name as it is declared: after a prefix it may begin with any character of names. -/
def declaredName : Scanner String := do
  let first ← plainName
  if ← accept ":" then
    let second ← nameRun
    require !second.isEmpty
    return first ++ ":" ++ String.ofList second
  return first

/-! ## Repetition -/

/-- Repeats the step until the remaining characters satisfy `done`, at most once for each of
`limit`; `found` is in reverse what earlier steps gave. -/
def repeatAlong {α : Type} (done : List Char → Bool) (step : Scanner α) :
    List Char → List α → Scanner (List α)
  | [], found => fun _ input => if done input then some (found.reverse, input) else none
  | _ :: limit, found => fun alphabet input =>
      if done input then some (found.reverse, input)
      else
        match step alphabet input with
        | none => none
        | some (next, input) => repeatAlong done step limit (next :: found) alphabet input

/-- Repeats the step until the remaining characters satisfy `done`.  A step that takes a character
each time never meets the limit, which is one step for each character. -/
def repeatUntil {α : Type} (done : List Char → Bool) (step : Scanner α) : Scanner (List α) :=
  fun alphabet input => repeatAlong done step input [] alphabet input

/-- Runs a scanner on a whole text, of which it must leave nothing. -/
def whole {α : Type} (scanner : Scanner α) (alphabet : Alphabet) (input : List Char) :
    Option α := do
  let (result, rest) ← scanner alphabet input
  if rest.isEmpty then some result else none

def inside {α : Type} (scanner : Scanner α) (text : List Char) : Scanner α := fun alphabet input =>
  (scanner.whole alphabet text).map fun result => (result, input)

end Scanner

end GLBindings.Xml
