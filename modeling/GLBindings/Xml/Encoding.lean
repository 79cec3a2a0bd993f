/-
# Encodings

From the bytes of a document to its characters.  The first bytes tell whether characters take one
byte or two at least, and in which order; the XML declaration may then name an encoding, which holds
for the bytes after the declaration.  Without either, the encoding is UTF-8.  Bytes that encode
nothing make the document ill-formed.
-/
import GLBindings.Xml.Scanner
import GLBindings.Xml.EncodingRegistry

namespace GLBindings.Xml

set_option autoImplicit false

inductive Encoding where
  | utf8
  | utf16LittleEndian
  | utf16BigEndian
  | latin1
  | ascii
  | codePage (page : CodePage)
  deriving DecidableEq

namespace Encoding

/-- How many bytes a unit of the encoding takes. -/
def width : Encoding → Nat
  | .utf16LittleEndian | .utf16BigEndian => 2
  | _ => 1

/-- The letters of names in documents in this encoding; some encodings have three more. -/
def alphabet : Encoding → Alphabet
  | .utf16LittleEndian | .utf16BigEndian | .latin1 => { more := ['ª', 'µ', 'º'] }
  | _ => {}

/-! ## Decoding -/

/-- The characters of a text whose bytes are code points. -/
def decodeLatin1 (bytes : List UInt8) : List Char := bytes.map fun b => Char.ofNat b.toNat

/-- The code units of a two-byte encoding, given the value of a pair of bytes; `found` is in reverse
what came before.  A last byte without another makes no unit. -/
def pairsFrom (value : UInt8 → UInt8 → Nat) (found : List Nat) : List UInt8 → List Nat
  | a :: b :: rest => pairsFrom value (value a b :: found) rest
  | _ => found.reverse

def units (encoding : Encoding) (bytes : List UInt8) : List Nat :=
  match encoding with
  | .utf16LittleEndian => pairsFrom (fun a b => b.toNat * 0x100 + a.toNat) [] bytes
  | .utf16BigEndian => pairsFrom (fun a b => a.toNat * 0x100 + b.toNat) [] bytes
  | _ => bytes.map UInt8.toNat

/-- Characters from UTF-16 code units; `found` is in reverse what came before.  A unit for the first
half of a pair takes the low bits of any unit after it; one for the second half encodes nothing on
its own. -/
def decodeUnits (found : List Char) : List Nat → Option (List Char)
  | [] => some found.reverse
  | [unit] => if unit.isValidChar then some (Char.ofNat unit :: found).reverse else none
  | unit :: next :: rest =>
      if unit.isValidChar then decodeUnits (Char.ofNat unit :: found) (next :: rest)
      else if unit < 0xDC00 then
        decodeUnits
          (Char.ofNat (0x10000 + (unit - 0xD800) * 0x400 + next % 0x400) :: found) rest
      else none

def decode (encoding : Encoding) (bytes : List UInt8) : Option (List Char) :=
  match encoding with
  | .utf8 => (String.fromUTF8? (ByteArray.mk bytes.toArray)).map String.toList
  | .utf16LittleEndian | .utf16BigEndian =>
      if bytes.length % 2 = 0 then decodeUnits [] (encoding.units bytes) else none
  | .latin1 => some (decodeLatin1 bytes)
  | .ascii => if bytes.all (· < 0x80) then some (decodeLatin1 bytes) else none
  | .codePage page => page.decode bytes

/-! ## Detection -/

/-- The encoding that the first bytes show, and the bytes after a byte order mark. -/
def detect : List UInt8 → Encoding × List UInt8
  | 0xFE :: 0xFF :: rest => (.utf16BigEndian, rest)
  | 0xFF :: 0xFE :: rest => (.utf16LittleEndian, rest)
  | 0xEF :: 0xBB :: 0xBF :: rest => (.utf8, rest)
  | 0 :: b :: rest => (.utf16BigEndian, 0 :: b :: rest)
  | a :: 0 :: rest => (.utf16LittleEndian, a :: 0 :: rest)
  | bytes => (.utf8, bytes)

def known : List (String × Encoding) := [
  ("utf-8", .utf8), ("utf-16le", .utf16LittleEndian), ("utf-16be", .utf16BigEndian),
  ("iso-8859-1", .latin1), ("us-ascii", .ascii)]

/-- The encoding meant by the name in an XML declaration, in a document whose first bytes show
`detected`.  A known encoding has to agree with them. -/
def named (detected : Encoding) (name : String) : Except DocumentError Encoding :=
  let plain := name.map Char.toLower
  if plain = "utf-16" then
    if detected.width = 2 then .ok detected else .error .illFormed
  else
    match known.lookup plain with
    | some encoding =>
        if encoding.width = detected.width ∧ (encoding.width = 2 → encoding = detected) then
          .ok encoding
        else .error .illFormed
    | none => (CodePage.named name).map .codePage

end Encoding

/-! ## The XML declaration -/

/-- What an XML declaration says: the encoding by name, and that no outside declarations matter. -/
structure Declaration where
  encoding : Option String := none
  standalone : Bool := false

namespace Declaration

open Scanner

def isValueChar (c : Char) : Bool := c.isAlphanum || c == '.' || c == '-' || c == '_'

def value : Scanner String := do
  discard space
  expect "="
  discard space
  let text ← literal
  require (text.all isValueChar)
  return String.ofList text

def setting? (name : String) : Scanner (Option String) := do
  if ← accept name then return some (← value) else return none

/-- The settings of an XML declaration after its target: a version, then perhaps an encoding, then
perhaps whether the document stands alone. -/
def settings : Scanner Declaration := do
  someSpace
  let version ← setting? "version"
  require version.isSome
  let apart ← space
  let encoding ← if apart then setting? "encoding" else pure none
  require (encoding.all fun name => name.toList.head?.any Char.isAlpha)
  let apart ← if encoding.isSome then space else pure apart
  let standalone ← if apart then setting? "standalone" else pure none
  require (standalone.all fun answer => answer == "yes" || answer == "no")
  discard space
  return { encoding, standalone := standalone == some "yes" }

def read : Scanner Declaration := fun alphabet input =>
  let begins := "<?xml".toList.isPrefixOf input && !(input.drop 5).head?.any alphabet.isNameChar
  if begins then (expect "<?xml" *> settings <* expect "?>") alphabet input
  else some ({}, input)

end Declaration

/-! ## Documents -/

/-- A document from its XML declaration on, as characters. -/
structure Source where
  /-- The number of bytes of the document. -/
  size : Nat
  standalone : Bool
  alphabet : Alphabet
  characters : List Char

namespace Source

/-- Line ends as they are passed on, each one line feed; `before` are in reverse the characters
passed on already. -/
def normaliseLineEnds (before : List Char) : List Char → List Char
  | [] => before.reverse
  | '\r' :: '\n' :: rest => normaliseLineEnds ('\n' :: before) rest
  | c :: rest => normaliseLineEnds ((if c = '\r' then '\n' else c) :: before) rest

/-- The document in the bytes.  Its declaration is plain ASCII, so that it can be read before the
encoding is known.  Where the document comes as text, the encoding that is named does not count. -/
def ofBytes (asText : Bool) (bytes : List UInt8) : Except DocumentError Source := do
  let (detected, body) := Encoding.detect bytes
  let provisional := (detected.units body).map Char.ofNat
  let (declaration, rest) ← orIllFormed (Declaration.read detected.alphabet provisional)
  let encoding ← match declaration.encoding with
    | some name => if asText then pure detected else detected.named name
    | none => pure detected
  let declared := (provisional.length - rest.length) * detected.width
  let characters ← orIllFormed (encoding.decode (body.drop declared))
  if characters.all isDocumentChar then
    return {
      size := bytes.length
      standalone := declaration.standalone
      alphabet := encoding.alphabet
      characters := normaliseLineEnds [] characters }
  else throw .illFormed

end Source

end GLBindings.Xml
