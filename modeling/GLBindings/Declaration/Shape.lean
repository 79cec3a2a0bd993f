/-
# Shapes of type text

Type text is a leading `const` or none, then one word or more that name the base type, then stars
and consts.  Seven arrangements have a meaning; all other token lists are refused.
-/
import GLBindings.Declaration.Token
import GLBindings.Spec

namespace GLBindings.Declaration

set_option autoImplicit false

/-- A token list taken apart: whether `const` leads, the words of the base type, and the rest. -/
structure Outline where
  leadingConst : Bool
  words : List String
  rest : List Token
  deriving DecidableEq

/-- Why a token list is no type. -/
inductive ShapeFault where
  /-- No word names a base type. -/
  | noBase
  /-- A word follows the stars and consts. -/
  | strayWord
  /-- The stars and consts are arranged in a way that has no meaning. -/
  | unsupported
  deriving DecidableEq

def leadingWords : List Token → List String × List Token
  | .word w :: tokens =>
      let (words, rest) := leadingWords tokens
      (w :: words, rest)
  | tokens => ([], tokens)

/-- A token list without its leading `const`, and whether there was one. -/
def splitConst : List Token → Bool × List Token
  | .const :: tokens => (true, tokens)
  | tokens => (false, tokens)

/-- Takes a token list apart; all its words must stand together. -/
def Outline.of (tokens : List Token) : Except ShapeFault Outline :=
  let (leadingConst, tokens) := splitConst tokens
  let (words, rest) := leadingWords tokens
  if words.isEmpty then .error .noBase
  else if rest.any Token.isWord then .error .strayWord
  else .ok { leadingConst, words, rest }

/-- The stars and consts behind the words, written without blanks. -/
def Outline.suffix (outline : Outline) : String := String.join (outline.rest.map Token.text)

/-- The meanings of the consts and stars around a base type, by whether `const` leads and by the
text behind the words. -/
def shapes : List ((Bool × String) × PointerShape) := [
  ((false, ""), .plain),
  ((false, "*"), .pointer),
  ((true, "*"), .pointerToConst),
  ((false, "**"), .pointerToPointer),
  ((true, "**"), .pointerToConstPointer),
  ((false, "*const*"), .pointerToConst),
  ((true, "*const*"), .pointerToConstPointerToConst)]

def Outline.shape (outline : Outline) : Except ShapeFault PointerShape :=
  match shapes.lookup (outline.leadingConst, outline.suffix) with
  | some shape => .ok shape
  | none => .error .unsupported

/-- The shape of a token list, whatever its words are. -/
def classify (tokens : List Token) : Except ShapeFault PointerShape := do
  (← Outline.of tokens).shape

end GLBindings.Declaration
