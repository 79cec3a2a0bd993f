/-
# Tokens of type text

Type text such as `const char *const*` consists of stars and words, one of which, `const`, stands
apart.  Words are ASCII identifiers; a letter beyond ASCII is a word of its own.  Blanks separate
tokens and mean nothing else.
-/
import GLBindings.Text.CharClass

namespace GLBindings.Declaration

set_option autoImplicit false

inductive Token where
  | const
  | star
  | word (text : String)
  deriving DecidableEq

namespace Token

/-- The token as it is written. -/
def text : Token → String
  | .const => "const"
  | .star => "*"
  | .word w => w

/-- Whether the token is a word other than `const`. -/
def isWord : Token → Bool
  | .word _ => true
  | _ => false

def ofIdentifier (cs : List Char) : Token :=
  if cs = ['c', 'o', 'n', 's', 't'] then .const else .word (String.ofList cs)

end Token

/-- The tokens of a text, or the first character that begins none. -/
def tokenize : List Char → Except Char (List Token)
  | [] => .ok []
  | c :: rest =>
      if Text.isBlank c then tokenize rest
      else if c = '*' then (Token.star :: ·) <$> tokenize rest
      else if Text.isIdentifierStart c then
        (Token.ofIdentifier (c :: rest.takeWhile Text.isIdentifierChar) :: ·) <$>
          tokenize (rest.dropWhile Text.isIdentifierChar)
      else if Text.isLetter c then (Token.word (String.singleton c) :: ·) <$> tokenize rest
      else .error c
termination_by cs => cs.length
decreasing_by
  · simp
  · simp
  · have := (List.dropWhile_sublist (l := rest) Text.isIdentifierChar).length_le
    simp; omega
  · simp

end GLBindings.Declaration
