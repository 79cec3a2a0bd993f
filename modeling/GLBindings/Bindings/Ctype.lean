/-
# Ctypes names

The names that types go by in generated code: the ctypes class of a known type, `c_void_p` for
every pointer, `None` for no value, and for an unrecognized keyword an alias made from its spelling.
-/
import GLBindings.Spec
import GLBindings.Text.CharClass

namespace GLBindings.Bindings

set_option autoImplicit false

/-- The ctypes name of a base type, if it is recognized. -/
def baseCtype : BaseType → Option String
  | .boolean => some "c_bool"
  | .uint32 => some "c_uint32"
  | .int32 => some "c_int32"
  | .float32 => some "c_float"
  | .float64 => some "c_double"
  | .uint8 => some "c_uint8"
  | .int8 => some "c_int8"
  | .uint16 => some "c_uint16"
  | .int16 => some "c_int16"
  | .uint64 => some "c_uint64"
  | .int64 => some "c_int64"
  | .char => some "c_char"
  | .address => some "c_void_p"
  | .void => some "None"
  | .unrecognized => none

/-- The ctypes class of every pointer, and of types that nothing is known about. -/
def pointerCtype : String := "c_void_p"

/-- The ctypes classes that generated code can import. -/
def knownCtypes : List String := [
  "c_bool", "c_uint32", "c_int32", "c_float", "c_double", "c_uint8", "c_int8", "c_uint16",
  "c_int16", "c_uint64", "c_int64", "c_char", "c_void_p"]

/-- The type as ctypes knows it; an unrecognized keyword stands for itself. -/
def ctype (t : TypeRef) : String :=
  if t.shape = .plain then (baseCtype t.base).getD t.spelling else pointerCtype

def isVoid (t : TypeRef) : Bool := ctype t == "None"

/-! ## Names -/

/-- Words that no name in generated code may be. -/
def reservedWords : List String := [
  "False", "None", "True", "and", "as", "assert", "async", "await", "break", "class", "continue",
  "def", "del", "elif", "else", "except", "finally", "for", "from", "global", "if", "import", "in",
  "is", "lambda", "nonlocal", "not", "or", "pass", "raise", "return", "try", "while", "with",
  "yield"]

/-- A name that is no reserved word: one gets an underscore at its end. -/
def unreserved (name : String) : String := if name ∈ reservedWords then name ++ "_" else name

/-- Each run of characters that no name can hold, as one underscore; `inRun` tells whether the
character before belongs to such a run. -/
def joinRuns (inRun : Bool) : List Char → List Char
  | [] => []
  | c :: rest =>
      if Text.isWord c then c :: joinRuns false rest
      else if inRun then joinRuns true rest
      else '_' :: joinRuns true rest

/-- The name that stands in generated code for an unrecognized keyword. -/
def aliasName (keyword : String) : String :=
  unreserved (String.ofList (joinRuns false keyword.toList))

/-- The name that a type goes by in generated code. -/
def ctypeName (t : TypeRef) : String :=
  let name := ctype t
  if name ∈ knownCtypes ∨ name = "None" then name else aliasName name

end GLBindings.Bindings
