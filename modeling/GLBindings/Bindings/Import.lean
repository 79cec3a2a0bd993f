/-
# Imports and aliases

What a generated module has to bind before it can name its types: the ctypes classes it imports, and
the aliases it declares for unrecognized keywords.
-/
import GLBindings.Bindings.Ctype

namespace GLBindings.Bindings

set_option autoImplicit false

/-- The texts without repetitions, in code point order. -/
def sortedNames (names : List String) : List String := names.eraseDups.mergeSort (· ≤ ·)

def mentionedTypes (commands : List Command) : List TypeRef := commands.flatMap Command.types

/-- The unrecognized keywords that need an alias, sorted. -/
def aliasKeywords (commands : List Command) : List String :=
  sortedNames <| (((mentionedTypes commands).filter (·.base == .unrecognized)).map ctype).filter
    fun name => !knownCtypes.contains name

def aliasLine (keyword : String) : String :=
  let name := aliasName keyword
  name ++ " = " ++ pointerCtype ++ (if name = keyword then "" else "  # " ++ keyword)

/-- The lines that declare the aliases of a module, if it needs any. -/
def typeAliases (commands : List Command) : List String :=
  match aliasKeywords commands with
  | [] => []
  | keywords => ["", "", "# Opaque types"] ++ keywords.map aliasLine

def prototype (c : Command) : String :=
  "CFUNCTYPE(" ++ ", ".intercalate (c.types.map ctypeName) ++ ")"

/-- The ctypes classes that the types of the commands and their aliases need, sorted. -/
def importedCtypes (commands : List Command) : List String :=
  let used := ((mentionedTypes commands).map ctype).filter knownCtypes.contains
  let forAliases := if aliasKeywords commands = [] then [] else [pointerCtype]
  sortedNames (used ++ forAliases)

/-- The names a module imports from ctypes; `prototypes` tells whether it writes prototypes. -/
def importedNames (commands : List Command) (prototypes : Bool) : List String :=
  (if prototypes then ["CFUNCTYPE"] else []) ++ importedCtypes commands

/-- The line that imports the ctypes names of a module, if it needs any. -/
def ctypesImports (commands : List Command) (prototypes : Bool) : List String :=
  match importedNames commands prototypes with
  | [] => []
  | names => ["from ctypes import " ++ ", ".intercalate names]

end GLBindings.Bindings
