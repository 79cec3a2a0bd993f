/-
# Paths

A path is a root, if it is absolute, and the components after it.  Empty components and single dots
mean nothing and are dropped; double dots are kept, because what they lead to depends on the files.
-/
namespace GLBindings.Files

set_option autoImplicit false

structure Path where
  /-- The slashes that a path from the top begins with; nothing for one from the working folder. -/
  root : String := ""
  components : List String
  deriving DecidableEq

def slashPieces : List Char → List (List Char)
  | [] => [[]]
  | '/' :: rest => [] :: slashPieces rest
  | c :: rest =>
      match slashPieces rest with
      | [] => [[c]]
      | piece :: more => (c :: piece) :: more

/-- The root of a path: exactly two slashes at its front are another root than one. -/
def rootOf : List Char → String
  | '/' :: '/' :: '/' :: _ => "/"
  | '/' :: '/' :: _ => "//"
  | '/' :: _ => "/"
  | _ => ""

namespace Path

def ofString (text : String) : Path where
  root := rootOf text.toList
  components := ((slashPieces text.toList).map String.ofList).filter fun piece =>
    piece != "" && piece != "."

def toString (path : Path) : String :=
  match path.root, path.components with
  | "", [] => "."
  | root, components => root ++ "/".intercalate components

/-- The path that `next` means from this one. -/
def join (path next : Path) : Path :=
  if next.root = "" then { path with components := path.components ++ next.components } else next

/-- The path of a file or folder named by a text from this one on. -/
def child (path : Path) (text : String) : Path := path.join (ofString text)

def parent (path : Path) : Path := { path with components := path.components.dropLast }

end Path

end GLBindings.Files
