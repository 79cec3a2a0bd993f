/-
# File trees

Files and folders as a run sees them from its working folder.  Folders are created, files written
and read through paths; a path is followed component by component, each of which must lead to a
folder except the last.  What fails leaves everything as it was.
-/
import GLBindings.Files.Path

namespace GLBindings.Files

set_option autoImplicit false

/-- Where a file or folder is: the names that lead to it from the working folder. -/
abbrev Location := List String

inductive Entry where
  | file (bytes : List UInt8)
  | folder
  deriving DecidableEq

inductive FileError where
  | notFound
  | isFolder
  | notFolder
  | alreadyExists
  | nameTooLong
  /-- The path holds a character that no path can hold. -/
  | impossibleName
  deriving DecidableEq

def FileError.describe : FileError → String
  | .notFound => "[Errno 2] No such file or directory"
  | .isFolder => "[Errno 21] Is a directory"
  | .notFolder => "[Errno 20] Not a directory"
  | .alreadyExists => "[Errno 17] File exists"
  | .nameTooLong => "[Errno 36] File name too long"
  | .impossibleName => "embedded null byte"

/-- The files and folders below the working folder; one location is listed once. -/
structure Tree where
  entries : List (Location × Entry) := []
  deriving DecidableEq

namespace Tree

/-- The working folder and the folders above it, of which nothing else is known. -/
def isAbove (location : Location) : Bool :=
  location == ["/"] || location.all (· == "..")

def entry? (tree : Tree) (location : Location) : Option Entry :=
  if isAbove location then some .folder else tree.entries.lookup location

def set (tree : Tree) (location : Location) (entry : Entry) : Tree where
  entries := (location, entry) :: tree.entries.filter (·.1 != location)

def above (location : Location) : Location :=
  if location = ["/"] then location
  else if isAbove location then ".." :: location
  else location.dropLast

/-- Where one component of a path leads from a folder. -/
def enter (location : Location) (component : String) : Location :=
  if component = ".." then above location else location ++ [component]

/-- Where the components lead from a location, which must be a folder if there are any.  A name has
no more than 255 bytes. -/
def follow (tree : Tree) (location : Location) : List String → Except FileError Location
  | [] => .ok location
  | component :: rest =>
      match tree.entry? location with
      | some .folder =>
          if component.utf8ByteSize ≤ 255 then tree.follow (enter location component) rest
          else .error .nameTooLong
      | some (.file _) => .error .notFolder
      | none => .error .notFound

/-- Where a path leads.  A path has fewer than 4096 bytes. -/
def locate (tree : Tree) (path : Path) : Except FileError Location :=
  let written := path.toString
  if written.toList.contains '\x00' then .error .impossibleName
  else if written.utf8ByteSize < 4096 then
    tree.follow (if path.root = "" then [] else ["/"]) path.components
  else .error .nameTooLong

/-- What a path leads to, if it leads anywhere. -/
def at? (tree : Tree) (path : Path) : Option Entry :=
  match tree.locate path with
  | .ok location => tree.entry? location
  | .error _ => none

/-- Whether there is a file or folder at the path; this cannot be told where names are too long. -/
def contains (tree : Tree) (path : Path) : Except FileError Bool :=
  match tree.locate path with
  | .ok location => .ok (tree.entry? location).isSome
  | .error .nameTooLong => .error .nameTooLong
  | .error _ => .ok false

def read (tree : Tree) (path : Path) : Except FileError (List UInt8) := do
  match tree.entry? (← tree.locate path) with
  | some (.file bytes) => .ok bytes
  | some .folder => .error .isFolder
  | none => .error .notFound

/-- Writes a file, in a folder that is there. -/
def write (tree : Tree) (path : Path) (bytes : List UInt8) : Except FileError Tree := do
  let location ← tree.locate path
  match tree.entry? location with
  | some .folder => .error .isFolder
  | _ => .ok (tree.set location (.file bytes))

/-- Creates a folder, in one that is there. -/
def makeFolder (tree : Tree) (path : Path) : Except FileError Tree := do
  let location ← tree.locate path
  match tree.entry? location with
  | some _ => .error .alreadyExists
  | none => .ok (tree.set location .folder)

def hasFolder (tree : Tree) (path : Path) : Bool := tree.at? path == some .folder

/-- Makes sure of a folder in one that is there. -/
def ensureFolder (tree : Tree) (path : Path) : Tree × Option FileError :=
  match tree.makeFolder path with
  | .ok made => (made, none)
  | .error failure => (tree, if tree.hasFolder path then none else some failure)

/-- Makes sure of a folder and of all folders on the way to it.  Those made before a failure stay. -/
def ensureFolders (tree : Tree) (path : Path) : Tree × Option FileError :=
  match tree.makeFolder path with
  | .error .notFound =>
      if _below : path.components = [] then (tree, some .notFound)
      else
        match tree.ensureFolders path.parent with
        | (made, none) => made.ensureFolder path
        | (made, some failure) => (made, some failure)
  | _ => tree.ensureFolder path
termination_by path.components.length
decreasing_by
  have := List.length_pos_iff.2 _below
  simp [Path.parent]
  omega

/-- The files below the working folder, sorted by path. -/
def files (tree : Tree) : List (String × List UInt8) :=
  let below := tree.entries.filter fun (location, _) =>
    location.head? != some ".." && location.head? != some "/"
  let named := below.filterMap fun (location, entry) =>
    match entry with
    | .file bytes => some ("/".intercalate location, bytes)
    | .folder => none
  named.mergeSort fun a b => a.1 ≤ b.1

end Tree

end GLBindings.Files
