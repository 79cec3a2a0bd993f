/-
# Generated modules

The three kinds of module in a package, each first as a list of lines: a module per version, the
module of the table that a family shares, and the module that re-exports the rest.
-/
import GLBindings.Bindings.Header
import GLBindings.Bindings.Literal
import GLBindings.Bindings.Loader
import GLBindings.Settings
import GLBindings.Text.LowerCase

namespace GLBindings.Bindings

set_option autoImplicit false

/-- What every file generated in one run has in common. -/
structure Generator where
  spec : Spec
  settings : Settings := {}
  generatedAt : Option Moment := none

def textOfLines (lines : List String) : String := "\n".intercalate lines ++ "\n"

def moduleName (versionName : String) : String := Text.lower versionName

/-- What a family is called in documentation. -/
def familyTitle (family : String) : String :=
  if family = "GL" then "OpenGL" else if family = "GLES" then "OpenGL ES" else family

/-! ## Version modules -/

def constantLine (c : Constant) : Except LiteralError String := do
  let width ← literalWidth c.value.toList
  return c.name ++ " = " ++ c.value ++ (if width = .wide then "  # 64-bit" else "")

def constantLines (constants : List Constant) : Except LiteralError (List String) :=
  match constants with
  | [] => .ok []
  | constants => do return ["", "", "# Enums"] ++ (← constants.mapM constantLine)

/-- A parameter with its type, as a signature has it. -/
def annotated (p : Parameter) : String := unreserved p.name ++ ": " ++ ctypeName p.type

def commaSeparated (items : List String) : String := ", ".intercalate items

/-- The method that calls a command through its slot. -/
def wrapper (c : Command) : List String := [
  "",
  "    def " ++ c.name ++ "(" ++ commaSeparated ("self" :: c.parameters.map annotated) ++ ") -> " ++
    ctypeName c.result ++ ":",
  "        " ++ (if isVoid c.result then "" else "return ") ++ "self._slots[" ++ inQuotes c.name ++
    "].pointer(" ++ commaSeparated (c.parameters.map fun p => unreserved p.name) ++ ")"]

def commandNames (commands : List Command) : List String :=
  ["", "", "COMMANDS = ("] ++ commands.map (fun c => indent ++ inQuotes c.name ++ ",") ++ [")"]

/-- The class of a version up to its wrappers. -/
def versionClass (version : Version) (tableClass : String) : List String := [
  "",
  "",
  "class " ++ version.name ++ ":",
  docLine 1 (familyTitle version.family ++ " " ++ version.number ++ " entry points."),
  "",
  "    def __init__(self, interop=None, get_proc_address=None):",
  "        self._owns_interop = interop is None",
  "        self.interop = " ++ tableClass ++ "() if interop is None else interop",
  "        self.get_proc_address = get_proc_address",
  "        self._slots = self.interop.slots",
  "",
  "    def __enter__(self):",
  "        return self",
  "",
  "    def __exit__(self, *exc_info):",
  "        self.close()",
  "",
  "    def close(self):",
  docLine 2 "Drop the function pointers; a shared table passed in is left alone.",
  "        if self._owns_interop:",
  "            self.interop.close()",
  "        self.interop = None",
  "        self._slots = \x7b\x7d"]

def tableOwner (storage : Storage) (version : Version) : String :=
  match storage with
  | .isolated => version.name
  | .shared => version.family

/-- The line that imports the shared table, and the error class where errors are checked. -/
def sharedImport (errorCheck : Bool) (tableClass : String) : String :=
  "from .interop import " ++
    commaSeparated (tableClass :: if errorCheck then ["LoadError"] else [])

namespace Generator

def header (g : Generator) : List String := fileHeader g.spec.notice g.generatedAt

def versionLines (g : Generator) (version : Version) : Except LiteralError (List String) := do
  let constants ← constantLines version.constants
  let commands := version.commands
  let storage := g.settings.storage
  let errorCheck := g.settings.errorCheck
  let owner := tableOwner storage version
  return g.header ++
    ctypesImports commands (storage = .isolated) ++
    (if storage = .shared then ["", sharedImport errorCheck (tableClass owner)] else []) ++
    typeAliases commands ++
    constants ++
    (if storage = .isolated then
      storageHelpers errorCheck ++ interopTable (tableClass owner) commands owner
    else []) ++
    commandNames commands ++
    versionClass version (tableClass owner) ++
    commands.flatMap wrapper ++
    loadAllFunction errorCheck version.name ++
    loadOneFunction errorCheck

def versionModule (g : Generator) (version : Version) : Except LiteralError String :=
  (g.versionLines version).map textOfLines

/-! ## Interop modules -/

/-- The lines of the module of the table that a family shares. -/
def interopLines (g : Generator) (family : String) (commands : List Command) : List String :=
  g.header ++
    ctypesImports commands true ++
    typeAliases commands ++
    storageHelpers g.settings.errorCheck ++
    interopTable (tableClass family) commands ("every " ++ family ++ " version")

def interopModule (g : Generator) (family : String) (commands : List Command) : String :=
  textOfLines (g.interopLines family commands)

/-! ## Package modules -/

/-- The modules that a package re-exports, each with the class it takes from it. -/
def exports (g : Generator) (family : String) (versions : List Version) :
    List (String × String) :=
  (if g.settings.storage = .shared then [("interop", tableClass family)] else []) ++
    versions.map fun version => (moduleName version.name, version.name)

/-- The lines of the module that re-exports the modules of a package. -/
def packageLines (g : Generator) (family : String) (versions : List Version) : List String :=
  let exported := g.exports family versions
  g.header ++
    exported.map (fun (file, name) => "from ." ++ file ++ " import " ++ name) ++
    ["", "__all__ = ["] ++
    exported.map (fun (_, name) => indent ++ inQuotes name ++ ",") ++
    ["]"]

def packageModule (g : Generator) (family : String) (versions : List Version) : String :=
  textOfLines (g.packageLines family versions)

/-! ## Warnings -/

/-- The keywords that some generated module declares an alias for. -/
def unrecognizedTypes (g : Generator) : List String :=
  sortedNames <| g.spec.versions.flatMap fun version =>
    ((mentionedTypes version.commands).filter (·.base == .unrecognized)).map ctype

end Generator

end GLBindings.Bindings
