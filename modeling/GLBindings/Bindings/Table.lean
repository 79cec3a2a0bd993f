/-
# Tables in generated code

The lines of a generated module that hold function pointers: the slot class with the error class
that loading raises, and the table from command names to slots.
-/
import GLBindings.Bindings.Import

namespace GLBindings.Bindings

set_option autoImplicit false

def indent : String := "    "

def inQuotes (s : String) : String := "\"" ++ s ++ "\""

def docLine (depth : Nat) (s : String) : String :=
  String.join (List.replicate depth indent) ++ "\"\"\"" ++ s ++ "\"\"\""

def tableClass (owner : String) : String := owner ++ "Interop"

/-- The error class that loading raises. -/
def errorClass : List String := [
  "",
  "",
  "class LoadError(RuntimeError):",
  docLine 1 "An entry point could not be resolved.",
  "",
  "    def __init__(self, name, message):",
  "        super().__init__(message)",
  "        self.name = name"]

/-- The class of a slot for one function pointer. -/
def slotClass : List String := [
  "",
  "",
  "class FunctionSlot:",
  docLine 1 "Assignable storage for one resolved entry point.",
  "",
  "    __slots__ = (\"name\", \"prototype\", \"pointer\")",
  "",
  "    def __init__(self, name, prototype):",
  "        self.name = name",
  "        self.prototype = prototype",
  "        self.pointer = None"]

/-- The classes that tables are made with. -/
def storageHelpers (errorCheck : Bool) : List String :=
  (if errorCheck then errorClass else []) ++ slotClass

def prototypeEntry (c : Command) : String := indent ++ inQuotes c.name ++ ": " ++ prototype c ++ ","

def prototypeTable (commands : List Command) : List String :=
  ["", "", "PROTOTYPES = \x7b"] ++ commands.map prototypeEntry ++ ["\x7d"]

/-- The class of a table with a slot for every prototype. -/
def tableClassLines (className owner : String) : List String := [
  "",
  "",
  "class " ++ className ++ ":",
  docLine 1 ("Function pointer storage for " ++ owner ++ "."),
  "",
  "    def __init__(self):",
  "        self.slots = \x7b",
  "            name: FunctionSlot(name, prototype)",
  "            for name, prototype in PROTOTYPES.items()",
  "        \x7d",
  "",
  "    def close(self):",
  "        for slot in self.slots.values():",
  "            slot.pointer = None",
  "        self.slots.clear()"]

def interopTable (className : String) (commands : List Command) (owner : String) : List String :=
  prototypeTable commands ++ tableClassLines className owner

end GLBindings.Bindings
