/-
# Loaders in generated code

The methods of a version class that resolve function pointers: all at once, or one by name.
-/
import GLBindings.Bindings.Table

namespace GLBindings.Bindings

set_option autoImplicit false

/-- A formatted text in generated code; the name of the command goes where `name` stands in it. -/
def aboutName (before after : String) : String :=
  "f\"" ++ before ++ "'\x7bname\x7d'" ++ after ++ "\""

/-- The body of the loop over all commands, with its failures reported. -/
def checkedLoadAll : List String := [
  "            try:",
  "                address = self.get_proc_address(name)",
  "            except Exception as error:",
  "                raise LoadError(",
  "                    name, " ++ aboutName "Failed to get function pointer for " ".",
  "                ) from error",
  "            if not address:",
  "                raise LoadError(name, " ++ aboutName "Failed to get function pointer for " "." ++ ")",
  "            try:",
  "                slot.pointer = slot.prototype(address)",
  "            except (TypeError, ValueError) as error:",
  "                raise LoadError(",
  "                    name, " ++
    aboutName "Failed to convert function address to a callable for " ".",
  "                ) from error"]

/-- The method that resolves every command of a version. -/
def loadAllFunction (errorCheck : Bool) (versionName : String) : List String :=
  [ "",
    "    def load_all_functions(self, get_proc_address=None):",
    docLine 2 ("Resolve every " ++ versionName ++ " command through *get_proc_address*."),
    "        if get_proc_address is not None:",
    "            self.get_proc_address = get_proc_address",
    "        for name in COMMANDS:",
    "            slot = self._slots[name]"] ++
  if errorCheck then checkedLoadAll
  else ["            slot.pointer = slot.prototype(self.get_proc_address(name))"]

/-- The body of the method for one command, with its failures reported. -/
def checkedLoadOne : List String := [
  "        slot = self._slots.get(name)",
  "        if slot is None:",
  "            raise LoadError(",
  "                name,",
  "                " ++
    aboutName "Failed to find function slot. Ensure " " is a valid OpenGL function." ++ ",",
  "            )",
  "        try:",
  "            address = self.get_proc_address(name)",
  "        except Exception as error:",
  "            raise LoadError(name, " ++ aboutName "Failed to load function " "." ++
    ") from error",
  "        if not address:",
  "            raise LoadError(",
  "                name,",
  "                " ++
    aboutName "Failed to find function address. Ensure " " is a valid OpenGL function." ++ ",",
  "            )",
  "        try:",
  "            pointer = slot.prototype(address)",
  "        except (TypeError, ValueError) as error:",
  "            raise LoadError(",
  "                name, " ++ aboutName "Failed to convert function address to a callable for " ".",
  "            ) from error",
  "        slot.pointer = pointer"]

/-- The method that resolves a single command by name. -/
def loadOneFunction (errorCheck : Bool) : List String :=
  [ "",
    "    def load_function(self, name):",
    docLine 2 "Resolve, or re-resolve, a single command by name."] ++
  if errorCheck then checkedLoadOne
  else [
    "        slot = self._slots[name]",
    "        slot.pointer = slot.prototype(self.get_proc_address(name))"]

end GLBindings.Bindings
