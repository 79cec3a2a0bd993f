/-
# Registries

What has been read of a registry: its notice, the constants by name and api, the commands by name,
and the versions of its apis.  Constants keep the first value declared for a name and an api,
commands the last declaration of a name.  Reading that fails keeps what was read before the failure.
-/
import GLBindings.Registry.Keyed
import GLBindings.Registry.History
import GLBindings.Declaration.Basic
import GLBindings.Xml.Document

namespace GLBindings

open Registry (Keyed Api Names Feature Histories)
open Declaration (DeclarationError)
open Xml (Element)

set_option autoImplicit false

structure Registry where
  notice : String := ""
  constants : Keyed String (Keyed (Option String) Constant) := []
  commands : Keyed String Command := []
  versions : List Version := []
  deriving DecidableEq

/-- What a registry leaves undeclared. -/
inductive RegistryError where
  | missingPrototype
  | undeclaredConstant (name : Option String)
  | undeclaredCommand (name : Option String)
  deriving DecidableEq

/-- The message for an undeclared thing; an entry without a name is shown as `None`. -/
def RegistryError.message : RegistryError → String
  | .missingPrototype => "Command is missing its <proto> element"
  | .undeclaredConstant name => "Feature requires undeclared enum " ++ name.getD "None"
  | .undeclaredCommand name => "Feature requires undeclared command " ++ name.getD "None"

inductive ReadError where
  | declaration (error : DeclarationError)
  | registry (error : RegistryError)
  deriving DecidableEq

def ReadError.message : ReadError → String
  | .declaration error => error.message
  | .registry error => error.message

namespace Registry

/-- What a reading step leaves: the registry as far as it got, and what stopped it. -/
structure Reading where
  registry : Registry
  failure : Option ReadError := none
  deriving DecidableEq

/-! ## Notice -/

/-- Reads the comment at the head of the registry. -/
def readNotice (registry : Registry) (root : Element) : Registry :=
  match root.child? "comment" with
  | none => registry
  | some comment =>
      if comment.text = "" then registry else { registry with notice := Text.trim comment.text }

/-! ## Constants -/

/-- The constant that an element declares, and the api it is declared for. -/
def constantOf? (e : Element) : Option (Option String × Constant) := do
  let name ← e.attribute? "name"
  let value ← e.attribute? "value"
  if name = "" ∨ value = "" then none
  return (e.attribute? "api", { name, value })

def declaredConstants (root : Element) : List (Option String × Constant) :=
  ((root.childrenNamed "enums").flatMap (·.childrenNamed "enum")).filterMap constantOf?

/-- The constants with one more declaration, which counts if it is the first for its api. -/
def declareConstant (constants : Keyed String (Keyed (Option String) Constant))
    (declared : Option String × Constant) : Keyed String (Keyed (Option String) Constant) :=
  let (api, constant) := declared
  constants.put constant.name (((constants.find? constant.name).getD []).addNew api constant)

def readConstants (registry : Registry) (root : Element) : Registry :=
  { registry with constants := (declaredConstants root).foldl declareConstant registry.constants }

/-! ## Commands -/

def readParameter (e : Element) : Except DeclarationError Parameter := do
  let (type, name) ← Declaration.parse e
  return { type, name, group := e.attribute? "group" }

def readCommand (e : Element) : Except ReadError Command := do
  match e.child? "proto" with
  | none => .error (.registry .missingPrototype)
  | some prototype =>
      let (result, name) ← (Declaration.parse prototype).mapError .declaration
      let parameters ← ((e.childrenNamed "param").mapM readParameter).mapError .declaration
      return { name, result, parameters }

def commandElements (root : Element) : List Element :=
  (root.childrenNamed "commands").flatMap (·.childrenNamed "command")

/-- Reads commands one by one up to the first that fails. -/
def readEachCommand (registry : Registry) : List Element → Reading
  | [] => { registry }
  | e :: rest =>
      match readCommand e with
      | .error failure => { registry, failure := some failure }
      | .ok command =>
          readEachCommand
            { registry with commands := registry.commands.put command.name command } rest

def readCommands (registry : Registry) (root : Element) : Reading :=
  registry.readEachCommand (commandElements root)

/-! ## Looking up -/

/-- The constant with the name: as declared for the api, else as declared for every api, else as
declared first. -/
def lookupConstant (registry : Registry) (api : Option String) (name : Option String) :
    Except RegistryError Constant :=
  match name.bind registry.constants.find? with
  | none => .error (.undeclaredConstant name)
  | some byApi =>
      match (byApi.find? api).or ((byApi.find? none).or (byApi.head?.map Prod.snd)) with
      | some constant => .ok constant
      | none => .error (.undeclaredConstant name)

def lookupCommand (registry : Registry) (name : Option String) : Except RegistryError Command :=
  match name.bind registry.commands.find? with
  | some command => .ok command
  | none => .error (.undeclaredCommand name)

/-! ## Versions -/

/-- The name of a version: its family, and its number without the dots. -/
def versionName (family number : String) : String :=
  family ++ String.ofList (number.toList.filter (· != '.'))

def version (registry : Registry) (api : Api) (number : String) (live : Names) :
    Except RegistryError Version := do
  let constants ← live.constants.mapM (registry.lookupConstant (some api.name))
  let commands ← live.commands.mapM registry.lookupCommand
  return {
    family := api.family
    name := versionName api.family number
    number
    constants
    commands }

/-- The versions that features lead to, and what stopped them if a live name is undeclared. -/
def versionsOf (registry : Registry) (histories : Histories) :
    List Feature → List Version × Option RegistryError
  | [] => ([], none)
  | feature :: rest =>
      let live := (histories.get feature.api).after feature
      match registry.version feature.api feature.number live with
      | .error failure => ([], some failure)
      | .ok version =>
          let (versions, failure) := registry.versionsOf (histories.set feature.api live) rest
          (version :: versions, failure)

/-- Reads the features; every version carries what earlier ones of its api required and what has not
been removed since. -/
def readFeatures (registry : Registry) (root : Element) (profile : String := "core") : Reading :=
  let (versions, failure) := registry.versionsOf {} (featuresOf profile root)
  { registry := { registry with versions := registry.versions ++ versions }
    failure := failure.map .registry }

/-! ## The registry as a whole -/

def spec (registry : Registry) : Spec := { versions := registry.versions, notice := registry.notice }

/-- A reading step that has to succeed. -/
def Reading.result (reading : Reading) : Except ReadError Registry :=
  match reading.failure with
  | none => .ok reading.registry
  | some failure => .error failure

def read (root : Element) (profile : String := "core") : Except ReadError Registry := do
  let declared := (({} : Registry).readNotice root).readConstants root
  let withCommands ← (declared.readCommands root).result
  (withCommands.readFeatures root profile).result

end Registry

inductive LoadError where
  | document (error : Xml.DocumentError)
  | read (error : ReadError)
  deriving DecidableEq

def Spec.load (bytes : List UInt8) (profile : String := "core") : Except LoadError Spec := do
  let root ← (Xml.readDocument bytes).mapError .document
  return (← (Registry.read root profile).mapError .read).spec

end GLBindings
