/-
# Settings

What a run of the generator can be asked for.
-/
namespace GLBindings

set_option autoImplicit false

/-- Where the generated modules keep their function pointers. -/
inductive Storage where
  /-- In one private table per version module. -/
  | isolated
  /-- In one table per family, which every version refers to. -/
  | shared
  deriving DecidableEq

/-- How bindings are generated, and for which profile the registry is read. -/
structure Settings where
  storage : Storage := .shared
  errorCheck : Bool := true
  profile : String := "core"
  deriving DecidableEq

def Storage.name : Storage → String
  | .isolated => "isolated"
  | .shared => "shared"

/-- A problem with the settings, with a suggestion where there is one. -/
structure SettingsError where
  code : String
  message : String
  suggestion : Option String := none
  deriving DecidableEq

def settingsErrorCodes : List String := ["INVALID_PROFILE"]

/-- A problem of a known code; of any other, the text that refuses it. -/
def SettingsError.make (code message : String) (suggestion : Option String := none) :
    Except String SettingsError :=
  if code ∈ settingsErrorCodes then .ok { code, message, suggestion }
  else .error ("Unknown config error code: " ++ code)

def profiles : List String := ["core", "compatibility"]

/-- The profile, if it is one. -/
def checkProfile (profile : String) : Except SettingsError String :=
  if profile ∈ profiles then .ok profile
  else .error {
    code := "INVALID_PROFILE"
    message := "Unsupported profile: " ++ profile
    suggestion := some "Use one of: core, compatibility." }

end GLBindings
