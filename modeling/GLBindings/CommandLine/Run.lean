/-
# Runs of the command line

A run reads its arguments, makes sure of the registry, reads it and generates the bindings, telling
what it does as it goes.  It reaches files, clock and network through a `Host`, so that it can be
run on the machine and on a model of one alike.  Nothing is written before all has been read, the
registry itself excepted.
-/
import GLBindings.Bindings.Package
import GLBindings.CommandLine.Usage
import GLBindings.Registry.Basic

namespace GLBindings.CommandLine

open Files (Path FileError)
open Bindings (Generator Step Failure writtenPaths)

set_option autoImplicit false

/-- Why fetching the registry does not succeed. -/
inductive FetchError where
  /-- It failed, for a reason that can be told. -/
  | failed (reason : String)
  /-- It could not even be tried. -/
  | broken (error : FileError)
  deriving DecidableEq

/-- What a run needs of its surroundings. -/
structure Host (m : Type → Type) where
  /-- Whether there is a file or folder at a path. -/
  contains : Path → m (Except FileError Bool)
  /-- The bytes of the file at a path. -/
  read : Path → m (Except FileError (List UInt8))
  /-- Fetches the registry to a path, or says why that failed. -/
  fetch : Path → m (Except FetchError Unit)
  /-- Takes the steps of generating up to the first that fails. -/
  take : List Step → m (Option Failure)
  /-- The present moment. -/
  now : m Moment
  /-- Writes to standard output. -/
  print : String → m Unit
  /-- Writes to standard error. -/
  report : String → m Unit

/-- Why a run breaks off without an exit status. -/
inductive Breakdown where
  /-- A setting without a value is needed. -/
  | valueAbsent (setting : Setting)
  | file (error : FileError)
  | document (error : Xml.DocumentError)
  | generating (failure : Failure)
  deriving DecidableEq

inductive Ending where
  | exit (status : Nat)
  | broken (breakdown : Breakdown)
  deriving DecidableEq

def registryUrl : String :=
  "https://raw.githubusercontent.com/KhronosGroup/OpenGL-Registry/main/xml/gl.xml"

/-- The settings that options ask for, with a profile. -/
def Options.settings (options : Options) (profile : String) : Except SettingsError Settings := do
  return {
    storage := if options.isolated then .isolated else .shared
    errorCheck := !options.noErrorCheck
    profile := ← checkProfile profile }

variable {m : Type → Type} [Monad m]

def Host.printLine (host : Host m) (line : String) : m Unit := host.print (line ++ "\n")

def Host.printLines (host : Host m) : List String → m Unit
  | [] => pure ()
  | line :: rest => do
      host.printLine line
      host.printLines rest

/-! ## Stages of a run -/

/-- A stage of a run, which may end the run. -/
abbrev Stage (m : Type → Type) := ExceptT Ending m

/-- The answer of the surroundings, without which the run breaks off. -/
def orBreak {α : Type} (answer : m (Except FileError α)) : Stage m α := do
  match ← answer with
  | .ok a => return a
  | .error error => throw (.broken (.file error))

/-- The value of a setting, without which the run breaks off. -/
def orAbsent {α : Type} (setting : Setting) : Option α → Stage m α
  | some a => return a
  | none => throw (.broken (.valueAbsent setting))

/-- Fetches the registry unless it is there and need not be fetched anew. -/
def obtain (host : Host m) (path : Path) (force : Bool) : Stage m Unit := do
  if (← orBreak (host.contains path)) && !force then
    host.printLine <|
      "gl.xml already exists at " ++ path.toString ++ ". Use --force to re-download."
  else
    host.printLine ("Downloading gl.xml from " ++ registryUrl ++ "...")
    match ← host.fetch path with
    | .ok () => host.printLine ("Downloaded gl.xml to " ++ path.toString)
    | .error (.failed reason) =>
        host.printLine ("Failed to download gl.xml: " ++ reason)
        throw (.exit 1)
    | .error (.broken error) => throw (.broken (.file error))

/-- The settings that a run goes by. -/
def settle (host : Host m) (options : Options) : Stage m Settings := do
  let profile ← orAbsent .profile options.profile
  match options.settings profile with
  | .ok settings => return settings
  | .error error =>
      host.printLine ("Config error [" ++ error.code ++ "]: " ++ error.message)
      host.printLines <| (error.suggestion.filter (· != "")).toList.map fun suggestion =>
        "Hint: " ++ suggestion
      throw (.exit 1)

/-- Makes sure that there is a registry, and gives the path to it. -/
def ensureRegistry (host : Host m) (options : Options) : Stage m Path := do
  let path ← orAbsent .registry options.registry
  let wanted ← if options.download then pure true else (!·) <$> orBreak (host.contains path)
  if wanted then obtain host path options.force
  if ← orBreak (host.contains path) then return path
  host.printLine ("gl.xml not found at " ++ path.toString ++ ". Use --download to fetch it.")
  throw (.exit 1)

def readSpec (host : Host m) (path : Path) (profile : String) : Stage m Spec := do
  host.printLine ("Parsing " ++ path.toString ++ " (" ++ profile ++ " profile)...")
  match Spec.load (← orBreak (host.read path)) profile with
  | .ok spec => return spec
  | .error (.document error) => throw (.broken (.document error))
  | .error (.read error) =>
      host.printLine ("Error: " ++ error.message)
      throw (.exit 1)

/-- What a run does before it generates: it settles how, makes sure of the registry and reads it. -/
def prepare (host : Host m) (options : Options) : Stage m (Settings × Spec) := do
  let settings ← settle host options
  let path ← ensureRegistry host options
  let spec ← readSpec host path settings.profile
  return (settings, spec)

def versionSummary (v : Version) : String :=
  "  " ++ v.name ++ ": " ++ toString v.commands.length ++ " functions, " ++
    toString v.constants.length ++ " enums"

/-- Writes the packages to a folder and tells which files were written. -/
def writePackages (host : Host m) (generator : Generator) (output : Path) : Stage m Unit := do
  let steps := generator.steps output
  match ← host.take steps with
  | some failure => throw (.broken (.generating failure))
  | none => host.printLines <| (writtenPaths steps).map fun path => "  wrote " ++ path.toString

/-- Generates bindings from a specification.  Where it holds no family, no folder is needed. -/
def generate (host : Host m) (options : Options) (settings : Settings) (spec : Spec) :
    Stage m Unit := do
  let generatedAt ← if options.noTimestamp then pure none else some <$> host.now
  let generator : Generator := { spec, settings, generatedAt }
  host.printLines <| generator.unrecognizedTypes.map fun keyword =>
    "Warning: unrecognized type " ++ keyword ++ " declared as an opaque c_void_p"
  host.printLine ("Generating " ++ settings.storage.name ++ " bindings...")
  if !spec.families.isEmpty then
    writePackages host generator (← orAbsent .output options.output)
  host.printLines (spec.versions.map versionSummary)
  host.printLine ("Output written to: " ++ (options.output.map Path.toString).getD "[]")

/-- Runs with options that have been read. -/
def runOptions (host : Host m) (options : Options) : Stage m Unit := do
  let ready ← prepare host options
  generate host options ready.1 ready.2

def run (host : Host m) (arguments : List String) : m Ending :=
  match readArguments arguments with
  | .error error => do
      host.report error.report
      return .exit 2
  | .ok .help => do
      host.print help
      return .exit 0
  | .ok (.run options) => do
      match ← (runOptions host options).run with
      | .ok () => return .exit 0
      | .error ending => return ending

end GLBindings.CommandLine
