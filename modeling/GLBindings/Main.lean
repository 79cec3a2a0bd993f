/-
# Command line

Runs the generator on the machine itself.  There is no network client here: fetching always fails
and says so.
-/
import GLBindings.CommandLine.Run
import Std.Time.DateTime.Timestamp

namespace GLBindings.CommandLine

open Files (Path FileError)
open Bindings (Step Failure)

set_option autoImplicit false

def fileErrorOf : IO.Error → FileError
  | .alreadyExists .. => .alreadyExists
  | .inappropriateType _ 21 _ => .isFolder
  | .inappropriateType .. => .notFolder
  | .invalidArgument _ 36 _ => .nameTooLong
  | .invalidArgument .. => .impossibleName
  | _ => .notFound

def readFile (path : Path) : IO (Except FileError (List UInt8)) := do
  try
    let handle ← IO.FS.Handle.mk path.toString .read
    return .ok (← handle.readBinToEnd).toList
  catch error => return .error (fileErrorOf error)

/-- Whether there is a file or folder at a path on the machine.  Resolving the path fails without
saying why, which reading the file does. -/
def leadsSomewhere (path : Path) : IO (Except FileError Bool) := do
  try
    let _ ← IO.FS.realPath path.toString
    return .ok true
  catch _ =>
    match ← readFile path with
    | .error .nameTooLong => return .error .nameTooLong
    | _ => return .ok false

def takeStep : Step → IO (Option Failure)
  | .folder path => do
      try
        IO.FS.createDirAll path.toString
        return none
      catch error => return some (.file (fileErrorOf error))
  | .file _ (.error error) => return some (.literal error)
  | .file path (.ok text) => do
      try
        IO.FS.writeFile path.toString text
        return none
      catch error => return some (.file (fileErrorOf error))

/-- Takes steps of generating on the machine up to the first that fails. -/
def takeEach : List Step → IO (Option Failure)
  | [] => return none
  | step :: rest => do
      match ← takeStep step with
      | none => takeEach rest
      | some failure => return some failure

def machineHost : Host IO where
  contains := leadsSomewhere
  read := readFile
  fetch _ := return .error (.failed "no network client")
  take := takeEach
  now := return Moment.ofEpochSeconds (← Std.Time.Timestamp.now).toSecondsSinceUnixEpoch.toInt.toNat
  print text := IO.print text
  report text := IO.eprint text

end GLBindings.CommandLine

open GLBindings.CommandLine in
/-- Runs the command line and gives its exit status; a breakdown counts as a failure. -/
def main (arguments : List String) : IO UInt32 := do
  match ← run machineHost arguments with
  | .exit status => return status.toUInt32
  | .broken _ =>
      IO.eprintln "ctypesgl-generator: could not complete the run"
      return 1
