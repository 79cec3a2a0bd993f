/-
# A model of a machine

The surroundings of a run as a value: the files, the clock, what fetching would do, what has been
printed so far, and to which paths fetching was attempted.
-/
import GLBindings.CommandLine.Run

namespace GLBindings.CommandLine

open Files (Path Tree FileError)

set_option autoImplicit false

/-- What fetching the registry does. -/
inductive Download where
  /-- The file is written with these bytes. -/
  | content (bytes : List UInt8)
  /-- Fetching succeeds and writes nothing. -/
  | nothing
  | fails (reason : String)
  deriving DecidableEq

/-- The surroundings of a run. -/
structure Machine where
  tree : Tree := {}
  clock : Moment
  download : Download
  printed : String := ""
  reported : String := ""
  fetches : List Path := []

namespace Machine

def fetch (machine : Machine) (path : Path) : Except FetchError Unit × Machine :=
  let machine := { machine with fetches := machine.fetches ++ [path] }
  match machine.download with
  | .nothing => (.ok (), machine)
  | .fails reason => (.error (.failed reason), machine)
  | .content bytes =>
      match machine.tree.write path bytes with
      | .ok tree => (.ok (), { machine with tree })
      | .error .impossibleName => (.error (.broken .impossibleName), machine)
      | .error error =>
          (.error (.failed (error.describe ++ ": " ++ Text.quoted path.toString)), machine)

def host : Host (StateM Machine) where
  contains path := return (← get).tree.contains path
  read path := return (← get).tree.read path
  fetch path := fun machine => machine.fetch path
  take steps := fun machine =>
    let (tree, failure) := Bindings.takeSteps machine.tree steps
    (failure, { machine with tree })
  now := return (← get).clock
  print text := modify fun machine => { machine with printed := machine.printed ++ text }
  report text := modify fun machine => { machine with reported := machine.reported ++ text }

def run (machine : Machine) (arguments : List String) : Ending × Machine :=
  (CommandLine.run host arguments).run machine

/-- The files that are there after a run and were not there before, or not with these bytes. -/
def changedFiles (before after : Machine) : List (String × List UInt8) :=
  let known := before.tree.files
  after.tree.files.filter fun file => !known.contains file

end Machine

end GLBindings.CommandLine
