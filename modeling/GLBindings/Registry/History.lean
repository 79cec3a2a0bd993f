/-
# Histories

Each api has a history of its own: the names that are live after its features so far.  A feature
adds the names it requires, each at the end unless it is live already, and then takes out the names
it removes.
-/
import GLBindings.Registry.Feature

namespace GLBindings.Registry

set_option autoImplicit false

def addName (live : List (Option String)) (name : Option String) : List (Option String) :=
  if name ∈ live then live else live ++ [name]

def removeName (live : List (Option String)) (name : Option String) : List (Option String) :=
  live.filter (· != name)

/-- The live names after some are required and then some removed. -/
def advance (live required removed : List (Option String)) : List (Option String) :=
  removed.foldl removeName (required.foldl addName live)

def Names.after (live : Names) (feature : Feature) : Names where
  constants := advance live.constants feature.required.constants feature.removed.constants
  commands := advance live.commands feature.required.commands feature.removed.commands

/-- The live names of every api. -/
structure Histories where
  gl : Names := {}
  gles1 : Names := {}
  gles2 : Names := {}

namespace Histories

def get (histories : Histories) : Api → Names
  | .gl => histories.gl
  | .gles1 => histories.gles1
  | .gles2 => histories.gles2

def set (histories : Histories) (api : Api) (live : Names) : Histories :=
  match api with
  | .gl => { histories with gl := live }
  | .gles1 => { histories with gles1 := live }
  | .gles2 => { histories with gles2 := live }

@[simp] theorem get_set (histories : Histories) (api other : Api) (live : Names) :
    (histories.set api live).get other = if other = api then live else histories.get other := by
  cases api <;> cases other <;> rfl

end Histories

end GLBindings.Registry
