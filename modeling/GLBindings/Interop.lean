/-
# Interop tables

A family of versions can share one table of function pointers.  It holds every command of the
family once, sorted by name; of several declarations of a name the first one met counts.
-/
import GLBindings.Spec

namespace GLBindings

set_option autoImplicit false

/-- The commands without those whose name has come before. -/
def firstOfEachName (commands : List Command) : List Command :=
  commands.foldl (fun kept c => if kept.any (·.name == c.name) then kept else kept ++ [c]) []

def versionsIn (versions : List Version) (family : String) : List Version :=
  versions.filter (·.family == family)

/-- The commands of a family's interop table. -/
def interopCommands (versions : List Version) (family : String) : List Command :=
  (firstOfEachName ((versionsIn versions family).flatMap Version.commands)).mergeSort
    fun a b => a.name ≤ b.name

end GLBindings
