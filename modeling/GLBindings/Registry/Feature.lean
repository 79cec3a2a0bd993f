/-
# Features

A feature of a registry belongs to one api and adds a version to it.  It requires and removes names
of constants and commands; a block of either kind may be meant for one api or one profile only.
-/
import GLBindings.Xml.Element

namespace GLBindings.Registry

open Xml (Element)

set_option autoImplicit false

/-- The apis that bindings are made for. -/
inductive Api where
  | gl
  | gles1
  | gles2
  deriving DecidableEq

namespace Api

def name : Api → String
  | .gl => "gl"
  | .gles1 => "gles1"
  | .gles2 => "gles2"

def family : Api → String
  | .gl => "GL"
  | .gles1 => "GLES"
  | .gles2 => "GLES"

def ofName? (name : String) : Option Api :=
  if name = "gl" then some .gl
  else if name = "gles1" then some .gles1
  else if name = "gles2" then some .gles2
  else none

end Api

/-- Names of constants and of commands; an entry that bears no name still counts as one. -/
structure Names where
  constants : List (Option String) := []
  commands : List (Option String) := []
  deriving DecidableEq

/-- A feature as far as it concerns one profile. -/
structure Feature where
  api : Api
  number : String
  required : Names
  removed : Names
  deriving DecidableEq

/-- A block counts unless it is meant for another profile or another api. -/
def applies (api : Api) (profile : String) (block : Element) : Bool :=
  (block.attribute? "profile").all (· == profile) && (block.attribute? "api").all (· == api.name)

def mentions (kind : String) (blocks : List Element) : List (Option String) :=
  blocks.flatMap fun block => (block.childrenNamed kind).map fun entry => entry.attribute? "name"

def Names.ofBlocks (blocks : List Element) : Names where
  constants := mentions "enum" blocks
  commands := mentions "command" blocks

/-- The feature that an element stands for, if its api is known and it has a number. -/
def Feature.ofElement? (profile : String) (e : Element) : Option Feature := do
  let api ← Api.ofName? (← e.attribute? "api")
  let number ← e.attribute? "number"
  if number = "" then none
  let blocks (kind : String) := (e.childrenNamed kind).filter (applies api profile)
  return {
    api
    number
    required := Names.ofBlocks (blocks "require")
    removed := Names.ofBlocks (blocks "remove") }

def featuresOf (profile : String) (root : Element) : List Feature :=
  (root.childrenNamed "feature").filterMap (Feature.ofElement? profile)

end GLBindings.Registry
