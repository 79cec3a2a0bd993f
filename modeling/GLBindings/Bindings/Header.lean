/-
# File headers

Every generated file opens with the same comment lines: what it is, which generator made it and
when, and the registry's notice.  The time stands in the second line and nowhere else.
-/
import GLBindings.Clock
import GLBindings.Text.Lines

namespace GLBindings.Bindings

set_option autoImplicit false

def generatorName : String := "ctypesgl-generator"

/-- The line that names the generator, and the time if it is to be told. -/
def generatorLine (generatedAt : Option Moment) : String :=
  "# This file was autogenerated by " ++ generatorName ++
    match generatedAt with
    | none => ""
    | some moment => " on " ++ moment.stamp ++ " UTC"

def noticeLines (notice : String) : List String :=
  if notice = "" then []
  else "# Original copyright from gl.xml:" ::
    (Text.lines notice).map fun line => Text.trimEnd ("# " ++ line)

def fileHeader (notice : String) (generatedAt : Option Moment) : List String :=
  ["# AUTOGENERATED. DO NOT EDIT.", generatorLine generatedAt] ++ noticeLines notice ++ [""]

end GLBindings.Bindings
