/-
# Names of encodings

An encoding goes by names of its own and by aliases.  In both, case does not matter, and neither
does which signs part the words of a name; in an alias a point may part words as well.
-/
namespace GLBindings.Xml

set_option autoImplicit false

structure EncodingNames where
  names : List String
  aliases : List String := []
  deriving DecidableEq

namespace EncodingNames

/-- The plain form of a name: small letters, digits and points, an underscore between two runs. -/
def plainForm (name : String) : String :=
  let marked := name.toList.map fun c =>
    if c.isAlphanum || c == '.' then c.toLower else '_'
  let runs := (marked.splitOn '_').filter fun run => !run.isEmpty
  "_".intercalate (runs.map String.ofList)

def goesBy (own : EncodingNames) (name : String) : Bool :=
  let plain := plainForm name
  let pointless := plain.map fun c => if c == '.' then '_' else c
  own.aliases.contains plain || own.aliases.contains pointless || own.names.contains plain

end EncodingNames

end GLBindings.Xml
