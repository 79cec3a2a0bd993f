/-
# Type keywords

The keywords of the registry's type language, as they read without the namespace `GL` in front, and
the kinds of value they name.
-/
import GLBindings.Spec

namespace GLBindings.Declaration

set_option autoImplicit false

def keywords : List (String × BaseType) := [
  ("boolean", .boolean),
  ("uint", .uint32), ("enum", .uint32), ("bitfield", .uint32),
  ("int", .int32), ("sizei", .int32), ("fixed", .int32), ("clampx", .int32),
  ("float", .float32), ("clampf", .float32),
  ("double", .float64), ("clampd", .float64),
  ("ubyte", .uint8), ("byte", .int8),
  ("ushort", .uint16), ("half", .uint16), ("halfARB", .uint16), ("halfNV", .uint16),
  ("short", .int16),
  ("uint64", .uint64), ("uint64EXT", .uint64),
  ("int64", .int64), ("int64EXT", .int64),
  ("char", .char), ("charARB", .char),
  ("intptr", .address), ("intptrARB", .address), ("sizeiptr", .address), ("sizeiptrARB", .address),
  ("sync", .address), ("eglImageOES", .address), ("eglClientBufferEXT", .address),
  ("DEBUGPROC", .address), ("DEBUGPROCARB", .address), ("DEBUGPROCKHR", .address),
  ("DEBUGPROCAMD", .address), ("VULKANPROCNV", .address),
  ("void", .void)]

/-- The kind of value that a keyword names. -/
def baseTypeOf (keyword : String) : BaseType := (keywords.lookup keyword).getD .unrecognized

/-- The keyword without the namespace in front of it. -/
def stripNamespace (keyword : String) : String :=
  match keyword.toList with
  | 'G' :: 'L' :: rest => String.ofList rest
  | _ => keyword

end GLBindings.Declaration
