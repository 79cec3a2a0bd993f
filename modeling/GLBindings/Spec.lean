/-
# Specifications

What is known about an API once its registry has been read: for each version the constants and
commands it offers, and for each command the types of its result and parameters.
-/
namespace GLBindings

set_option autoImplicit false

/-- The kind of value that a type keyword names. -/
inductive BaseType where
  | boolean
  | uint32
  | int32
  | float32
  | float64
  | uint8
  | int8
  | uint16
  | int16
  | uint64
  | int64
  | char
  /-- Pointers, sync handles and callbacks. -/
  | address
  | void
  | unrecognized
  deriving DecidableEq

/-- The pointers and consts around a base type. -/
inductive PointerShape where
  | plain
  | pointer
  | pointerToConst
  | pointerToPointer
  | pointerToConstPointer
  | pointerToConstPointerToConst
  deriving DecidableEq

/-- The type of a parameter or result, with the keyword as the registry spells it. -/
structure TypeRef where
  base : BaseType
  shape : PointerShape := .plain
  spelling : String := ""
  deriving DecidableEq

/-- A parameter of a command, and the group of constants it takes if the registry names one. -/
structure Parameter where
  type : TypeRef
  name : String
  group : Option String := none
  deriving DecidableEq

structure Command where
  name : String
  result : TypeRef
  parameters : List Parameter := []
  deriving DecidableEq

/-- A named constant; the value is kept as the registry writes it. -/
structure Constant where
  name : String
  value : String
  deriving DecidableEq

structure Version where
  family : String
  name : String
  number : String
  constants : List Constant := []
  commands : List Command := []
  deriving DecidableEq

/-- The versions of a registry, and the notice at its head. -/
structure Spec where
  versions : List Version := []
  notice : String := ""
  deriving DecidableEq

/-- The types a command mentions, its result first. -/
def Command.types (c : Command) : List TypeRef := c.result :: c.parameters.map Parameter.type

/-- The API families of a specification, in the order in which they first appear. -/
def Spec.families (spec : Spec) : List String :=
  spec.versions.foldl (fun found v => if v.family ∈ found then found else found ++ [v.family]) []

end GLBindings
