import Mathlib.Data.UInt

/-!
# Erased borrows

A `TypedRef` names one live object by its type tag and address. Two tags are
equal exactly when the source compares two `TypeInfo` addresses equal, so a tag
is an element of an arbitrary type `T`.
-/

namespace PlaygroundEngine.Reflection

set_option autoImplicit false

/-- `void*`; `0` is the null pointer. -/
abbrev Address := UInt64

structure TypedRef (T : Type) where
  type : Option T := none
  data : Address := 0
  isConst : Bool := false
  movable : Bool := false
  deriving DecidableEq, Repr

/-- Erases an object the caller wrote as an lvalue (`isLvalue`) or moved in. -/
def typedRefOf {T : Type} (tag : T) (object : Address) (isConst isLvalue : Bool) : TypedRef T where
  type := some tag
  data := object
  isConst := isConst
  movable := !isLvalue

end PlaygroundEngine.Reflection
