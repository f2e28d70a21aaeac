import PlaygroundEngine.Reflection.Machine

/-!
# Binding erased arguments

How one parameter takes an erased argument, shared by functions and
constructors: the tag it expects, what it needs of the borrow, and how it binds.
-/

namespace PlaygroundEngine.Reflection

set_option autoImplicit false

variable {T : Type}

inductive ReferenceKind where
  | none
  | lvalue
  | rvalue
  deriving DecidableEq

/-- The declared type of a parameter: its decayed tag, its reference, the
constness of what it refers to, and the traits of its value type. -/
structure ParameterType (T : Type) where
  tag : T
  reference : ReferenceKind := .none
  isConst : Bool := false
  copyConstructible : Bool := true
  moveConstructible : Bool := true
  deriving DecidableEq

namespace ParameterType

def needsMovable (parameter : ParameterType T) : Bool :=
  parameter.reference == .rvalue ||
    (parameter.reference == .none && parameter.moveConstructible && !parameter.copyConstructible)

def needsMutable (parameter : ParameterType T) : Bool :=
  (parameter.reference == .lvalue && !parameter.isConst) || parameter.needsMovable

end ParameterType

structure ParameterTraits where
  isConst : Bool
  isLvalueReference : Bool
  isRvalueReference : Bool
  bindsByMove : Bool
  requiresMutable : Bool

structure ParameterInfo (T : Type) where
  typeInfo : T
  traits : ParameterTraits

def makeParameter (parameter : ParameterType T) : ParameterInfo T where
  typeInfo := parameter.tag
  traits :=
    { isConst := parameter.isConst
      isLvalueReference := parameter.reference == .lvalue
      isRvalueReference := parameter.reference == .rvalue
      bindsByMove := parameter.needsMovable
      requiresMutable := parameter.needsMutable }

inductive BoundArgument where
  | lvalue (address : Address)
  | xvalue (address : Address)
  | moved (address : Address)
  | copied (address : Address)
  deriving DecidableEq

def bind (parameter : ParameterType T) (arg : TypedRef T) : BoundArgument :=
  match parameter.reference with
  | .rvalue => .xvalue arg.data
  | .lvalue => .lvalue arg.data
  | .none =>
    if parameter.moveConstructible && !parameter.copyConstructible then .moved arg.data
    else if parameter.moveConstructible && arg.movable && !arg.isConst then .moved arg.data
    else .copied arg.data

def BoundArgument.access : BoundArgument → Access
  | .lvalue address => .bind address
  | .xvalue address => .moveOut address
  | .moved address => .moveOut address
  | .copied address => .read address

inductive ArgumentError where
  | none
  | typeMismatch
  | nullArgument
  | constViolation
  | notMovable
  deriving DecidableEq

variable [DecidableEq T]

def checkArgument (parameter : ParameterType T) (arg : TypedRef T) : ArgumentError :=
  if arg.type ≠ some parameter.tag then .typeMismatch
  else if arg.data = 0 then .nullArgument
  else if parameter.needsMutable && arg.isConst then .constViolation
  else if parameter.needsMovable && !arg.movable then .notMovable
  else .none

/-- The checks of the arguments in order, from `index` on; a check that follows a
failed one does nothing. The arity was checked, so the lists have one length. -/
def checkArguments (parameters : List (ParameterType T)) (args : List (TypedRef T))
    (index : Nat) : Option (ArgumentError × UInt16) :=
  match parameters, args with
  | parameter :: parameters, arg :: args =>
    if checkArgument parameter arg = .none then checkArguments parameters args (index + 1)
    else some (checkArgument parameter arg, UInt16.ofNat index)
  | _, _ => none

def bindArguments (parameters : List (ParameterType T)) (args : List (TypedRef T)) :
    List BoundArgument :=
  List.zipWith bind parameters args

end PlaygroundEngine.Reflection
