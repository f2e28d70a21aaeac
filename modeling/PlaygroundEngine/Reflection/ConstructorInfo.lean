import PlaygroundEngine.Reflection.ArgumentBinding

/-!
# Erased constructors

A constructor builds an object into a caller-owned slot. It shares the argument
binder with functions and checks its slot after the arguments.
-/

namespace PlaygroundEngine.Reflection

set_option autoImplicit false

variable {T : Type}

inductive ConstructError.Kind where
  | arityMismatch
  | typeMismatch
  | nullArgument
  | constViolation
  | notMovable
  | slotTypeMismatch
  | notConstructible
  | noMatchingConstructor
  | ambiguousConstructor
  deriving DecidableEq

structure ConstructError where
  reason : ConstructError.Kind
  argumentIndex : UInt16 := 0
  deriving DecidableEq

abbrev ConstructorThunk (T : Type) :=
  List (TypedRef T) → TypedRef T → Machine → Except ConstructError Unit × Machine

structure ConstructorInfo (T : Type) where
  params : List (ParameterInfo T)
  constructor : Option (ConstructorThunk T)

structure ConstructorDeclaration (T : Type) where
  /-- The constructed type. -/
  type : T
  parameters : List (ParameterType T)
  isConsteval : Bool := false
  /-- The placement new on the erased arguments is well formed. -/
  isErasedConstructible : Bool := true
  /-- The placement new: bound arguments and slot. -/
  construct : List BoundArgument → Address → Memory → Memory

def toConstructError : ArgumentError → ConstructError.Kind
  | .nullArgument => .nullArgument
  | .constViolation => .constViolation
  | .notMovable => .notMovable
  | .typeMismatch => .typeMismatch
  | .none => .typeMismatch

variable [DecidableEq T]

def constructThunkImpl (declaration : ConstructorDeclaration T) (args : List (TypedRef T))
    (slot : TypedRef T) (machine : Machine) : Except ConstructError Unit × Machine :=
  match checkArguments declaration.parameters args 0 with
  | some (error, index) => (.error ⟨toConstructError error, index⟩, machine)
  | none =>
    if slot.type ≠ some declaration.type ∨ slot.data = 0 ∨ slot.isConst then
      (.error ⟨.slotTypeMismatch, 0⟩, machine)
    else
      let bound := bindArguments declaration.parameters args
      (.ok (), machine.perform (bound.map BoundArgument.access ++ [.enter, .write slot.data])
        (declaration.construct bound slot.data))

def constructThunk (declaration : ConstructorDeclaration T) : ConstructorThunk T :=
  fun args slot machine =>
    if args.length ≠ declaration.parameters.length then (.error ⟨.arityMismatch, 0⟩, machine)
    else constructThunkImpl declaration args slot machine

def makeConstructorThunk (declaration : ConstructorDeclaration T) : Option (ConstructorThunk T) :=
  if !declaration.isConsteval && declaration.isErasedConstructible then
    some (constructThunk declaration)
  else none

def makeConstructor (declaration : ConstructorDeclaration T) : ConstructorInfo T where
  params := declaration.parameters.map makeParameter
  constructor := makeConstructorThunk declaration

@[simp] theorem makeConstructor_constructor (declaration : ConstructorDeclaration T) :
    (makeConstructor declaration).constructor = makeConstructorThunk declaration := rfl

omit [DecidableEq T] in
def ConstructorInfo.construct (constructor : ConstructorInfo T) (args : List (TypedRef T))
    (slot : TypedRef T) (machine : Machine) : Except ConstructError Unit × Machine :=
  match constructor.constructor with
  | none => (.error ⟨.notConstructible, 0⟩, machine)
  | some thunk => thunk args slot machine

end PlaygroundEngine.Reflection
