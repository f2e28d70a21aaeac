import PlaygroundEngine.Reflection.ArgumentBinding

/-!
# Erased functions

`invoke` is the entry point; `invokeThunk` is what the builder installs for a
function that can be called.
-/

namespace PlaygroundEngine.Reflection

set_option autoImplicit false

variable {T : Type}

inductive InvokeError.Kind where
  | arityMismatch
  | typeMismatch
  | nullArgument
  | constViolation
  | notMovable
  | returnTypeMismatch
  | notInvocable
  | objectTypeMismatch
  | objectRequired
  deriving DecidableEq

structure InvokeError where
  reason : InvokeError.Kind
  argumentIndex : UInt16 := 0
  deriving DecidableEq

abbrev Invoker (T : Type) :=
  Address → List (TypedRef T) → TypedRef T → Machine → Except InvokeError Unit × Machine

structure FunctionTraits where
  isStatic : Bool := false
  isFreeFunction : Bool := false
  isConst : Bool := false
  isDeleted : Bool := false
  isConsteval : Bool := false

structure FunctionInfo (T : Type) where
  /-- None for a free function. -/
  declaringType : Option T
  params : List (ParameterInfo T)
  traits : FunctionTraits
  invoker : Option (Invoker T)

/-- A callee, by what it returns. It receives the object and the bound arguments;
a returned value is given as its construction into a slot. -/
inductive FunctionBody (T : Type) where
  | void (call : Address → List BoundArgument → Memory → Memory)
  /-- `pointerTag` names the pointer to the referent. -/
  | reference (pointerTag : T) (call : Address → List BoundArgument → Memory → Address × Memory)
  | value (tag : T)
    (call : Address → List BoundArgument → Memory → (Address → Memory → Memory) × Memory)

structure FunctionDeclaration (T : Type) where
  declaringType : Option T
  parameters : List (ParameterType T)
  traits : FunctionTraits
  /-- The call on the erased object and arguments is well formed. -/
  isInvocable : Bool
  body : FunctionBody T

def FunctionTraits.isConstCallable (traits : FunctionTraits) : Bool :=
  traits.isConst || traits.isStatic || traits.isFreeFunction

def FunctionTraits.callsWithoutObject (traits : FunctionTraits) : Bool :=
  traits.isStatic || traits.isFreeFunction

def toInvokeError : ArgumentError → InvokeError.Kind
  | .nullArgument => .nullArgument
  | .constViolation => .constViolation
  | .notMovable => .notMovable
  | .typeMismatch => .typeMismatch
  | .none => .typeMismatch

/-- What entering the callee does before it runs: the object is dereferenced for
a member, and every argument is bound. -/
def callAccesses (traits : FunctionTraits) (object : Address) (bound : List BoundArgument) :
    List Access :=
  (if traits.callsWithoutObject then [] else [.bind object]) ++
    bound.map BoundArgument.access ++ [.enter]

variable [DecidableEq T]

def invokeThunkImpl (declaration : FunctionDeclaration T) (object : Address)
    (args : List (TypedRef T)) (ret : TypedRef T) (machine : Machine) :
    Except InvokeError Unit × Machine :=
  match checkArguments declaration.parameters args 0 with
  | some (error, index) => (.error ⟨toInvokeError error, index⟩, machine)
  | none =>
    let bound := bindArguments declaration.parameters args
    let accesses := callAccesses declaration.traits object bound
    match declaration.body with
    | .void call =>
      if ret.type.isSome then (.error ⟨.returnTypeMismatch, 0⟩, machine)
      else (.ok (), machine.perform accesses (call object bound))
    | .reference pointerTag call =>
      if ret.type.isSome ∧ ret.type ≠ some pointerTag then
        (.error ⟨.returnTypeMismatch, 0⟩, machine)
      else
        let (result, memory) := call object bound machine.memory
        let machine := machine.perform accesses fun _ => memory
        if ret.type.isSome then
          (.ok (), machine.perform [.write ret.data] (writePointer ret.data result))
        else (.ok (), machine)
    | .value tag call =>
      if ret.type.isSome ∧ ret.type ≠ some tag then (.error ⟨.returnTypeMismatch, 0⟩, machine)
      else
        let (result, memory) := call object bound machine.memory
        let machine := machine.perform accesses fun _ => memory
        if ret.type.isSome then (.ok (), machine.perform [.write ret.data] (result ret.data))
        else (.ok (), machine)

def invokeThunk (declaration : FunctionDeclaration T) : Invoker T :=
  fun object args ret machine =>
    if args.length ≠ declaration.parameters.length then (.error ⟨.arityMismatch, 0⟩, machine)
    else invokeThunkImpl declaration object args ret machine

def makeInvoker (declaration : FunctionDeclaration T) : Option (Invoker T) :=
  if declaration.traits.isDeleted || declaration.traits.isConsteval then none
  else if declaration.isInvocable then some (invokeThunk declaration)
  else none

def makeFunction (declaration : FunctionDeclaration T) : FunctionInfo T where
  declaringType := declaration.declaringType
  params := declaration.parameters.map makeParameter
  traits := declaration.traits
  invoker := makeInvoker declaration

@[simp] theorem makeFunction_declaringType (declaration : FunctionDeclaration T) :
    (makeFunction declaration).declaringType = declaration.declaringType := rfl

@[simp] theorem makeFunction_traits (declaration : FunctionDeclaration T) :
    (makeFunction declaration).traits = declaration.traits := rfl

@[simp] theorem makeFunction_invoker (declaration : FunctionDeclaration T) :
    (makeFunction declaration).invoker = makeInvoker declaration := rfl

omit [DecidableEq T] in
theorem isConstCallable_eq {traits : FunctionTraits} (hmember : traits.callsWithoutObject = false) :
    traits.isConstCallable = traits.isConst := by
  rw [FunctionTraits.isConstCallable, Bool.or_assoc]
  exact (congrArg _ hmember).trans (Bool.or_false _)

def FunctionInfo.invoke (function : FunctionInfo T) (object : TypedRef T)
    (args : List (TypedRef T)) (ret : TypedRef T) (machine : Machine) :
    Except InvokeError Unit × Machine :=
  match function.invoker with
  | none => (.error ⟨.notInvocable, 0⟩, machine)
  | some invoker =>
    if !function.traits.callsWithoutObject && object.data == 0 then
      (.error ⟨.objectRequired, 0⟩, machine)
    else if !function.traits.callsWithoutObject && object.type != function.declaringType then
      (.error ⟨.objectTypeMismatch, 0⟩, machine)
    else if !function.traits.callsWithoutObject && object.isConst &&
        !function.traits.isConstCallable then
      (.error ⟨.constViolation, 0⟩, machine)
    else if ret.isConst then (.error ⟨.constViolation, 0⟩, machine)
    else invoker object.data args ret machine

/-- The overload that takes no object. -/
def FunctionInfo.invokeWithoutObject (function : FunctionInfo T) (args : List (TypedRef T))
    (ret : TypedRef T) (machine : Machine) : Except InvokeError Unit × Machine :=
  if !function.traits.callsWithoutObject then (.error ⟨.objectRequired, 0⟩, machine)
  else function.invoke {} args ret machine

end PlaygroundEngine.Reflection
