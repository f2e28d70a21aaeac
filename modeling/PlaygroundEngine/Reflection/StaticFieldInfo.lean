import PlaygroundEngine.Reflection.FieldInfo

/-!
# Erased static fields

A static data member has no object: its accessors take only the value's borrow.
A constant-readable member is captured by value and has no address.
-/

namespace PlaygroundEngine.Reflection

set_option autoImplicit false

variable {T : Type}

/-- What a splice of the member denotes. -/
inductive StaticStorage where
  /-- A constant expression, given as its construction into a slot. -/
  | constantReadable (value : Address → Memory → Memory)
  | addressable (location : Address)

structure StaticMemberDeclaration (T : Type) where
  type : T
  isConst : Bool := false
  reference : ReferenceKind := .none
  storage : StaticStorage
  /-- The copy constructor of the value type. -/
  copyConstruct : Option Transfer
  assign : Option Assignability

abbrev StaticFieldGetter (T : Type) := TypedRef T → Machine → Except FieldError Unit × Machine

abbrev StaticFieldSetter (T : Type) := TypedRef T → Machine → Except FieldError Unit × Machine

abbrev StaticFieldReferencer (T : Type) := Machine → TypedRef T × Machine

structure StaticFieldInfo (T : Type) where
  typeInfo : T
  isConstantReadable : Bool
  getter : Option (StaticFieldGetter T)
  setter : Option (StaticFieldSetter T)
  referencer : Option (StaticFieldReferencer T)

def StaticStorage.isConstantReadable : StaticStorage → Bool
  | .constantReadable _ => true
  | .addressable _ => false

variable [DecidableEq T]

def staticFieldValueGetThunk (type : T) (value : Address → Memory → Memory) :
    StaticFieldGetter T := fun out machine =>
  if out.type ≠ some type then (.error .typeMismatch, machine)
  else (.ok (), machine.perform [.write out.data] (value out.data))

def staticFieldGetThunk (type : T) (location : Address) (construct : Transfer) :
    StaticFieldGetter T := fun out machine =>
  if out.type ≠ some type then (.error .typeMismatch, machine)
  else (.ok (), machine.perform [.read location, .write out.data] (construct out.data location))

def staticFieldSetThunk (type : T) (location : Address) (assign : Assignability) :
    StaticFieldSetter T := fun input machine =>
  if input.type ≠ some type then (.error .typeMismatch, machine)
  else
    match assign.transfer location input with
    | none => (.error .notWritable, machine)
    | some (access, effect) => (.ok (), machine.perform [access, .write location] effect)

omit [DecidableEq T] in
def staticFieldRefThunk (type : T) (location : Address) (isConst : Bool) :
    StaticFieldReferencer T := fun machine =>
  (typedRefOf type location isConst true, machine)

def makeStaticFieldGetter (member : StaticMemberDeclaration T) : Option (StaticFieldGetter T) :=
  member.copyConstruct.map fun construct =>
    match member.storage with
    | .constantReadable value => staticFieldValueGetThunk member.type value
    | .addressable location => staticFieldGetThunk member.type location construct

def makeStaticFieldSetter (member : StaticMemberDeclaration T) : Option (StaticFieldSetter T) :=
  match member.storage with
  | .constantReadable _ => none
  | .addressable location =>
    if member.isConst || member.reference != .none then none
    else member.assign.map (staticFieldSetThunk member.type location)

omit [DecidableEq T] in
def makeStaticFieldReferencer (member : StaticMemberDeclaration T) :
    Option (StaticFieldReferencer T) :=
  match member.storage with
  | .constantReadable _ => none
  | .addressable location => some (staticFieldRefThunk member.type location member.isConst)

def makeStaticField (member : StaticMemberDeclaration T) : StaticFieldInfo T where
  typeInfo := member.type
  isConstantReadable := member.storage.isConstantReadable
  getter := makeStaticFieldGetter member
  setter := makeStaticFieldSetter member
  referencer := makeStaticFieldReferencer member

@[simp] theorem makeStaticField_getter (member : StaticMemberDeclaration T) :
    (makeStaticField member).getter = makeStaticFieldGetter member := rfl

@[simp] theorem makeStaticField_setter (member : StaticMemberDeclaration T) :
    (makeStaticField member).setter = makeStaticFieldSetter member := rfl

namespace StaticFieldInfo

omit [DecidableEq T]

def getValue (field : StaticFieldInfo T) (out : TypedRef T) (machine : Machine) :
    Except FieldError Unit × Machine :=
  match field.getter with
  | none => (.error .notReadable, machine)
  | some getter => getter out machine

def setValue (field : StaticFieldInfo T) (input : TypedRef T) (machine : Machine) :
    Except FieldError Unit × Machine :=
  match field.setter with
  | none => (.error .notWritable, machine)
  | some setter => setter input machine

def getRef (field : StaticFieldInfo T) (machine : Machine) :
    Except FieldError (TypedRef T) × Machine :=
  match field.referencer with
  | none => (.error .notAddressable, machine)
  | some referencer =>
    let (ref, machine) := referencer machine
    (.ok ref, machine)

end StaticFieldInfo

end PlaygroundEngine.Reflection
