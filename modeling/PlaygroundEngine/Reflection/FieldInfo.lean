import PlaygroundEngine.Reflection.ArgumentBinding

/-!
# Erased fields

The three accesses of a non-static data member, the thunks behind them and the
rules by which the builder installs a thunk.
-/

namespace PlaygroundEngine.Reflection

set_option autoImplicit false

variable {T : Type}

inductive FieldError where
  | fieldNotFound
  | typeMismatch
  | notReadable
  | notWritable
  | notAddressable
  | objectTypeMismatch
  | nullObject
  | constViolation
  deriving DecidableEq

/-- A special member function on a target and a source address. -/
abbrev Transfer := Address → Address → Memory → Memory

/-- The forms of one operation that take a source, by copy and by move. -/
inductive Assignability where
  | copyAndMove (copy move : Transfer)
  | moveOnly (move : Transfer)
  | copyOnly (copy : Transfer)

/-- A move needs the caller's offer and a mutable source. -/
def TypedRef.moveAllowed (source : TypedRef T) : Bool := source.movable && !source.isConst

/-- The move protocol of every setter: what it does to the source and the memory,
or nothing when a move is needed and was not offered. -/
def Assignability.transfer (assignability : Assignability) (target : Address)
    (source : TypedRef T) : Option (Access × (Memory → Memory)) :=
  match assignability with
  | .copyAndMove copy move =>
    if source.moveAllowed then some (.moveOut source.data, move target source.data)
    else some (.read source.data, copy target source.data)
  | .moveOnly move =>
    if source.moveAllowed then some (.moveOut source.data, move target source.data) else none
  | .copyOnly copy => some (.read source.data, copy target source.data)

/-- The declaration of a data member, as the builder reads it. -/
structure MemberDeclaration (T : Type) where
  identifier : String
  /-- The tag of the declared type without reference and qualifiers. -/
  type : T
  declaringType : T
  byteOffset : Address
  isBitField : Bool := false
  isMutable : Bool := false
  /-- Constness of the declared type, below a reference. -/
  isConst : Bool := false
  reference : ReferenceKind := .none
  /-- Construction of a value from the member as a const object yields it. -/
  copyConstruct : Option Transfer
  assign : Option Assignability

abbrev FieldGetter (T : Type) := Address → TypedRef T → Machine → Except FieldError Unit × Machine

abbrev FieldSetter (T : Type) := Address → TypedRef T → Machine → Except FieldError Unit × Machine

abbrev FieldReferencer (T : Type) := Address → Machine → TypedRef T × Machine

structure FieldTraits where
  isBitField : Bool
  isMutable : Bool
  isConst : Bool
  isLvalueReference : Bool
  isRvalueReference : Bool

structure FieldInfo (T : Type) where
  identifier : String
  typeInfo : T
  declaringType : T
  traits : FieldTraits
  getter : Option (FieldGetter T)
  setter : Option (FieldSetter T)
  referencer : Option (FieldReferencer T)

def FieldTraits.writableThroughConstObject (traits : FieldTraits) : Bool :=
  traits.isMutable || traits.isLvalueReference || traits.isRvalueReference

namespace MemberDeclaration

def storage (member : MemberDeclaration T) (obj : Address) : Address := obj + member.byteOffset

/-- The object the member names: a reference member stores a pointer to it. -/
def location (member : MemberDeclaration T) (obj : Address) (memory : Memory) : Address :=
  if member.reference = .none then member.storage obj else readPointer memory (member.storage obj)

def locationAccesses (member : MemberDeclaration T) (obj : Address) : List Access :=
  if member.reference = .none then [] else [.read (member.storage obj)]

end MemberDeclaration

section
variable [DecidableEq T]

def fieldGetThunk (member : MemberDeclaration T) (construct : Transfer) : FieldGetter T :=
  fun obj out machine =>
    if out.type ≠ some member.type then (.error .typeMismatch, machine)
    else
      let source := member.location obj machine.memory
      (.ok (), machine.perform (member.locationAccesses obj ++ [.read source, .write out.data])
        (construct out.data source))

def fieldSetThunk (member : MemberDeclaration T) (assign : Assignability) : FieldSetter T :=
  fun obj input machine =>
    if input.type ≠ some member.type then (.error .typeMismatch, machine)
    else
      match assign.transfer (member.storage obj) input with
      | none => (.error .notWritable, machine)
      | some (access, effect) =>
        (.ok (), machine.perform [access, .write (member.storage obj)] effect)

end

def fieldRefThunk (member : MemberDeclaration T) : FieldReferencer T :=
  fun obj machine =>
    ({ type := some member.type
       data := member.location obj machine.memory
       isConst := member.isConst },
      machine.log (member.locationAccesses obj))

def makeFieldTraits (member : MemberDeclaration T) : FieldTraits where
  isBitField := member.isBitField
  isMutable := member.isMutable
  isConst := member.isConst
  isLvalueReference := member.reference == .lvalue
  isRvalueReference := member.reference == .rvalue

section
variable [DecidableEq T]

def makeFieldGetter (member : MemberDeclaration T) : Option (FieldGetter T) :=
  member.copyConstruct.map (fieldGetThunk member)

/-- A const member and a reference member have no setter. -/
def makeFieldSetter (member : MemberDeclaration T) : Option (FieldSetter T) :=
  if member.isConst || member.reference != .none then none
  else member.assign.map (fieldSetThunk member)

omit [DecidableEq T] in
def makeFieldReferencer (member : MemberDeclaration T) : Option (FieldReferencer T) :=
  if member.isBitField then none else some (fieldRefThunk member)

def makeField (member : MemberDeclaration T) : FieldInfo T where
  identifier := member.identifier
  typeInfo := member.type
  declaringType := member.declaringType
  traits := makeFieldTraits member
  getter := makeFieldGetter member
  setter := makeFieldSetter member
  referencer := makeFieldReferencer member

section
variable (member : MemberDeclaration T)

@[simp] theorem makeField_declaringType : (makeField member).declaringType = member.declaringType :=
  rfl

@[simp] theorem makeField_traits : (makeField member).traits = makeFieldTraits member := rfl

@[simp] theorem makeField_getter : (makeField member).getter = makeFieldGetter member := rfl

@[simp] theorem makeField_setter : (makeField member).setter = makeFieldSetter member := rfl

@[simp] theorem makeField_referencer :
    (makeField member).referencer = makeFieldReferencer member := rfl

omit [DecidableEq T] in
theorem writableThroughConstObject_iff :
    (makeFieldTraits member).writableThroughConstObject ↔
      member.isMutable ∨ member.reference ≠ .none := by
  simp only [FieldTraits.writableThroughConstObject, makeFieldTraits]
  cases member.reference <;> simp

end

namespace FieldInfo

def checkDeclaringInstance (field : FieldInfo T) (object : TypedRef T) : Except FieldError Unit :=
  if object.data = 0 then .error .nullObject
  else if object.type ≠ some field.declaringType then .error .objectTypeMismatch
  else .ok ()

def getValue (field : FieldInfo T) (object out : TypedRef T) (machine : Machine) :
    Except FieldError Unit × Machine :=
  match field.checkDeclaringInstance object with
  | .error error => (.error error, machine)
  | .ok () =>
    match field.getter with
    | none => (.error .notReadable, machine)
    | some getter =>
      if out.isConst then (.error .constViolation, machine)
      else getter object.data out machine

def setValue (field : FieldInfo T) (object input : TypedRef T) (machine : Machine) :
    Except FieldError Unit × Machine :=
  match field.checkDeclaringInstance object with
  | .error error => (.error error, machine)
  | .ok () =>
    if object.isConst && !field.traits.writableThroughConstObject then
      (.error .constViolation, machine)
    else
      match field.setter with
      | none => (.error .notWritable, machine)
      | some setter => setter object.data input machine

/-- The object's constness reaches the field unless the field is writable through a
const object. -/
def getRef (field : FieldInfo T) (object : TypedRef T) (machine : Machine) :
    Except FieldError (TypedRef T) × Machine :=
  match field.checkDeclaringInstance object with
  | .error error => (.error error, machine)
  | .ok () =>
    match field.referencer with
    | none => (.error .notAddressable, machine)
    | some referencer =>
      let (ref, machine) := referencer object.data machine
      (.ok { ref with
        isConst := ref.isConst ||
          (object.isConst && !field.traits.writableThroughConstObject) }, machine)

end FieldInfo

end

end PlaygroundEngine.Reflection
