import PlaygroundEngine.Reflection.ErasedOperations

/-!
# Read-only destinations

Which requests write through a destination that the caller marked read-only: the
value getter of a static field is the only one.
-/

namespace PlaygroundEngine.Reflection

set_option autoImplicit false

variable {T : Type}

namespace Operation

/-- The borrow a request writes its result or its change to. A member that stays
writable through a const object makes no destination of the object. -/
def destination : Operation T → Option (TypedRef T)
  | fieldGetValue _ _ out => some out
  | fieldSetValue member object _ =>
    if (makeFieldTraits member).writableThroughConstObject then none else some object
  | fieldGetRef _ _ => none
  | staticGetValue _ out => some out
  | staticSetValue _ _ => none
  | invoke _ _ _ ret => some ret
  | construct _ _ slot => some slot
  | clear _ object => some object
  | reserve _ object _ => some object
  | append _ object _ => some object
  | assignString _ object _ => some object
  | assignEnumeration _ object _ => some object

/-- A static field's value is asked for with a matching tag, and it has a getter. -/
def GetsStaticValue : Operation T → Prop
  | staticGetValue member out => member.copyConstruct.isSome ∧ out.type = some member.type
  | _ => False

variable [DecidableEq T]

/-- The request answers with an error and no byte changes. -/
def LeavesMemory (operation : Operation T) (machine : Machine) : Prop :=
  (∃ error, (operation.run machine).1 = .error error) ∧
    (operation.run machine).2.memory = machine.memory

theorem leavesMemory_iff (operation : Operation T) (machine : Machine) :
    operation.LeavesMemory machine ↔ ¬ operation.Passes := by
  constructor
  · intro h hpasses
    rcases operation.run_outcome machine with ⟨hfails, _⟩ | ⟨_, ⟨value, hvalue⟩, _⟩
    · exact hfails hpasses
    · obtain ⟨error, herror⟩ := h.1
      rw [hvalue] at herror
      cases herror
  · intro hfails
    obtain ⟨herror, hmachine⟩ := (operation.refused_iff machine).mpr hfails
    exact ⟨herror, congrArg Machine.memory hmachine⟩

/-- With a read-only destination every check list fails but the static getter's. -/
theorem passes_readOnly_iff {operation : Operation T} {target : TypedRef T}
    (htarget : operation.destination = some target) (hconst : target.isConst) :
    operation.Passes ↔ operation.GetsStaticValue := by
  cases operation with
  | fieldGetValue member object out =>
    cases htarget
    exact iff_of_false (fun h => h.2.2.1 hconst) id
  | fieldSetValue member object input =>
    refine iff_of_false (fun h => ?_) id
    simp only [destination] at htarget
    split at htarget
    · cases htarget
    · rename_i hwritable
      cases htarget
      exact hwritable ((writableThroughConstObject_iff member).mpr (Or.inl (h.2.1 hconst)))
  | fieldGetRef member object => cases htarget
  | staticGetValue member out => exact Iff.rfl
  | staticSetValue member input => cases htarget
  | invoke declaration object args ret =>
    cases htarget
    exact iff_of_false (fun h => h.2.2.1 hconst) id
  | construct declaration args slot =>
    cases htarget
    exact iff_of_false (fun h => h.2.2.2.2 hconst) id
  | clear sequence object =>
    cases htarget
    exact iff_of_false (fun h => h.1.2.2 hconst) id
  | reserve sequence object capacity =>
    cases htarget
    exact iff_of_false (fun h => h.1.2.2 hconst) id
  | append sequence object input =>
    cases htarget
    exact iff_of_false (fun h => h.1.2.2 hconst) id
  | assignString string object value =>
    cases htarget
    exact iff_of_false (fun h => h.1.2.2 hconst) id
  | assignEnumeration enumeration object value =>
    cases htarget
    exact iff_of_false (fun h => h.2.2 hconst) id

/-- A read-only destination is respected by every request but the reading of a
static field's value into a slot of its type. -/
theorem readOnly_destination_iff {operation : Operation T} {target : TypedRef T}
    (htarget : operation.destination = some target) (hconst : target.isConst)
    (machine : Machine) :
    operation.LeavesMemory machine ↔ ¬ operation.GetsStaticValue := by
  rw [leavesMemory_iff, passes_readOnly_iff htarget hconst]

end Operation

def copyByte : Transfer := fun target source memory byte =>
  if byte = target then memory source else memory byte

/-- `static unsigned char Limit`, at address 32. -/
def limitMember : StaticMemberDeclaration Unit where
  type := ()
  storage := .addressable 32
  copyConstruct := some copyByte
  assign := none

def limitMachine : Machine where
  memory := fun byte => if byte = 32 then 7 else 0

def limitOut : TypedRef Unit where
  type := some ()
  data := 64
  isConst := true

theorem readOnly_destination_iff_construct :
    (Operation.construct (T := Unit)
      { type := (), parameters := [], construct := fun _ _ memory => memory } []
      limitOut).LeavesMemory limitMachine :=
  (Operation.readOnly_destination_iff rfl rfl limitMachine).mpr id

/-- The value arrives in the read-only slot. -/
theorem readOnly_destination_limit :
    (Operation.staticGetValue limitMember limitOut).destination = some limitOut ∧
      limitOut.isConst ∧ limitMachine.memory 64 = 0 ∧
      ((Operation.staticGetValue limitMember limitOut).run limitMachine).2.memory 64 = 7 ∧
      ¬ (Operation.staticGetValue limitMember limitOut).LeavesMemory limitMachine := by
  refine ⟨rfl, rfl, rfl, rfl, ?_⟩
  intro h
  obtain ⟨error, herror⟩ := h.1
  cases herror

end PlaygroundEngine.Reflection
