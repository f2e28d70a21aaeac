import PlaygroundEngine.Reflection.TypedRef

/-!
# Memory under erased operations

The store the thunks work on, with a log of what they do through which address.
Special member functions and callees are arbitrary functions of the memory.
-/

namespace PlaygroundEngine.Reflection

set_option autoImplicit false

abbrev Memory := Address → UInt8

/-- The eight bytes of a pointer, lowest first. -/
def readPointer (memory : Memory) (address : Address) : Address :=
  (List.range 8).foldl (fun pointer k =>
    pointer ||| (memory (address + UInt64.ofNat k)).toUInt64 <<< UInt64.ofNat (8 * k)) 0

def writePointer (address pointer : Address) (memory : Memory) : Memory := fun byte =>
  if byte - address < 8 then (pointer >>> (8 * (byte - address))).toUInt8 else memory byte

inductive Access where
  | read (address : Address)
  | write (address : Address)
  /-- An object is handed out as movable or moved from. -/
  | moveOut (address : Address)
  /-- A reference to an object is formed. -/
  | bind (address : Address)
  /-- A callee is entered. -/
  | enter
  deriving DecidableEq

def Access.address : Access → Option Address
  | .read address => some address
  | .write address => some address
  | .moveOut address => some address
  | .bind address => some address
  | .enter => none

structure Machine where
  memory : Memory
  accesses : List Access := []

namespace Machine

def perform (machine : Machine) (accesses : List Access) (effect : Memory → Memory) : Machine where
  memory := effect machine.memory
  accesses := machine.accesses ++ accesses

def log (machine : Machine) (accesses : List Access) : Machine := machine.perform accesses id

@[simp] theorem perform_memory (machine : Machine) (accesses : List Access)
    (effect : Memory → Memory) :
    (machine.perform accesses effect).memory = effect machine.memory := rfl

@[simp] theorem perform_accesses (machine : Machine) (accesses : List Access)
    (effect : Memory → Memory) :
    (machine.perform accesses effect).accesses = machine.accesses ++ accesses := rfl

@[simp] theorem log_memory (machine : Machine) (accesses : List Access) :
    (machine.log accesses).memory = machine.memory := rfl

@[simp] theorem log_accesses (machine : Machine) (accesses : List Access) :
    (machine.log accesses).accesses = machine.accesses ++ accesses := rfl

end Machine

/-- The operation answered with an error and did nothing. -/
def Refused {E A : Type} (result : Except E A × Machine) (machine : Machine) : Prop :=
  (∃ error, result.1 = .error error) ∧ result.2 = machine

theorem refused_error {E A : Type} (error : E) (machine : Machine) :
    Refused ((.error error : Except E A), machine) machine :=
  ⟨⟨error, rfl⟩, rfl⟩

end PlaygroundEngine.Reflection
