import PlaygroundEngine.Library.BitStore
import PlaygroundEngine.Reflection.FieldInfo

/-!
# Bit-fields

A bit-field holds a value of an integral type in fewer bits than an object of that type
does. Reading one extends the bits, assigning to one drops the bits above its width.
-/

namespace PlaygroundEngine.Reflection

open BitStore
set_option autoImplicit false

/-- An integral type, or the underlying one of an enumeration, by its size in bytes. -/
inductive IntegralType where
  | bool
  | unsigned (bytes : Nat)
  | signed (bytes : Nat)

namespace IntegralType

def bytes : IntegralType → Nat
  | bool => 1
  | unsigned bytes => bytes
  | signed bytes => bytes

def Value : IntegralType → Type
  | bool => Bool
  | unsigned bytes => BitVec (8 * bytes)
  | signed bytes => BitVec (8 * bytes)

def load : (integral : IntegralType) → Memory → Address → integral.Value
  | bool, memory, obj => readBits memory obj 0 8 != 0
  | unsigned bytes, memory, obj => readBits memory obj 0 (8 * bytes)
  | signed bytes, memory, obj => readBits memory obj 0 (8 * bytes)

def store : (integral : IntegralType) → Address → integral.Value → Memory → Memory
  | bool, obj, value, memory => writeBits memory obj 0 (BitVec.setWidth 8 (BitVec.ofBool value))
  | unsigned _, obj, value, memory => writeBits memory obj 0 value
  | signed _, obj, value, memory => writeBits memory obj 0 value

/-- The bits of a bit-field that hold its value; the others of its width are padding. -/
def valueBits : IntegralType → Nat → Nat
  | bool, _ => 1
  | unsigned bytes, width => min width (8 * bytes)
  | signed bytes, width => min width (8 * bytes)

/-- The value that the bits hold. -/
def extend : (integral : IntegralType) → (width : Nat) → BitVec (integral.valueBits width) →
    integral.Value
  | bool, _, bits => bits != 0
  | unsigned bytes, _, bits => bits.setWidth (8 * bytes)
  | signed bytes, _, bits => bits.signExtend (8 * bytes)

def truncate : (integral : IntegralType) → (width : Nat) → integral.Value →
    BitVec (integral.valueBits width)
  | bool, _, value => BitVec.ofBool value
  | unsigned bytes, width, value => value.setWidth (min width (8 * bytes))
  | signed bytes, width, value => value.setWidth (min width (8 * bytes))

def Fits : (integral : IntegralType) → Nat → integral.Value → Prop
  | bool, _, _ => True
  | unsigned _, width, value => BitVec.toNat value < 2 ^ width
  | signed _, width, value =>
    -(2 ^ (width - 1) : Int) ≤ BitVec.toInt value ∧ BitVec.toInt value < 2 ^ (width - 1)

theorem load_store (integral : IntegralType) (hbytes : integral.bytes < 2 ^ 64) (obj : Address)
    (value : integral.Value) (memory : Memory) :
    integral.load (integral.store obj value memory) obj = value := by
  cases integral with
  | bool =>
    simp only [load, store]
    rw [readBits_writeBits _ (by omega)]
    cases value <;> rfl
  | unsigned bytes =>
    simp only [IntegralType.bytes] at hbytes
    exact readBits_writeBits _ (by omega)
  | signed bytes =>
    simp only [IntegralType.bytes] at hbytes
    exact readBits_writeBits _ (by omega)

theorem store_outside (integral : IntegralType) {obj byte : Address}
    (hout : integral.bytes ≤ (byte - obj).toNat) (value : integral.Value) (memory : Memory) :
    integral.store obj value memory byte = memory byte := by
  cases integral with
  | bool =>
    simp only [IntegralType.bytes] at hout
    exact writeBits_outside _ (by omega)
  | unsigned bytes =>
    simp only [IntegralType.bytes] at hout
    exact writeBits_outside _ (by omega)
  | signed bytes =>
    simp only [IntegralType.bytes] at hout
    exact writeBits_outside _ (by omega)

theorem valueBits_le (integral : IntegralType) {width : Nat} (hwidth : 0 < width) :
    integral.valueBits width ≤ width := by
  cases integral with
  | bool => exact hwidth
  | unsigned bytes => exact Nat.min_le_left _ _
  | signed bytes => exact Nat.min_le_left _ _

theorem truncate_extend (integral : IntegralType) (width : Nat)
    (bits : BitVec (integral.valueBits width)) :
    integral.truncate width (integral.extend width bits) = bits := by
  cases integral with
  | bool =>
    have hcases : ∀ bits : BitVec 1, BitVec.ofBool (bits != 0) = bits := by decide
    exact hcases bits
  | unsigned bytes => exact setWidth_setWidth (Nat.min_le_right _ _) bits
  | signed bytes => exact setWidth_signExtend (Nat.min_le_right _ _) bits

theorem extend_truncate_iff (integral : IntegralType) (hbytes : 0 < integral.bytes) {width : Nat}
    (hwidth : 0 < width) (value : integral.Value) :
    integral.extend width (integral.truncate width value) = value ↔ integral.Fits width value := by
  cases integral with
  | bool => exact iff_of_true (by cases value <;> rfl) trivial
  | unsigned bytes => exact setWidth_min_eq_iff value
  | signed bytes =>
    simp only [IntegralType.bytes] at hbytes
    exact signExtend_min_eq_iff (by omega) hwidth value

end IntegralType

structure BitFieldDeclaration (T : Type) where
  identifier : String
  type : T
  declaringType : T
  byteOffset : Address
  bitOffset : Nat
  bitSize : Nat
  integral : IntegralType
  isMutable : Bool := false
  isConst : Bool := false
  bitSize_pos : 0 < bitSize
  bytes_pos : 0 < integral.bytes

namespace BitFieldDeclaration

variable {T : Type}

def construct (field : BitFieldDeclaration T) : Transfer := fun out storage memory =>
  field.integral.store out
    (field.integral.extend field.bitSize (readBits memory storage field.bitOffset _)) memory

def put (field : BitFieldDeclaration T) : Transfer := fun storage source memory =>
  writeBits memory storage field.bitOffset
    (field.integral.truncate field.bitSize (field.integral.load memory source))

def member (field : BitFieldDeclaration T) : MemberDeclaration T where
  identifier := field.identifier
  type := field.type
  declaringType := field.declaringType
  byteOffset := field.byteOffset
  isBitField := true
  isMutable := field.isMutable
  isConst := field.isConst
  copyConstruct := some field.construct
  assign := if field.isConst then none else some (.copyAndMove field.put field.put)

end BitFieldDeclaration

end PlaygroundEngine.Reflection
