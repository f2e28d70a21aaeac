import PlaygroundEngine.Library.BitStore
import PlaygroundEngine.Reflection.Enumeration
import PlaygroundEngine.Reflection.Facets

/-!
# Enumeration values in the table and in memory

The table of a reflected enumeration speaks `std::uint64_t`, an object of the enumeration holds
its underlying integer. The two meet in one pair of casts.
-/

namespace PlaygroundEngine.Reflection

open BitStore
set_option autoImplicit false

inductive IntegerWidth where
  | bits8
  | bits16
  | bits32
  | bits64
  deriving DecidableEq

def IntegerWidth.bits : IntegerWidth → Nat
  | bits8 => 8
  | bits16 => 16
  | bits32 => 32
  | bits64 => 64

/-- `std::underlying_type_t`, of at most 64 bits. -/
inductive UnderlyingType where
  | bool
  | unsigned (width : IntegerWidth)
  | signed (width : IntegerWidth)
  deriving DecidableEq

namespace UnderlyingType

/-- Every value of the underlying type is a value of the enumeration, named or not. -/
def Value : UnderlyingType → Type
  | bool => Bool
  | unsigned width => BitVec width.bits
  | signed width => BitVec width.bits

instance valueDecidableEq : (underlying : UnderlyingType) → DecidableEq underlying.Value
  | bool => inferInstanceAs (DecidableEq Bool)
  | unsigned width => inferInstanceAs (DecidableEq (BitVec width.bits))
  | signed width => inferInstanceAs (DecidableEq (BitVec width.bits))

/-- A negative value is sign-extended. -/
def toEnumeratorValue : (underlying : UnderlyingType) → underlying.Value → UInt64
  | bool, true => 1
  | bool, false => 0
  | unsigned _, value => UInt64.ofBitVec (BitVec.setWidth 64 value)
  | signed _, value => UInt64.ofBitVec (BitVec.signExtend 64 value)

/-- The cast to the underlying type drops the bits above its width; to `bool` it compares. -/
def fromEnumeratorValue : (underlying : UnderlyingType) → UInt64 → underlying.Value
  | bool, value => value != 0
  | unsigned width, value => value.toBitVec.setWidth width.bits
  | signed width, value => value.toBitVec.setWidth width.bits

def load : (underlying : UnderlyingType) → Memory → Address → underlying.Value
  | bool, memory, obj => readBits memory obj 0 8 != 0
  | unsigned width, memory, obj => readBits memory obj 0 width.bits
  | signed width, memory, obj => readBits memory obj 0 width.bits

def store : (underlying : UnderlyingType) → Address → underlying.Value → Memory → Memory
  | bool, obj, value, memory => writeBits memory obj 0 (BitVec.setWidth 8 (BitVec.ofBool value))
  | unsigned _, obj, value, memory => writeBits memory obj 0 value
  | signed _, obj, value, memory => writeBits memory obj 0 value

end UnderlyingType

/-- An enumeration with the values that its enumerators were declared with. -/
structure ReflectedEnum (T : Type) where
  type : T
  underlying : UnderlyingType
  enumerators : List (EnumeratorInfo underlying.Value)
  distinct : (enumerators.map (·.identifier)).Nodup

namespace ReflectedEnum

variable {T : Type} (enumeration : ReflectedEnum T)

/-- The captured table: the same conversion as in the thunks. -/
def makeEnumeratorsFromType : List (EnumeratorInfo UInt64) :=
  enumeration.enumerators.map fun enumerator =>
    ⟨enumerator.identifier, enumeration.underlying.toEnumeratorValue enumerator.value⟩

theorem makeEnumerators_identifiers :
    enumeration.makeEnumeratorsFromType.map (·.identifier) =
      enumeration.enumerators.map (·.identifier) := by
  simp [makeEnumeratorsFromType]

def table : EnumerationFacet UInt64 where
  enumerators := enumeration.makeEnumeratorsFromType
  distinct := by
    rw [makeEnumerators_identifiers]
    exact enumeration.distinct

def enumToName (value : enumeration.underlying.Value) : Option Bytes :=
  enumeration.table.enumToName (enumeration.underlying.toEnumeratorValue value)

def enumFromName (identifier : Bytes) : Option enumeration.underlying.Value :=
  (enumeration.table.enumFromName identifier).map enumeration.underlying.fromEnumeratorValue

def enumValueThunk (memory : Memory) (obj : Address) : UInt64 :=
  enumeration.underlying.toEnumeratorValue (enumeration.underlying.load memory obj)

def declaration : EnumerationDeclaration T where
  type := enumeration.type
  assign := fun obj value =>
    enumeration.underlying.store obj (enumeration.underlying.fromEnumeratorValue value)

def assign [DecidableEq T] (object : TypedRef T) (value : UInt64) (machine : Machine) :
    Except FacetError Unit × Machine :=
  enumeration.declaration.facet.assign object value machine

/-- `EnumerationFacet::Value`; that the object is of this enumeration is a precondition. -/
def value (object : TypedRef T) (memory : Memory) : UInt64 :=
  enumeration.enumValueThunk memory object.data

end ReflectedEnum

namespace UnderlyingType

theorem bits_le (width : IntegerWidth) : width.bits ≤ 64 := by
  cases width <;> simp [IntegerWidth.bits]

theorem bits_pos (width : IntegerWidth) : width.bits - 1 + 1 = width.bits := by
  cases width <;> rfl

theorem fromEnumeratorValue_toEnumeratorValue (underlying : UnderlyingType)
    (value : underlying.Value) :
    underlying.fromEnumeratorValue (underlying.toEnumeratorValue value) = value := by
  cases underlying with
  | bool => cases value <;> rfl
  | unsigned width => exact setWidth_setWidth (bits_le width) value
  | signed width => exact setWidth_signExtend (bits_le width) value

theorem toEnumeratorValue_injective (underlying : UnderlyingType) :
    Function.Injective underlying.toEnumeratorValue :=
  Function.LeftInverse.injective (fromEnumeratorValue_toEnumeratorValue underlying)

theorem load_store (underlying : UnderlyingType) (obj : Address) (value : underlying.Value)
    (memory : Memory) : underlying.load (underlying.store obj value memory) obj = value := by
  cases underlying with
  | bool =>
    simp only [load, store]
    rw [readBits_writeBits _ (by omega)]
    cases value <;> rfl
  | unsigned width =>
    have hle := bits_le width
    exact readBits_writeBits _ (by omega)
  | signed width =>
    have hle := bits_le width
    exact readBits_writeBits _ (by omega)

/-- The numbers that an object of this type can hold, as the table spells them. -/
def Holds : UnderlyingType → UInt64 → Prop
  | bool, value => value.toNat < 2
  | unsigned width, value => value.toNat < 2 ^ width.bits
  | signed width, value =>
    value.toNat < 2 ^ (width.bits - 1) ∨ 2 ^ 64 - 2 ^ (width.bits - 1) ≤ value.toNat

theorem ofBitVec_eq_iff (bits : BitVec 64) (value : UInt64) :
    UInt64.ofBitVec bits = value ↔ bits = value.toBitVec := by
  rw [← UInt64.toBitVec_inj]

/-- The two casts lose nothing exactly on the numbers that the type can hold. -/
theorem toEnumeratorValue_fromEnumeratorValue_iff (underlying : UnderlyingType) (value : UInt64) :
    underlying.toEnumeratorValue (underlying.fromEnumeratorValue value) = value ↔
      underlying.Holds value := by
  cases underlying with
  | bool =>
    by_cases hzero : value = 0
    · subst hzero
      simp [fromEnumeratorValue, toEnumeratorValue, Holds]
    · have hne : value.toNat ≠ 0 := fun h => hzero (UInt64.toNat_inj.mp h)
      simp only [fromEnumeratorValue, bne_iff_ne.mpr hzero, toEnumeratorValue, Holds,
        ← UInt64.toNat_inj]
      have hone : (1 : UInt64).toNat = 1 := rfl
      omega
  | unsigned width =>
    have hwidth : 2 ^ width.bits ≤ 2 ^ 64 := Nat.pow_le_pow_right (by omega) (bits_le width)
    change UInt64.ofBitVec ((value.toBitVec.setWidth width.bits).setWidth 64) = value ↔ _
    rw [ofBitVec_eq_iff, setWidth_setWidth_eq_iff]
    rfl
  | signed width =>
    change UInt64.ofBitVec ((value.toBitVec.setWidth width.bits).signExtend 64) = value ↔ _
    have hle : width.bits - 1 + 1 ≤ 64 := by
      rw [bits_pos]
      exact bits_le width
    have hiff := signExtend_setWidth_eq_iff hle value.toBitVec
    rw [bits_pos] at hiff
    rw [ofBitVec_eq_iff, hiff, BitVec.toInt_eq_toNat_cond]
    have hlt := value.toNat_lt
    have hnat : value.toBitVec.toNat = value.toNat := rfl
    cases width <;> simp only [Holds, IntegerWidth.bits, hnat] <;> split <;> omega

end UnderlyingType

namespace ReflectedEnum

variable {T : Type} (enumeration : ReflectedEnum T)

/-- Both searches are first-match searches, over keys that the injective cast relates. -/
theorem findByValue_toEnumeratorValue (value : enumeration.underlying.Value) :
    enumeration.table.findByValue (enumeration.underlying.toEnumeratorValue value) =
      (enumeration.enumerators.find? fun enumerator => enumerator.value == value).map
        fun enumerator => ⟨enumerator.identifier,
          enumeration.underlying.toEnumeratorValue enumerator.value⟩ := by
  have hinjective := enumeration.underlying.toEnumeratorValue_injective
  simp only [EnumerationFacet.findByValue, table, makeEnumeratorsFromType]
  induction enumeration.enumerators with
  | nil => rfl
  | cons first rest ih =>
    by_cases heq : first.value = value
    · simp [heq]
    · have hne : enumeration.underlying.toEnumeratorValue first.value ≠
          enumeration.underlying.toEnumeratorValue value := fun h => heq (hinjective h)
      simpa [heq, hne] using ih

theorem enumToName_eq (value : enumeration.underlying.Value) :
    enumeration.enumToName value =
      (enumeration.enumerators.find? fun enumerator => enumerator.value == value).map
        (·.identifier) := by
  rw [enumToName, EnumerationFacet.enumToName, findByValue_toEnumeratorValue, Option.map_map]
  rfl

theorem enumToName_eq_none_iff (value : enumeration.underlying.Value) :
    enumeration.enumToName value = none ↔
      ∀ enumerator ∈ enumeration.enumerators, enumerator.value ≠ value := by
  simp [enumToName_eq]

theorem enumFromName_enumToName {value : enumeration.underlying.Value} {identifier : Bytes}
    (h : enumeration.enumToName value = some identifier) :
    enumeration.enumFromName identifier = some value := by
  have hname := EnumerationFacet.enumFromName_enumToName h
  simp [enumFromName, hname, UnderlyingType.fromEnumeratorValue_toEnumeratorValue]

theorem assign_admitted [DecidableEq T] {object : TypedRef T}
    (hadmits : FacetAdmits (some enumeration.type) object) (value : UInt64) (machine : Machine) :
    (enumeration.assign object value machine).1 = .ok () ∧
      enumeration.value object (enumeration.assign object value machine).2.memory =
        enumeration.underlying.toEnumeratorValue
          (enumeration.underlying.fromEnumeratorValue value) := by
  obtain hrefused | ⟨_, mutate, hmutate, hresult⟩ := mutateFacet_cases
    (some enumeration.type) object
    (some fun obj machine => (.ok (), enumeration.declaration.facet.assignThunk obj value machine))
    machine
  · exact absurd ⟨hadmits, rfl⟩ hrefused.1
  · obtain rfl := Option.some.inj hmutate
    have hassign : enumeration.assign object value machine =
        (.ok (), enumeration.declaration.facet.assignThunk object.data value machine) := hresult
    rw [hassign]
    refine ⟨rfl, ?_⟩
    exact congrArg _ (UnderlyingType.load_store enumeration.underlying object.data _ machine.memory)

theorem assign_refused [DecidableEq T] {object : TypedRef T}
    (hadmits : ¬ FacetAdmits (some enumeration.type) object) (value : UInt64)
    (machine : Machine) : Refused (enumeration.assign object value machine) machine := by
  obtain hrefused | ⟨hadmitted, _⟩ := mutateFacet_cases (some enumeration.type) object
    (some fun obj machine => (.ok (), enumeration.declaration.facet.assignThunk obj value machine))
    machine
  · exact hrefused.2
  · exact absurd hadmitted hadmits

/-- Success stores the value that was given; an error changes nothing. -/
def AssignKeepsValue [DecidableEq T] (object : TypedRef T) (value : UInt64) (machine : Machine) :
    Prop :=
  let result := enumeration.assign object value machine
  (result.1 = .ok () ∧ enumeration.value object result.2.memory = value) ∨ Refused result machine

/-- The table, the typed helpers and the erased facet agree on every value of the enumeration. -/
theorem enumeration_paths_agree :
    (∀ value, enumeration.underlying.fromEnumeratorValue
      (enumeration.underlying.toEnumeratorValue value) = value) ∧
    Function.Injective enumeration.underlying.toEnumeratorValue ∧
    (∀ value, enumeration.enumToName value =
      (enumeration.enumerators.find? fun enumerator => enumerator.value == value).map
        (·.identifier)) ∧
    (∀ value, enumeration.enumToName value = none ↔
      ∀ enumerator ∈ enumeration.enumerators, enumerator.value ≠ value) ∧
    (∀ value identifier, enumeration.enumToName value = some identifier →
      enumeration.enumFromName identifier = some value) ∧
    ∀ (object : TypedRef T) (memory : Memory) (value : enumeration.underlying.Value),
      enumeration.underlying.load memory object.data = value →
      enumeration.table.findByValue (enumeration.value object memory) =
        ((enumeration.enumerators.find? fun enumerator => enumerator.value == value).map
          fun enumerator => ⟨enumerator.identifier,
            enumeration.underlying.toEnumeratorValue enumerator.value⟩) ∧
      (enumeration.table.findByValue (enumeration.value object memory)).map (·.identifier) =
        enumeration.enumToName value := by
  refine ⟨enumeration.underlying.fromEnumeratorValue_toEnumeratorValue,
    enumeration.underlying.toEnumeratorValue_injective, enumeration.enumToName_eq,
    enumeration.enumToName_eq_none_iff, ?_, ?_⟩
  · intro value identifier h
    exact enumeration.enumFromName_enumToName h
  · rintro object memory value rfl
    exact ⟨enumeration.findByValue_toEnumeratorValue _, rfl⟩

theorem assignKeepsValue_iff [DecidableEq T] (object : TypedRef T) (value : UInt64)
    (machine : Machine) :
    enumeration.AssignKeepsValue object value machine ↔
      (FacetAdmits (some enumeration.type) object → enumeration.underlying.Holds value) := by
  rw [← UnderlyingType.toEnumeratorValue_fromEnumeratorValue_iff]
  constructor
  · intro hkeeps hadmits
    obtain ⟨hok, hstored⟩ := enumeration.assign_admitted hadmits value machine
    rcases hkeeps with ⟨_, hvalue⟩ | ⟨⟨error, herror⟩, _⟩
    · rw [← hstored, hvalue]
    · rw [hok] at herror
      cases herror
  · intro hholds
    by_cases hadmits : FacetAdmits (some enumeration.type) object
    · obtain ⟨hok, hstored⟩ := enumeration.assign_admitted hadmits value machine
      exact Or.inl ⟨hok, hstored.trans (hholds hadmits)⟩
    · exact Or.inr (enumeration.assign_refused hadmits value machine)

/-- `enum class Toggle : std::uint8_t { Off, On }`. -/
def toggle : ReflectedEnum Unit where
  type := ()
  underlying := .unsigned .bits8
  enumerators := [⟨bytesOf "Off", (0 : BitVec 8)⟩, ⟨bytesOf "On", (1 : BitVec 8)⟩]
  distinct := by decide

/-- The write of 256 succeeds and reads back as 0, the value of `Off`. -/
theorem toggle_assign_wraps :
    ¬ toggle.AssignKeepsValue ⟨some (), 64, false, false⟩ 256 ⟨fun _ => 1, []⟩ := by
  have hadmits : FacetAdmits (some toggle.type) (⟨some (), 64, false, false⟩ : TypedRef Unit) :=
    ⟨by decide, fun _ => rfl, by decide⟩
  obtain ⟨hok, hstored⟩ := toggle.assign_admitted hadmits 256 ⟨fun _ => 1, []⟩
  intro hgiven
  rcases hgiven with ⟨_, hvalue⟩ | ⟨⟨error, herror⟩, _⟩
  · rw [hstored] at hvalue
    exact absurd hvalue (by decide)
  · rw [hok] at herror
    cases herror

end ReflectedEnum

end PlaygroundEngine.Reflection
