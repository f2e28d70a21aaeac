import PlaygroundEngine.Reflection.BitFields

/-!
# Values in the fields of an object

The layout of a class, an object of it in memory and the caller's own objects.
Constructors and assignments of members are taken to carry the value over; bit-fields
are read and written by the implementation.
-/

namespace PlaygroundEngine.Reflection

open BitStore
set_option autoImplicit false

variable {T : Type}

def Covers (address : Address) (size : Nat) (byte : Address) : Prop :=
  (byte - address).toNat < size

def Apart (address : Address) (size : Nat) (address' : Address) (size' : Nat) : Prop :=
  ∀ byte, Covers address size byte → ¬ Covers address' size' byte

/-- What the objects of a program hold. An object may own memory besides its bytes; the
objects that the program itself places lie apart from owned memory. -/
structure Values (T : Type) where
  Value : Type
  read : T → Memory → Address → Value
  size : T → Nat
  size_lt : ∀ type, size type < 2 ^ 64
  integral : T → Option IntegralType
  integral_size : ∀ type integral', integral type = some integral' → size type = integral'.bytes
  integral_read : ∀ type integral', integral type = some integral' →
    ∀ memory address memory' address', read type memory address = read type memory' address' ↔
      integral'.load memory address = integral'.load memory' address'
  placed : Address → Prop
  /-- The bytes of integral objects and of bit-fields. -/
  plain : Address → Prop
  /-- Every object is in its lifetime. -/
  sound : Memory → Prop
  sound_plain : ∀ memory memory', sound memory →
    (∀ byte, ¬ plain byte → memory' byte = memory byte) → sound memory'
  read_plain : ∀ type address memory memory',
    (∀ byte, ¬ plain byte ∨ Covers address (size type) byte → memory' byte = memory byte) →
    read type memory' address = read type memory address

namespace Values

variable (values : Values T)

def Placed (type : T) (address : Address) : Prop :=
  ∀ byte, Covers address (values.size type) byte → values.placed byte

/-- Nothing that is placed outside of the region changes. -/
structure Disturbs (region : Address → Prop) (memory memory' : Memory) : Prop where
  sound : values.sound memory'
  bytes : ∀ byte, values.placed byte → ¬ region byte → memory' byte = memory byte
  objects : ∀ type address, values.Placed type address →
    (∀ byte, region byte → ¬ Covers address (values.size type) byte) →
    values.read type memory' address = values.read type memory address

structure Ready (type : T) (target source : Address) (memory : Memory) : Prop where
  sound : values.sound memory
  target_placed : values.Placed type target
  source_placed : values.Placed type source
  apart : Apart target (values.size type) source (values.size type)

/-- The operator carries the value over; a move may change its source. -/
structure Carries (type : T) (moves : Bool) (transfer : Transfer) : Prop where
  value : ∀ target source memory, values.Ready type target source memory →
    values.read type (transfer target source memory) target = values.read type memory source
  disturbs : ∀ target source memory, values.Ready type target source memory →
    values.Disturbs (fun byte => Covers target (values.size type) byte ∨
      moves ∧ Covers source (values.size type) byte) memory (transfer target source memory)

def CarriesAssign (type : T) : Assignability → Prop
  | .copyAndMove copy move => values.Carries type false copy ∧ values.Carries type true move
  | .moveOnly move => values.Carries type true move
  | .copyOnly copy => values.Carries type false copy

structure CarriesMember (member : MemberDeclaration T) : Prop where
  construct : ∀ construct, member.copyConstruct = some construct →
    values.Carries member.type false construct
  assign : ∀ assign, member.assign = some assign → values.CarriesAssign member.type assign

theorem disturbs_plain {region : Address → Prop} {memory memory' : Memory}
    (hsound : values.sound memory) (hplain : ∀ byte, region byte → values.plain byte)
    (hbytes : ∀ byte, ¬ region byte → memory' byte = memory byte) :
    values.Disturbs region memory memory' where
  sound := values.sound_plain memory memory' hsound fun byte hbyte =>
    hbytes byte fun hregion => hbyte (hplain byte hregion)
  bytes byte _ hbyte := hbytes byte hbyte
  objects type address _ hapart := by
    apply values.read_plain
    intro byte hbyte
    apply hbytes
    intro hregion
    rcases hbyte with hbyte | hbyte
    · exact hbyte (hplain byte hregion)
    · exact hapart byte hregion hbyte

end Values

inductive LayoutField (T : Type) where
  | object (member : MemberDeclaration T)
  | bitField (field : BitFieldDeclaration T)

namespace LayoutField

def member : LayoutField T → MemberDeclaration T
  | object member => member
  | bitField field => field.member

def first : LayoutField T → Nat
  | object member => 8 * member.byteOffset.toNat
  | bitField field => 8 * field.byteOffset.toNat + field.bitOffset

/-- A reference member stores a pointer. -/
def width (values : Values T) : LayoutField T → Nat
  | object member => 8 * (if member.reference = .none then values.size member.type else 8)
  | bitField field => field.bitSize

def Touches (values : Values T) (field : LayoutField T) (obj byte : Address) : Prop :=
  field.first < 8 * (byte - obj).toNat + 8 ∧
    8 * (byte - obj).toNat < field.first + field.width values

end LayoutField

structure ClassLayout (values : Values T) where
  type : T
  fields : List (LayoutField T)
  declaringType : ∀ field ∈ fields, field.member.declaringType = type
  inside : ∀ field ∈ fields, field.first + field.width values ≤ 8 * values.size type
  disjoint : ∀ (i j : Nat) field other, fields[i]? = some field → fields[j]? = some other → i ≠ j →
    field.first + field.width values ≤ other.first ∨
      other.first + other.width values ≤ field.first
  object_isBitField : ∀ member, .object member ∈ fields → member.isBitField = false
  carries : ∀ member, .object member ∈ fields → values.CarriesMember member
  integral : ∀ field, .bitField field ∈ fields → values.integral field.type = some field.integral

namespace ClassLayout

variable {values : Values T} (layout : ClassLayout values)

/-- An object of the class, whose reference members refer to other objects. -/
structure Holds (obj : Address) (memory : Memory) : Prop where
  sound : values.sound memory
  placed : values.Placed layout.type obj
  plain : ∀ field, .bitField field ∈ layout.fields → ∀ byte,
    (LayoutField.bitField field).Touches values obj byte → values.plain byte
  referents : ∀ member, .object member ∈ layout.fields → member.reference ≠ .none →
    values.Placed member.type (member.location obj memory) ∧
      Apart obj (values.size layout.type) (member.location obj memory) (values.size member.type)

/-- An object of the caller, to read into or to write from. -/
structure Slot (obj : Address) (memory : Memory) (type : T) (address : Address) : Prop where
  placed : values.Placed type address
  plain : ∀ integral, values.integral type = some integral → ∀ byte,
    Covers address (values.size type) byte → values.plain byte
  apart : Apart obj (values.size layout.type) address (values.size type)
  referents : ∀ member, .object member ∈ layout.fields → member.reference ≠ .none →
    Apart (member.location obj memory) (values.size member.type) address (values.size type)

end ClassLayout

namespace LayoutField

variable {values : Values T}

theorem touches_iff_covers {member : MemberDeclaration T} (href : member.reference = .none)
    {obj byte : Address}
    (hinside : (object member).first + (object member).width values ≤ 2 ^ 67) :
    (object member).Touches values obj byte ↔
      Covers (member.storage obj) (values.size member.type) byte := by
  have hdistance := toNat_sub_add obj byte member.byteOffset
  simp only [Touches, first, width, href, if_true, Covers, MemberDeclaration.storage] at *
  split at hdistance
  · omega
  · omega

theorem touches_pointer {member : MemberDeclaration T} (href : member.reference ≠ .none)
    (obj : Address) (hinside : (object member).first + (object member).width values ≤ 2 ^ 67)
    {k : Nat} (hk : k < 8) :
    (object member).Touches values obj (member.storage obj + UInt64.ofNat k) := by
  simp only [first, width, href, if_false] at hinside
  have hbyte : (member.storage obj + UInt64.ofNat k - obj).toNat =
      member.byteOffset.toNat + k := by
    have hcancel : member.storage obj + UInt64.ofNat k - obj =
        member.byteOffset + UInt64.ofNat k := by
      rw [MemberDeclaration.storage, UInt64.add_assoc, UInt64.add_comm, UInt64.add_sub_cancel]
    rw [hcancel, UInt64.toNat_add, UInt64.toNat_ofNat']
    omega
  simp only [Touches, first, width, href, if_false, hbyte]
  omega

theorem not_touches_of_disjoint {member : MemberDeclaration T} {other : LayoutField T}
    (hdisjoint : (object member).first + (object member).width values ≤ other.first ∨
      other.first + other.width values ≤ (object member).first)
    {obj byte : Address} (htouches : (object member).Touches values obj byte) :
    ¬ other.Touches values obj byte := by
  simp only [Touches, first, width] at *
  split at htouches <;> rename_i href <;> simp only [href, if_true, if_false] at hdisjoint <;> omega

end LayoutField

def LayoutField.SameValue (values : Values T) (obj : Address) (memory memory' : Memory) :
    LayoutField T → Prop
  | .object member =>
    values.read member.type memory' (member.location obj memory') =
      values.read member.type memory (member.location obj memory)
  | .bitField field =>
    readBits memory' (field.member.storage obj) field.bitOffset
        (field.integral.valueBits field.bitSize) =
      readBits memory (field.member.storage obj) field.bitOffset
        (field.integral.valueBits field.bitSize)

theorem readPointer_congr {memory memory' : Memory} {address : Address}
    (h : ∀ k, k < 8 → memory' (address + UInt64.ofNat k) = memory (address + UInt64.ofNat k)) :
    readPointer memory' address = readPointer memory address := by
  unfold readPointer
  apply List.foldl_ext
  intro pointer k hk
  rw [h k (List.mem_range.mp hk)]

namespace ClassLayout

variable {values : Values T} {layout : ClassLayout values} {obj : Address}
  {memory memory' : Memory}

theorem inside_le {field : LayoutField T} (hfield : field ∈ layout.fields) :
    field.first + field.width values ≤ 2 ^ 67 := by
  have hinside := layout.inside field hfield
  have hsize := values.size_lt layout.type
  omega

theorem covers_of_touches {field : LayoutField T} (hfield : field ∈ layout.fields) {byte : Address}
    (h : field.Touches values obj byte) : Covers obj (values.size layout.type) byte := by
  have hinside := layout.inside field hfield
  simp only [LayoutField.Touches, Covers] at *
  omega

theorem location_placed (hholds : layout.Holds obj memory) {member : MemberDeclaration T}
    (hmember : .object member ∈ layout.fields) :
    values.Placed member.type (member.location obj memory) := by
  by_cases href : member.reference = .none
  · intro byte hbyte
    rw [MemberDeclaration.location, if_pos href,
      ← LayoutField.touches_iff_covers href (inside_le hmember)] at hbyte
    exact hholds.placed byte (covers_of_touches hmember hbyte)
  · exact (hholds.referents member hmember href).1

theorem location_apart {type : T} {slot : Address} (hslot : layout.Slot obj memory type slot)
    {member : MemberDeclaration T} (hmember : .object member ∈ layout.fields) :
    Apart (member.location obj memory) (values.size member.type) slot (values.size type) := by
  by_cases href : member.reference = .none
  · intro byte hbyte
    rw [MemberDeclaration.location, if_pos href,
      ← LayoutField.touches_iff_covers href (inside_le hmember)] at hbyte
    exact hslot.apart byte (covers_of_touches hmember hbyte)
  · exact hslot.referents member hmember href

theorem location_eq {region : Address → Prop} (hholds : layout.Holds obj memory)
    (hdisturbs : values.Disturbs region memory memory') {member : MemberDeclaration T}
    (hmember : .object member ∈ layout.fields)
    (hregion : member.reference ≠ .none →
      ∀ byte, region byte → ¬ (LayoutField.object member).Touches values obj byte) :
    member.location obj memory' = member.location obj memory := by
  unfold MemberDeclaration.location
  split
  · rfl
  · rename_i href
    apply readPointer_congr
    intro k hk
    have htouches := LayoutField.touches_pointer href obj (inside_le hmember) hk
    apply hdisturbs.bytes
    · exact hholds.placed _ (covers_of_touches hmember htouches)
    · exact fun hbyte => hregion href _ hbyte htouches

theorem sameValue_of_disturbs {region : Address → Prop} (hholds : layout.Holds obj memory)
    (hdisturbs : values.Disturbs region memory memory') {field : LayoutField T}
    (hfield : field ∈ layout.fields)
    (hregion : ∀ byte, region byte → ¬ field.Touches values obj byte)
    (hreferents : ∀ member, .object member ∈ layout.fields → member.reference ≠ .none →
      ∀ byte, region byte →
        ¬ Covers (member.location obj memory) (values.size member.type) byte) :
    field.SameValue values obj memory memory' := by
  cases field with
  | object member =>
    have hlocation := location_eq hholds hdisturbs hfield fun _ => hregion
    rw [LayoutField.SameValue, hlocation]
    apply hdisturbs.objects _ _ (location_placed hholds hfield)
    intro byte hbyte
    by_cases href : member.reference = .none
    · rw [MemberDeclaration.location, if_pos href,
        ← LayoutField.touches_iff_covers href (inside_le hfield)]
      exact hregion byte hbyte
    · exact hreferents member hfield href byte hbyte
  | bitField field =>
    have hinside := inside_le hfield
    have hvalue := field.integral.valueBits_le field.bitSize_pos
    rw [LayoutField.SameValue, MemberDeclaration.storage, readBits_add, readBits_add]
    apply readBits_congr
    intro k hk hlt
    simp only [BitFieldDeclaration.member] at hk hlt
    simp only [LayoutField.first, LayoutField.width] at hinside
    apply bitAt_congr
    have hbyte := toNat_add_ofNat_sub obj (show k / 8 < 2 ^ 64 by omega)
    have htouches : (LayoutField.bitField field).Touches values obj
        (obj + UInt64.ofNat (k / 8)) := by
      simp only [LayoutField.Touches, LayoutField.first, LayoutField.width, hbyte]
      omega
    apply hdisturbs.bytes
    · exact hholds.placed _ (covers_of_touches hfield htouches)
    · exact fun hregion' => hregion _ hregion' htouches

def SameReferents (layout : ClassLayout values) (obj : Address) (memory memory' : Memory) : Prop :=
  ∀ member, .object member ∈ layout.fields →
    member.location obj memory' = member.location obj memory

theorem Holds.of_sameReferents (hholds : layout.Holds obj memory) (hsound : values.sound memory')
    (hsame : layout.SameReferents obj memory memory') : layout.Holds obj memory' where
  sound := hsound
  placed := hholds.placed
  plain := hholds.plain
  referents member hmember href := by
    rw [hsame member hmember]
    exact hholds.referents member hmember href

theorem Slot.of_sameReferents {type : T} {slot : Address}
    (hslot : layout.Slot obj memory type slot)
    (hsame : layout.SameReferents obj memory memory') : layout.Slot obj memory' type slot where
  placed := hslot.placed
  plain := hslot.plain
  apart := hslot.apart
  referents member hmember href := by
    rw [hsame member hmember]
    exact hslot.referents member hmember href

theorem ready_of_slot (hholds : layout.Holds obj memory) {member : MemberDeclaration T}
    (hmember : .object member ∈ layout.fields) {slot : Address}
    (hslot : layout.Slot obj memory member.type slot) :
    values.Ready member.type slot (member.location obj memory) memory where
  sound := hholds.sound
  target_placed := hslot.placed
  source_placed := location_placed hholds hmember
  apart byte hbyte hbyte' := location_apart hslot hmember byte hbyte' hbyte

theorem ready_of_source (hholds : layout.Holds obj memory) {member : MemberDeclaration T}
    (hmember : .object member ∈ layout.fields) {source : Address}
    (hslot : layout.Slot obj memory member.type source) (href : member.reference = .none) :
    values.Ready member.type (member.storage obj) source memory := by
  have hready := ready_of_slot hholds hmember hslot
  rw [MemberDeclaration.location, if_pos href] at hready
  exact ⟨hholds.sound, hready.source_placed, hready.target_placed,
    fun byte hbyte hbyte' => hready.apart byte hbyte' hbyte⟩

theorem integral_bytes_lt {field : BitFieldDeclaration T}
    (hfield : .bitField field ∈ layout.fields) : field.integral.bytes < 2 ^ 64 := by
  rw [← values.integral_size _ _ (layout.integral field hfield)]
  exact values.size_lt field.type

end ClassLayout

end PlaygroundEngine.Reflection
