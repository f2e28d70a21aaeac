import PlaygroundEngine.Reflection.FieldAccess

/-!
# The lens laws of a field

The laws hold of every field with storage of its own, and of a bit-field exactly for
the values in its range.
-/

namespace PlaygroundEngine.Reflection

open BitStore
set_option autoImplicit false

variable {T : Type} {values : Values T} {layout : ClassLayout values} {obj : Address}
  {memory memory' : Memory}

section
variable [DecidableEq T]

/-- The value that `GetValue` leaves in the caller's object. -/
def yields (values : Values T) (member : MemberDeclaration T) (object out : TypedRef T)
    (machine : Machine) : Option values.Value :=
  match (makeField member).getValue object out machine with
  | (.ok _, after) => some (values.read member.type after.memory out.data)
  | (.error _, _) => none

theorem yields_cases (values : Values T) (member : MemberDeclaration T) (object out : TypedRef T)
    (machine : Machine) :
    (¬ member.Readable object out ∧ yields values member object out machine = none) ∨
    (member.Readable object out ∧ ∃ construct, member.copyConstruct = some construct ∧
      yields values member object out machine = some (values.read member.type
        (construct out.data (member.location object.data machine.memory) machine.memory)
        out.data)) := by
  unfold yields
  rcases getValue_cases member object out machine with
    ⟨hreadable, ⟨error, herror⟩, _⟩ | ⟨hreadable, construct, hconstruct, hok, hmemory⟩
  · refine Or.inl ⟨hreadable, ?_⟩
    split
    · rename_i heq
      rw [heq] at herror
      cases herror
    · rfl
  · refine Or.inr ⟨hreadable, construct, hconstruct, ?_⟩
    split
    · rename_i heq
      rw [heq] at hmemory
      rw [hmemory]
    · rename_i heq
      rw [heq] at hok
      cases hok

theorem yields_object {member : MemberDeclaration T} (hmember : .object member ∈ layout.fields)
    {object out : TypedRef T} {machine : Machine}
    (hholds : layout.Holds object.data machine.memory)
    (hslot : layout.Slot object.data machine.memory member.type out.data)
    (hreadable : member.Readable object out) :
    yields values member object out machine =
      some (values.read member.type machine.memory
        (member.location object.data machine.memory)) := by
  rcases yields_cases values member object out machine with
      ⟨hother, _⟩ | ⟨_, construct, hconstruct, h⟩
  · exact absurd hreadable hother
  · rw [h, ((layout.carries member hmember).construct construct hconstruct).value _ _ _
      (ClassLayout.ready_of_slot hholds hmember hslot)]

theorem yields_bitField {field : BitFieldDeclaration T} {object out : TypedRef T}
    {machine : Machine} (hreadable : field.member.Readable object out) :
    yields values field.member object out machine =
      some (values.read field.type
        (field.construct out.data (field.member.storage object.data) machine.memory)
        out.data) := by
  rcases yields_cases values field.member object out machine with
      ⟨hother, _⟩ | ⟨_, _, hconstruct, h⟩
  · exact absurd hreadable hother
  · cases hconstruct
    exact h

omit [DecidableEq T] in
theorem bitField_read_iff {field : BitFieldDeclaration T}
    (hfield : .bitField field ∈ layout.fields) (out obj obj' : Address)
    (memory'' : Memory) :
    values.read field.type (field.construct out (field.member.storage obj) memory) out =
        values.read field.type memory'' obj' ↔
      field.integral.extend field.bitSize
        (readBits memory (field.member.storage obj) field.bitOffset _) =
      field.integral.load memory'' obj' := by
  rw [values.integral_read _ _ (layout.integral field hfield), BitFieldDeclaration.construct,
    IntegralType.load_store _ (ClassLayout.integral_bytes_lt hfield)]

theorem yields_eq_of_sameValue {field : LayoutField T} (hfield : field ∈ layout.fields)
    {object out : TypedRef T} {machine machine' : Machine}
    (hholds : layout.Holds object.data machine.memory)
    (hholds' : layout.Holds object.data machine'.memory)
    (hslot : layout.Slot object.data machine.memory field.member.type out.data)
    (hslot' : layout.Slot object.data machine'.memory field.member.type out.data)
    (hsame : field.SameValue values object.data machine.memory machine'.memory) :
    yields values field.member object out machine' =
      yields values field.member object out machine := by
  rcases yields_cases values field.member object out machine with
    ⟨hother, hnone⟩ | ⟨hreadable, _⟩
  · rcases yields_cases values field.member object out machine' with
      ⟨_, hnone'⟩ | ⟨hreadable, _⟩
    · rw [hnone, hnone']
    · exact absurd hreadable hother
  cases field with
  | object member =>
    rw [LayoutField.member, yields_object hfield hholds hslot hreadable,
      yields_object hfield hholds' hslot' hreadable, hsame]
  | bitField field =>
    rw [LayoutField.member, yields_bitField hreadable, yields_bitField hreadable]
    congr 1
    rw [bitField_read_iff hfield, BitFieldDeclaration.construct,
      IntegralType.load_store _ (ClassLayout.integral_bytes_lt hfield), hsame]

theorem ClassLayout.Holds.yields_eq {object out : TypedRef T} {machine machine' : Machine}
    (hholds : layout.Holds object.data machine.memory) {field : LayoutField T}
    (hslot : layout.Slot object.data machine.memory field.member.type out.data)
    (hfield : field ∈ layout.fields)
    (hkeeps : layout.Keeps object.data machine.memory machine'.memory) :
    yields values field.member object out machine' =
      yields values field.member object out machine :=
  yields_eq_of_sameValue hfield hholds hkeeps.holds hslot (hslot.of_sameReferents hkeeps.referents)
    (hkeeps.fields field hfield)

def LayoutField.Fits (field : LayoutField T) (source : Address) (memory : Memory) : Prop :=
  match field with
  | object _ => True
  | bitField field =>
    field.integral.Fits field.bitSize (field.integral.load memory source)

/-- `set` is the machine after the write, `got` the one after a read into `out`. The fields
of the class are those in its layout; inherited ones belong to an object beside it. -/
structure LensLaws (layout : ClassLayout values) (i : Nat) (field : LayoutField T)
    (object source out : TypedRef T) (machine : Machine) : Prop where
  putGet : ∀ set, (makeField field.member).setValue object source machine = (.ok (), set) →
    yields values field.member object out set =
      some (values.read field.member.type machine.memory source.data)
  others : ∀ set, (makeField field.member).setValue object source machine = (.ok (), set) →
    ∀ j other (slot : TypedRef T), layout.fields[j]? = some other → i ≠ j →
      layout.Slot object.data machine.memory other.member.type slot.data →
      yields values other.member object slot set = yields values other.member object slot machine
  elsewhere : ∀ set, (makeField field.member).setValue object source machine = (.ok (), set) →
    ∀ (beside : ClassLayout values) (object' slot : TypedRef T) other,
      ClassLayout.Beside field object.data source.data beside object'.data machine.memory →
      other ∈ beside.fields →
      beside.Slot object'.data machine.memory other.member.type slot.data →
      yields values other.member object' slot set = yields values other.member object' slot machine
  source : ∀ set, (makeField field.member).setValue object source machine = (.ok (), set) →
    ¬ (source.movable ∧ ¬ source.isConst) →
    values.read field.member.type set.memory source.data =
      values.read field.member.type machine.memory source.data
  writeBack : ∀ got set, (makeField field.member).getValue object out machine = (.ok (), got) →
    (makeField field.member).setValue object out got = (.ok (), set) →
    ∀ other (slot : TypedRef T), other ∈ layout.fields →
      layout.Slot object.data machine.memory other.member.type slot.data →
      yields values other.member object slot set = yields values other.member object slot machine
  writeBackElsewhere : ∀ got set,
    (makeField field.member).getValue object out machine = (.ok (), got) →
    (makeField field.member).setValue object out got = (.ok (), set) →
    ∀ (beside : ClassLayout values) (object' slot : TypedRef T) other,
      ClassLayout.Beside field object.data out.data beside object'.data machine.memory →
      other ∈ beside.fields →
      beside.Slot object'.data machine.memory other.member.type slot.data →
      yields values other.member object' slot set = yields values other.member object' slot machine

theorem setValue_ok {member : MemberDeclaration T} {object source : TypedRef T}
    {machine set : Machine}
    (h : (makeField member).setValue object source machine = (.ok (), set)) :
    member.AcceptsWrite object source ∧ ∃ assign moves transfer,
      member.assign = some assign ∧ assign.selected source = some (moves, transfer) ∧
      set.memory = transfer (member.storage object.data) source.data machine.memory := by
  rcases setValue_cases member object source machine with
    ⟨_, ⟨error, herror⟩, _⟩ | ⟨haccepts, assign, moves, transfer, hassign, hselected, _, hmemory⟩
  · rw [h] at herror
    cases herror
  · rw [h] at hmemory
    exact ⟨haccepts, assign, moves, transfer, hassign, hselected, hmemory⟩

theorem getValue_ok {member : MemberDeclaration T} {object out : TypedRef T}
    {machine got : Machine}
    (h : (makeField member).getValue object out machine = (.ok (), got)) :
    ∃ construct, member.copyConstruct = some construct ∧
      got.memory = construct out.data (member.location object.data machine.memory)
        machine.memory := by
  rcases getValue_cases member object out machine with
    ⟨_, ⟨error, herror⟩, _⟩ | ⟨_, construct, hconstruct, _, hmemory⟩
  · rw [h] at herror
    cases herror
  · rw [h] at hmemory
    exact ⟨construct, hconstruct, hmemory⟩

omit [DecidableEq T]

theorem write_object {member : MemberDeclaration T} (hmember : .object member ∈ layout.fields)
    (hholds : layout.Holds obj memory) {source : TypedRef T}
    (hslot : layout.Slot obj memory member.type source.data) (href : member.reference = .none)
    {assign : Assignability} (hassign : member.assign = some assign) {moves : Bool}
    {transfer : Transfer} (hselected : assign.selected source = some (moves, transfer)) :
    values.read member.type (transfer (member.storage obj) source.data memory)
        (member.storage obj) =
      values.read member.type memory source.data := by
  have hcarries := selected_carries ((layout.carries member hmember).assign assign hassign)
    hselected
  exact hcarries.value _ _ _ (ClassLayout.ready_of_source hholds hmember hslot href)

theorem put_bits {field : BitFieldDeclaration T} (hfield : .bitField field ∈ layout.fields)
    (source : Address) :
    readBits (field.put (field.member.storage obj) source memory) (field.member.storage obj)
        field.bitOffset (field.integral.valueBits field.bitSize) =
      field.integral.truncate field.bitSize (field.integral.load memory source) := by
  have hinside := ClassLayout.inside_le hfield
  have hvalue := field.integral.valueBits_le field.bitSize_pos
  simp only [LayoutField.first, LayoutField.width] at hinside
  exact readBits_writeBits _ (by omega)

end

section
variable [DecidableEq T] {i : Nat} {field : LayoutField T} {object source out : TypedRef T}
  {machine : Machine}

theorem disturbs_of_getValue (hfield : field ∈ layout.fields)
    (hholds : layout.Holds object.data machine.memory)
    (hslot : layout.Slot object.data machine.memory field.member.type out.data) {got : Machine}
    (h : (makeField field.member).getValue object out machine = (.ok (), got)) :
    values.Disturbs (Covers out.data (values.size field.member.type)) machine.memory
      got.memory := by
  obtain ⟨construct, hconstruct, hmemory⟩ := getValue_ok h
  rw [hmemory]
  exact ClassLayout.read_disturbs hfield hholds hslot hconstruct

theorem disturbs_of_setValue (hfield : field ∈ layout.fields)
    (hholds : layout.Holds object.data machine.memory)
    (hslot : layout.Slot object.data machine.memory field.member.type source.data) {set : Machine}
    (h : (makeField field.member).setValue object source machine = (.ok (), set)) :
    ∃ moves : Bool, (moves = true → source.movable ∧ ¬ source.isConst) ∧
      values.Disturbs (ClassLayout.Written values field object.data moves source.data)
        machine.memory set.memory := by
  obtain ⟨haccepts, assign, moves, transfer, hassign, hselected, hmemory⟩ := setValue_ok h
  refine ⟨moves, ?_, ?_⟩
  · intro hmoves
    rw [hmoves] at hselected
    exact moveAllowed_of_selected hselected
  · rw [hmemory]
    exact ClassLayout.write_disturbs hfield hholds hslot haccepts.reference hassign hselected

theorem keeps_of_setValue (hfield : layout.fields[i]? = some field)
    (hholds : layout.Holds object.data machine.memory)
    (hslot : layout.Slot object.data machine.memory field.member.type source.data) {set : Machine}
    (h : (makeField field.member).setValue object source machine = (.ok (), set)) :
    layout.Holds object.data set.memory ∧
      layout.SameReferents object.data machine.memory set.memory ∧
      ∀ j other, layout.fields[j]? = some other → i ≠ j →
        other.SameValue values object.data machine.memory set.memory := by
  obtain ⟨haccepts, assign, moves, transfer, hassign, hselected, hmemory⟩ := setValue_ok h
  have href := haccepts.reference
  have hdisturbs := ClassLayout.write_disturbs (List.mem_of_getElem? hfield) hholds hslot href
    hassign hselected
  have hsame := ClassLayout.write_sameReferents hfield hholds hslot href hdisturbs
  rw [hmemory]
  exact ⟨hholds.of_sameReferents hdisturbs.sound hsame, hsame, fun j other hother hne =>
    ClassLayout.write_sameValue hfield hholds hslot href hassign hselected hother hne⟩

theorem yields_setValue (hfield : layout.fields[i]? = some field)
    (hholds : layout.Holds object.data machine.memory)
    (hslot : layout.Slot object.data machine.memory field.member.type source.data)
    (hout : layout.Slot object.data machine.memory field.member.type out.data)
    (hreadable : field.member.Readable object out) {set : Machine}
    (h : (makeField field.member).setValue object source machine = (.ok (), set)) :
    yields values field.member object out set =
        some (values.read field.member.type machine.memory source.data) ↔
      field.Fits source.data machine.memory := by
  have hmem := List.mem_of_getElem? hfield
  obtain ⟨hholds', hsame, _⟩ := keeps_of_setValue hfield hholds hslot h
  obtain ⟨haccepts, assign, moves, transfer, hassign, hselected, hmemory⟩ := setValue_ok h
  have href := haccepts.reference
  cases field with
  | object member =>
    refine iff_of_true ?_ trivial
    rw [LayoutField.member, yields_object hmem hholds' (hout.of_sameReferents hsame) hreadable,
      show member.location object.data set.memory = member.storage object.data from if_pos href,
      hmemory]
    congr 1
    exact write_object hmem hholds hslot href hassign hselected
  | bitField field =>
    rw [LayoutField.member, yields_bitField hreadable, Option.some.injEq]
    change values.read field.type _ out.data = values.read field.type machine.memory source.data ↔ _
    rw [bitField_read_iff hmem, hmemory, ClassLayout.transfer_eq_put hassign hselected,
      LayoutField.member, put_bits hmem]
    exact field.integral.extend_truncate_iff field.bytes_pos field.bitSize_pos _

theorem sameValue_writeBack (hfield : layout.fields[i]? = some field)
    (hholds : layout.Holds object.data machine.memory)
    (hout : layout.Slot object.data machine.memory field.member.type out.data) {got set : Machine}
    (hget : (makeField field.member).getValue object out machine = (.ok (), got))
    (hset : (makeField field.member).setValue object out got = (.ok (), set)) :
    field.SameValue values object.data machine.memory set.memory := by
  have hmem := List.mem_of_getElem? hfield
  have hkeeps := ClassLayout.read_keeps hholds hout (disturbs_of_getValue hmem hholds hout hget)
  obtain ⟨construct, hconstruct, hgot⟩ := getValue_ok hget
  obtain ⟨haccepts, assign, moves, transfer, hassign, hselected, hmemory⟩ := setValue_ok hset
  have href := haccepts.reference
  cases field with
  | object member =>
    have hlocation : ∀ memory, member.location object.data memory = member.storage object.data :=
      fun _ => if_pos href
    have hready := ClassLayout.ready_of_slot hholds hmem hout
    have hread := ((layout.carries member hmem).construct construct hconstruct).value _ _ _ hready
    have hwrite := write_object hmem hkeeps.holds (hout.of_sameReferents hkeeps.referents) href
      hassign hselected
    rw [hlocation] at hread
    simp only [LayoutField.member, hlocation] at hgot hmemory
    rw [LayoutField.SameValue, hlocation, hlocation, hmemory, hwrite, hgot, hread]
  | bitField field =>
    cases hconstruct
    rw [LayoutField.SameValue, hmemory, ClassLayout.transfer_eq_put hassign hselected,
      LayoutField.member, put_bits hmem, hgot, BitFieldDeclaration.construct,
      IntegralType.load_store _ (ClassLayout.integral_bytes_lt hmem),
      IntegralType.truncate_extend]
    rfl

omit [DecidableEq T] in
theorem LayoutField.SameValue.trans {field : LayoutField T} {memory'' : Memory}
    (h : field.SameValue values obj memory memory')
    (h' : field.SameValue values obj memory' memory'') :
    field.SameValue values obj memory memory'' := by
  cases field with
  | object member => exact Eq.trans h' h
  | bitField field => exact Eq.trans h' h

section
variable (hfield : layout.fields[i]? = some field)
  (hgetter : field.member.copyConstruct.isSome)
  (hholds : layout.Holds object.data machine.memory)
  (hsource : layout.Slot object.data machine.memory field.member.type source.data)
  (hout : layout.Slot object.data machine.memory field.member.type out.data)
  (houtType : out.type = some field.member.type) (houtConst : ¬ out.isConst)
include hfield hgetter hholds hsource hout houtType houtConst

/-- The laws that no value breaks, and the one that takes a value in range. -/
theorem lensLaws_of_fits
    (hfits : field.member.AcceptsWrite object source → field.Fits source.data machine.memory) :
    LensLaws layout i field object source out machine where
  putGet set hset := by
    have haccepts := (setValue_ok hset).1
    exact (yields_setValue hfield hholds hsource hout
      ⟨haccepts.1, hgetter, houtConst, houtType⟩ hset).mpr (hfits haccepts)
  others set hset j other slot hother hne hslot := by
    obtain ⟨hholds', hsame, hvalues⟩ := keeps_of_setValue hfield hholds hsource hset
    exact yields_eq_of_sameValue (List.mem_of_getElem? hother) hholds hholds' hslot
      (hslot.of_sameReferents hsame) (hvalues j other hother hne)
  elsewhere set hset beside object' slot other hbeside hother hslot := by
    obtain ⟨_, _, hdisturbs⟩ :=
      disturbs_of_setValue (List.mem_of_getElem? hfield) hholds hsource hset
    exact hbeside.holds.yields_eq hslot hother (hbeside.keeps hdisturbs)
  source set hset hkept := by
    have hmem := List.mem_of_getElem? hfield
    obtain ⟨moves, hmoves, hdisturbs⟩ := disturbs_of_setValue hmem hholds hsource hset
    cases moves with
    | true => exact absurd (hmoves rfl) hkept
    | false => exact ClassLayout.write_source hmem hsource hdisturbs
  writeBack got set hget hset other slot hother hslot := by
    have hmem := List.mem_of_getElem? hfield
    have hkeeps := ClassLayout.read_keeps hholds hout (disturbs_of_getValue hmem hholds hout hget)
    obtain ⟨hholds'', hsame', hvalues'⟩ :=
      keeps_of_setValue hfield hkeeps.holds (hout.of_sameReferents hkeeps.referents) hset
    have hslot' := (hslot.of_sameReferents hkeeps.referents).of_sameReferents hsame'
    apply yields_eq_of_sameValue hother hholds hholds'' hslot hslot'
    obtain ⟨j, hj⟩ := List.mem_iff_getElem?.mp hother
    by_cases hij : i = j
    · rw [← hij, hfield] at hj
      cases hj
      exact sameValue_writeBack hfield hholds hout hget hset
    · exact (hkeeps.fields other hother).trans (hvalues' j other hj hij)
  writeBackElsewhere got set hget hset beside object' slot other hbeside hother hslot := by
    have hmem := List.mem_of_getElem? hfield
    have hdisturbs := disturbs_of_getValue hmem hholds hout hget
    have hkeeps := ClassLayout.read_keeps hholds hout hdisturbs
    have hkeeps' := ClassLayout.read_keeps hbeside.holds hbeside.slot hdisturbs
    obtain ⟨_, _, hdisturbs'⟩ :=
      disturbs_of_setValue hmem hkeeps.holds (hout.of_sameReferents hkeeps.referents) hset
    have hkeeps'' := (hbeside.of_keeps hkeeps').keeps hdisturbs'
    rw [← hbeside.holds.yields_eq hslot hother hkeeps']
    exact hkeeps'.holds.yields_eq (hslot.of_sameReferents hkeeps'.referents) hother hkeeps''

theorem fits_of_lensLaws (h : LensLaws layout i field object source out machine)
    (haccepts : field.member.AcceptsWrite object source) :
    field.Fits source.data machine.memory := by
  rcases setValue_cases field.member object source machine with ⟨hother, _⟩ | ⟨_, hwrite⟩
  · exact absurd haccepts hother
  obtain ⟨_, _, _, _, _, hok, _⟩ := hwrite
  have hset : (makeField field.member).setValue object source machine =
      (.ok (), ((makeField field.member).setValue object source machine).2) := Prod.ext hok rfl
  exact (yields_setValue hfield hholds hsource hout ⟨haccepts.1, hgetter, houtConst, houtType⟩
    hset).mp (h.putGet _ hset)

/-- A field obeys the lens laws exactly when the write is refused or the value is in the
range of the field, which every value is unless the field is a bit-field. -/
theorem lensLaws_iff : LensLaws layout i field object source out machine ↔
    (field.member.AcceptsWrite object source → field.Fits source.data machine.memory) := by
  constructor
  · exact fits_of_lensLaws hfield hgetter hholds hsource hout houtType houtConst
  · exact lensLaws_of_fits hfield hgetter hholds hsource hout houtType houtConst

end

end

/-- `struct Packet { unsigned Version : 4; unsigned Flags : 4; int Payload; };` -/
inductive PacketType where
  | unsigned
  | int
  | packet
  deriving DecidableEq

def PacketType.size : PacketType → Nat
  | unsigned => 4
  | int => 4
  | packet => 8

def PacketType.integral : PacketType → Option IntegralType
  | unsigned => some (.unsigned 4)
  | int => some (.signed 4)
  | packet => none

theorem PacketType.size_lt (type : PacketType) : type.size < 2 ^ 64 := by
  cases type <;> simp [size]

def readPacket (type : PacketType) (memory : Memory) (address : Address) : Nat :=
  (readBits memory address 0 (8 * type.size)).toNat

theorem readPacket_eq_iff (type : PacketType) (integral : IntegralType)
    (h : type.integral = some integral) (memory : Memory) (address : Address) (memory' : Memory)
    (address' : Address) :
    readPacket type memory address = readPacket type memory' address' ↔
      integral.load memory address = integral.load memory' address' := by
  rw [readPacket, readPacket, BitVec.toNat_inj]
  cases type <;> cases h <;> rfl

theorem readPacket_congr (type : PacketType) (address : Address) (memory memory' : Memory)
    (h : ∀ byte, Covers address type.size byte → memory' byte = memory byte) :
    readPacket type memory' address = readPacket type memory address := by
  have hsize := type.size_lt
  rw [readPacket, readPacket]
  congr 1
  apply readBits_congr
  intro k _ hk
  apply bitAt_congr
  apply h
  rw [Covers, toNat_add_ofNat_sub address (by omega)]
  omega

theorem PacketType.size_eq_bytes (type : PacketType) (integral : IntegralType)
    (h : type.integral = some integral) : type.size = integral.bytes := by
  cases type <;> cases h <;> rfl

def packetValues : Values PacketType where
  Value := Nat
  read := readPacket
  size := PacketType.size
  size_lt := PacketType.size_lt
  integral := PacketType.integral
  integral_size := PacketType.size_eq_bytes
  integral_read := readPacket_eq_iff
  placed _ := True
  plain _ := True
  sound _ := True
  sound_plain _ _ _ _ := trivial
  read_plain type address memory memory' h :=
    readPacket_congr type address memory memory' fun byte hbyte => h byte (Or.inr hbyte)

def copyInt : Transfer := fun target source memory =>
  writeBits memory target 0 (readBits memory source 0 32)

theorem carries_copyInt (moves : Bool) : packetValues.Carries .int moves copyInt where
  value target source memory _ := by
    change (readBits (copyInt target source memory) target 0 32).toNat =
      (readBits memory source 0 32).toNat
    rw [copyInt, readBits_writeBits _ (by omega)]
  disturbs target source memory _ := by
    apply packetValues.disturbs_plain trivial (fun _ _ => trivial)
    intro byte hbyte
    have hout : ¬ (byte - target).toNat < 4 := fun h => hbyte (Or.inl h)
    exact writeBits_outside _ (by omega)

def version : BitFieldDeclaration PacketType where
  identifier := "Version"
  type := .unsigned
  declaringType := .packet
  byteOffset := 0
  bitOffset := 0
  bitSize := 4
  integral := .unsigned 4
  bitSize_pos := by omega
  bytes_pos := by decide

def flags : BitFieldDeclaration PacketType :=
  { version with identifier := "Flags", bitOffset := 4 }

def payload : MemberDeclaration PacketType where
  identifier := "Payload"
  type := .int
  declaringType := .packet
  byteOffset := 4
  copyConstruct := some copyInt
  assign := some (.copyAndMove copyInt copyInt)

def packetLayout : ClassLayout packetValues where
  type := .packet
  fields := [.bitField version, .bitField flags, .object payload]
  declaringType field hfield := by
    simp only [List.mem_cons, List.not_mem_nil, or_false] at hfield
    rcases hfield with rfl | rfl | rfl <;> rfl
  inside field hfield := by
    simp only [List.mem_cons, List.not_mem_nil, or_false] at hfield
    rcases hfield with rfl | rfl | rfl <;> decide
  disjoint i j field other hfield hother hne := by
    have hi := (List.getElem?_eq_some_iff.mp hfield).1
    have hj := (List.getElem?_eq_some_iff.mp hother).1
    simp only [List.length_cons, List.length_nil] at hi hj
    interval_cases i <;> interval_cases j <;> cases hfield <;> cases hother <;>
      first | exact absurd rfl hne | decide
  object_isBitField member hmember := by
    simp only [List.mem_cons, List.not_mem_nil, or_false, reduceCtorEq, false_or,
      LayoutField.object.injEq] at hmember
    rw [hmember]
    rfl
  carries member hmember := by
    simp only [List.mem_cons, List.not_mem_nil, or_false, reduceCtorEq, false_or,
      LayoutField.object.injEq] at hmember
    rw [hmember]
    constructor
    · intro construct hconstruct
      cases hconstruct
      exact carries_copyInt false
    · intro assign hassign
      cases hassign
      exact ⟨carries_copyInt false, carries_copyInt true⟩
  integral field hfield := by
    simp only [List.mem_cons, List.not_mem_nil, or_false, reduceCtorEq,
      LayoutField.bitField.injEq] at hfield
    rcases hfield with rfl | rfl <;> rfl

theorem packet_reference {member : MemberDeclaration PacketType}
    (hmember : .object member ∈ packetLayout.fields) : member.reference = .none := by
  simp only [packetLayout, List.mem_cons, List.not_mem_nil, or_false, reduceCtorEq, false_or,
    LayoutField.object.injEq] at hmember
  rw [hmember]
  rfl

theorem packet_holds (obj : Address) (memory : Memory) : packetLayout.Holds obj memory where
  sound := trivial
  placed _ _ := trivial
  plain _ _ _ _ := trivial
  referents _ hmember href := absurd (packet_reference hmember) href

theorem packet_slot (obj distance : Address) (memory : Memory) (hfrom : 8 ≤ distance.toNat)
    (hto : distance.toNat < 2 ^ 32) :
    packetLayout.Slot obj memory .unsigned (obj + distance) where
  placed _ _ := trivial
  plain _ _ _ _ := trivial
  apart byte hbyte hbyte' := by
    have hdistance := toNat_sub_add obj byte distance
    change (byte - obj).toNat < 8 at hbyte
    change (byte - (obj + distance)).toNat < 4 at hbyte'
    split at hdistance <;> omega
  referents _ hmember href := absurd (packet_reference hmember) href

/-- An `unsigned` that holds the value, 64 bytes after a packet. -/
def packetMemory (value : BitVec 32) : Memory :=
  IntegralType.store (.unsigned 4) (64 + 64) value fun _ => 0

theorem packetMemory_load (value : BitVec 32) :
    IntegralType.load (.unsigned 4) (packetMemory value) (64 + 64) = value :=
  IntegralType.load_store (.unsigned 4) (by decide) (64 + 64) value _

/-- Setting `Version` to 16 succeeds and stores 0. -/
theorem version_drops_high_bit :
    ¬ LensLaws packetLayout 0 (.bitField version) ⟨some .packet, 64, false, false⟩
      ⟨some .unsigned, 64 + 64, true, false⟩ ⟨some .unsigned, 64 + 128, false, false⟩
      ⟨packetMemory 16, []⟩ := by
  intro hlaws
  have haccepts : version.member.AcceptsWrite (⟨some .packet, 64, false, false⟩ : TypedRef _)
      ⟨some .unsigned, 64 + 64, true, false⟩ :=
    ⟨⟨by decide, rfl⟩, (fun h => nomatch h), rfl, rfl, rfl, _, rfl, trivial⟩
  have hfits := fits_of_lensLaws rfl rfl (packet_holds _ _)
    (packet_slot 64 64 _ (by decide) (by decide)) (packet_slot 64 128 _ (by decide) (by decide))
    rfl Bool.false_ne_true hlaws haccepts
  change BitVec.toNat (IntegralType.load (.unsigned 4) (packetMemory 16) (64 + 64)) < 2 ^ 4 at hfits
  rw [packetMemory_load] at hfits
  exact absurd hfits (by decide)

theorem lensLaws_iff_version :
    LensLaws packetLayout 0 (.bitField version) ⟨some .packet, 64, false, false⟩
      ⟨some .unsigned, 64 + 64, true, false⟩ ⟨some .unsigned, 64 + 128, false, false⟩
      ⟨packetMemory 9, []⟩ := by
  apply (lensLaws_iff rfl rfl (packet_holds _ _)
    (packet_slot 64 64 _ (by decide) (by decide)) (packet_slot 64 128 _ (by decide) (by decide))
    rfl Bool.false_ne_true).mpr
  intro _
  change BitVec.toNat (IntegralType.load (.unsigned 4) (packetMemory 9) (64 + 64)) < 2 ^ 4
  rw [packetMemory_load]
  decide

end PlaygroundEngine.Reflection
