import PlaygroundEngine.Reflection.ErasedOperations
import PlaygroundEngine.Reflection.FieldLenses

/-!
# What one access of a field disturbs

A read disturbs the caller's object only; a write disturbs the field, and the source
when it is moved from. Neighbouring bit-fields share bytes but no bits.
-/

namespace PlaygroundEngine.Reflection

open BitStore
set_option autoImplicit false

variable {T : Type}

section
variable [DecidableEq T] (member : MemberDeclaration T)

def MemberDeclaration.Readable (object out : TypedRef T) : Prop :=
  member.Admits object ∧ member.copyConstruct.isSome ∧ ¬ out.isConst ∧ out.type = some member.type

def MemberDeclaration.AcceptsWrite (object source : TypedRef T) : Prop :=
  member.Admits object ∧ (object.isConst → member.isMutable) ∧ member.isConst = false ∧
    member.reference = .none ∧ Takes member.assign member.type source

omit [DecidableEq T] in
theorem MemberDeclaration.AcceptsWrite.reference {member : MemberDeclaration T}
    {object source : TypedRef T} (h : member.AcceptsWrite object source) :
    member.reference = .none :=
  h.2.2.2.1

/-- The form of the assignment that a source selects, and whether it moves. -/
def Assignability.selected (assign : Assignability) (source : TypedRef T) :
    Option (Bool × Transfer) :=
  match assign with
  | .copyAndMove copy move =>
    if source.moveAllowed then some (true, move) else some (false, copy)
  | .moveOnly move => if source.moveAllowed then some (true, move) else none
  | .copyOnly copy => some (false, copy)

omit [DecidableEq T] in
theorem transfer_eq_selected (assign : Assignability) (target : Address) (source : TypedRef T) :
    assign.transfer target source = (assign.selected source).map fun form =>
      (if form.1 then .moveOut source.data else .read source.data,
        form.2 target source.data) := by
  cases assign with
  | copyAndMove copy move =>
    simp only [Assignability.transfer, Assignability.selected]
    split <;> rfl
  | moveOnly move =>
    simp only [Assignability.transfer, Assignability.selected]
    split <;> rfl
  | copyOnly copy => rfl

omit [DecidableEq T] in
theorem moveAllowed_of_selected {assign : Assignability} {source : TypedRef T}
    {transfer : Transfer} (hselected : assign.selected source = some (true, transfer)) :
    source.movable ∧ ¬ source.isConst := by
  have hallowed : source.moveAllowed := by
    cases assign with
    | copyAndMove copy move =>
      simp only [Assignability.selected] at hselected
      split at hselected
      · assumption
      · cases hselected
    | moveOnly move =>
      simp only [Assignability.selected] at hselected
      split at hselected
      · assumption
      · cases hselected
    | copyOnly copy => cases hselected
  simpa [TypedRef.moveAllowed] using hallowed

omit [DecidableEq T] in
theorem selected_carries {values : Values T} {type : T} {assign : Assignability}
    (hcarries : values.CarriesAssign type assign) {source : TypedRef T} {moves : Bool}
    {transfer : Transfer} (hselected : assign.selected source = some (moves, transfer)) :
    values.Carries type moves transfer := by
  cases assign with
  | copyAndMove copy move =>
    simp only [Assignability.selected] at hselected
    split at hselected
    · cases hselected
      exact hcarries.2
    · cases hselected
      exact hcarries.1
  | moveOnly move =>
    simp only [Assignability.selected] at hselected
    split at hselected
    · cases hselected
      exact hcarries
    · cases hselected
  | copyOnly copy =>
    cases hselected
    exact hcarries

theorem getValue_cases (object out : TypedRef T) (machine : Machine) :
    (¬ member.Readable object out ∧
      Refused ((makeField member).getValue object out machine) machine) ∨
    (member.Readable object out ∧ ∃ construct, member.copyConstruct = some construct ∧
      ((makeField member).getValue object out machine).1 = .ok () ∧
      ((makeField member).getValue object out machine).2.memory =
        construct out.data (member.location object.data machine.memory) machine.memory) := by
  rcases getValue_outcome member object out machine with hrefused | ⟨hreadable, _⟩
  · exact Or.inl hrefused
  obtain ⟨hadmits, hsome, hconst, htype⟩ := hreadable
  obtain ⟨construct, hconstruct⟩ := Option.isSome_iff_exists.mp hsome
  rcases checkDeclaringInstance_cases member object with ⟨hother, _⟩ | ⟨_, hchecked⟩
  · exact absurd hadmits hother
  have hthunk : (makeField member).getValue object out machine =
      fieldGetThunk member construct object.data out machine := by
    simp only [FieldInfo.getValue, hchecked, makeField_getter, makeFieldGetter, hconstruct,
      Option.map_some, hconst, Bool.false_eq_true, if_false]
  refine Or.inr ⟨⟨hadmits, hsome, hconst, htype⟩, construct, hconstruct, ?_⟩
  rw [hthunk]
  simp only [fieldGetThunk, htype, ne_eq, not_true_eq_false, if_false, Machine.perform_memory,
    true_and]

theorem setValue_cases (object source : TypedRef T) (machine : Machine) :
    (¬ member.AcceptsWrite object source ∧
      Refused ((makeField member).setValue object source machine) machine) ∨
    (member.AcceptsWrite object source ∧ ∃ assign moves transfer,
      member.assign = some assign ∧ assign.selected source = some (moves, transfer) ∧
      ((makeField member).setValue object source machine).1 = .ok () ∧
      ((makeField member).setValue object source machine).2.memory =
        transfer (member.storage object.data) source.data machine.memory) := by
  rcases setValue_outcome member object source machine with hrefused | ⟨haccepts, _⟩
  · exact Or.inl hrefused
  refine Or.inr ⟨haccepts, ?_⟩
  obtain ⟨hadmits, hmutable, hconst, href, htype, assign, hassign, htakes⟩ := haccepts
  have hfixed : ¬ (object.isConst && !(makeFieldTraits member).writableThroughConstObject) := by
    intro h
    rw [Bool.and_eq_true, Bool.not_eq_true', ← Bool.not_eq_true,
      writableThroughConstObject_iff] at h
    exact h.2 (Or.inl (hmutable h.1))
  rcases checkDeclaringInstance_cases member object with ⟨hother, _⟩ | ⟨_, hchecked⟩
  · exact absurd hadmits hother
  have hthunk : (makeField member).setValue object source machine =
      fieldSetThunk member assign object.data source machine := by
    simp only [FieldInfo.setValue, hchecked, makeField_traits, makeField_setter, hfixed, if_false,
      makeFieldSetter, hconst, href, bne_self_eq_false, Bool.or_false, Bool.false_eq_true,
      hassign, Option.map_some]
  rcases transfer_cases assign (member.storage object.data) source with ⟨hrefuses, _⟩ | ⟨_, h⟩
  · exact absurd htakes hrefuses
  obtain ⟨access, effect, htransfer, _⟩ := h
  rw [transfer_eq_selected] at htransfer
  obtain ⟨⟨moves, transfer⟩, hselected, _⟩ := Option.map_eq_some_iff.mp htransfer
  refine ⟨assign, moves, transfer, hassign, hselected, ?_⟩
  rw [hthunk]
  simp only [fieldSetThunk, htype, ne_eq, not_true_eq_false, if_false, transfer_eq_selected,
    hselected, Option.map_some, Machine.perform_memory, true_and]

end

variable {values : Values T} {layout : ClassLayout values} {obj : Address}
  {memory memory' : Memory}

theorem Values.Disturbs.mono {region region' : Address → Prop}
    (h : values.Disturbs region memory memory') (hsub : ∀ byte, region byte → region' byte) :
    values.Disturbs region' memory memory' where
  sound := h.sound
  bytes byte hplaced hbyte := h.bytes byte hplaced fun hregion => hbyte (hsub byte hregion)
  objects type address hplaced hapart :=
    h.objects type address hplaced fun byte hregion => hapart byte (hsub byte hregion)

namespace ClassLayout

/-- The object is still there, and its fields hold what they held. -/
structure Keeps (layout : ClassLayout values) (obj : Address) (memory memory' : Memory) :
    Prop where
  holds : layout.Holds obj memory'
  referents : layout.SameReferents obj memory memory'
  fields : ∀ field ∈ layout.fields, field.SameValue values obj memory memory'

theorem read_disturbs {field : LayoutField T} (hfield : field ∈ layout.fields)
    (hholds : layout.Holds obj memory) {out : Address}
    (hslot : layout.Slot obj memory field.member.type out) {construct : Transfer}
    (hconstruct : field.member.copyConstruct = some construct) :
    values.Disturbs (Covers out (values.size field.member.type)) memory
      (construct out (field.member.location obj memory) memory) := by
  cases field with
  | object member =>
    have hcarries := (layout.carries member hfield).construct construct hconstruct
    apply (hcarries.disturbs _ _ _ (ready_of_slot hholds hfield hslot)).mono
    intro byte hbyte
    rcases hbyte with hbyte | ⟨hmoves, _⟩
    · exact hbyte
    · cases hmoves
  | bitField field =>
    have hintegral := layout.integral field hfield
    cases hconstruct
    apply values.disturbs_plain hholds.sound (hslot.plain _ hintegral)
    intro byte hbyte
    apply IntegralType.store_outside
    rw [← values.integral_size _ _ hintegral]
    exact Nat.le_of_not_lt hbyte

theorem read_keeps {type : T} {out : Address} (hholds : layout.Holds obj memory)
    (hslot : layout.Slot obj memory type out)
    (hdisturbs : values.Disturbs (Covers out (values.size type)) memory memory') :
    layout.Keeps obj memory memory' := by
  have hregion : ∀ field ∈ layout.fields, ∀ byte, Covers out (values.size type) byte →
      ¬ field.Touches values obj byte := by
    intro field hfield byte hbyte htouches
    exact hslot.apart byte (covers_of_touches hfield htouches) hbyte
  have hreferents : layout.SameReferents obj memory memory' := fun member hmember =>
    location_eq hholds hdisturbs hmember fun _ => hregion _ hmember
  refine ⟨hholds.of_sameReferents hdisturbs.sound hreferents, hreferents, ?_⟩
  intro field hfield
  apply sameValue_of_disturbs hholds hdisturbs hfield (hregion field hfield)
  intro member hmember href byte hbyte hcovers
  exact hslot.referents member hmember href byte hcovers hbyte

/-- The bytes of the field, and those of a source that is moved from. -/
def Written (values : Values T) (field : LayoutField T) (obj : Address) (moves : Bool)
    (source byte : Address) : Prop :=
  field.Touches values obj byte ∨ moves ∧ Covers source (values.size field.member.type) byte

/-- Both forms of a bit-field's assignment store the truncated value. -/
theorem transfer_eq_put {field : BitFieldDeclaration T} {assign : Assignability}
    (hassign : field.member.assign = some assign) {source : TypedRef T} {moves : Bool}
    {transfer : Transfer} (hselected : assign.selected source = some (moves, transfer)) :
    transfer = field.put := by
  change (if field.isConst then none else some (.copyAndMove field.put field.put)) =
    some assign at hassign
  split at hassign
  · cases hassign
  · cases hassign
    simp only [Assignability.selected] at hselected
    split at hselected
    · cases hselected
      rfl
    · cases hselected
      rfl

theorem put_memory {field : BitFieldDeclaration T} (hfield : .bitField field ∈ layout.fields)
    (source : Address) :
    field.put (field.member.storage obj) source memory =
      writeBits memory obj (LayoutField.bitField field).first
        (field.integral.truncate field.bitSize (field.integral.load memory source)) := by
  have hinside := inside_le hfield
  have hvalue := field.integral.valueBits_le field.bitSize_pos
  simp only [LayoutField.first, LayoutField.width] at hinside
  exact writeBits_add field.byteOffset _ (by omega)

theorem write_disturbs {field : LayoutField T} (hfield : field ∈ layout.fields)
    (hholds : layout.Holds obj memory) {source : TypedRef T}
    (hslot : layout.Slot obj memory field.member.type source.data)
    (href : field.member.reference = .none) {assign : Assignability}
    (hassign : field.member.assign = some assign) {moves : Bool} {transfer : Transfer}
    (hselected : assign.selected source = some (moves, transfer)) :
    values.Disturbs (Written values field obj moves source.data) memory
      (transfer (field.member.storage obj) source.data memory) := by
  cases field with
  | object member =>
    have hcarries := selected_carries ((layout.carries member hfield).assign assign hassign)
      hselected
    apply (hcarries.disturbs _ _ _ (ready_of_source hholds hfield hslot href)).mono
    intro byte hbyte
    rcases hbyte with hbyte | hbyte
    · exact Or.inl ((LayoutField.touches_iff_covers href (inside_le hfield)).mpr hbyte)
    · exact Or.inr hbyte
  | bitField field =>
    have htransfer := transfer_eq_put hassign hselected
    have hvalue := field.integral.valueBits_le field.bitSize_pos
    have hbytes : ∀ byte, ¬ (LayoutField.bitField field).Touches values obj byte →
        field.put (field.member.storage obj) source.data memory byte = memory byte := by
      intro byte hbyte
      rw [put_memory hfield]
      apply writeBits_outside
      simp only [LayoutField.Touches, LayoutField.width] at hbyte
      omega
    rw [htransfer]
    exact (values.disturbs_plain hholds.sound (hholds.plain field hfield) hbytes).mono
      fun byte hbyte => Or.inl hbyte

theorem write_source {field : LayoutField T} (hfield : field ∈ layout.fields) {source : Address}
    (hslot : layout.Slot obj memory field.member.type source)
    (hdisturbs : values.Disturbs (Written values field obj false source) memory memory') :
    values.read field.member.type memory' source =
      values.read field.member.type memory source := by
  apply hdisturbs.objects _ _ hslot.placed
  intro byte hbyte
  rcases hbyte with hbyte | ⟨hmoves, _⟩
  · exact hslot.apart byte (covers_of_touches hfield hbyte)
  · cases hmoves

section
variable {i : Nat} {field : LayoutField T} (hfield : layout.fields[i]? = some field)
include hfield

/-- Two fields share a byte only if both are bit-fields. -/
theorem not_touches_other {j : Nat} {other : LayoutField T}
    (hother : layout.fields[j]? = some other) (hne : i ≠ j)
    (hobject : (∃ member, field = .object member) ∨ ∃ member, other = .object member)
    {byte : Address} (htouches : field.Touches values obj byte) :
    ¬ other.Touches values obj byte := by
  have hdisjoint := layout.disjoint i j field other hfield hother hne
  rcases hobject with ⟨member, rfl⟩ | ⟨member, rfl⟩
  · exact LayoutField.not_touches_of_disjoint hdisjoint htouches
  · intro htouches'
    exact LayoutField.not_touches_of_disjoint hdisjoint.symm htouches' htouches

theorem write_sameReferents {moves : Bool} {source : Address} (hholds : layout.Holds obj memory)
    (hslot : layout.Slot obj memory field.member.type source)
    (href : field.member.reference = .none)
    (hdisturbs : values.Disturbs (Written values field obj moves source) memory memory') :
    layout.SameReferents obj memory memory' := by
  intro member hmember
  apply location_eq hholds hdisturbs hmember
  intro href' byte hbyte htouches
  obtain ⟨j, hother⟩ := List.mem_iff_getElem?.mp hmember
  rcases hbyte with hbyte | ⟨_, hbyte⟩
  · have hne : i ≠ j := by
      intro heq
      rw [heq, hother] at hfield
      cases hfield
      exact href' href
    exact not_touches_other hfield hother hne (Or.inr ⟨member, rfl⟩) hbyte htouches
  · exact hslot.apart byte (covers_of_touches hmember htouches) hbyte

theorem write_sameValue {source : TypedRef T} (hholds : layout.Holds obj memory)
    (hslot : layout.Slot obj memory field.member.type source.data)
    (href : field.member.reference = .none) {assign : Assignability}
    (hassign : field.member.assign = some assign) {moves : Bool} {transfer : Transfer}
    (hselected : assign.selected source = some (moves, transfer)) {j : Nat}
    {other : LayoutField T} (hother : layout.fields[j]? = some other) (hne : i ≠ j) :
    other.SameValue values obj memory
      (transfer (field.member.storage obj) source.data memory) := by
  have hmem := List.mem_of_getElem? hfield
  have hmem' := List.mem_of_getElem? hother
  have hdisturbs := write_disturbs hmem hholds hslot href hassign hselected
  by_cases hobject : (∃ member, field = .object member) ∨ ∃ member, other = .object member
  · apply sameValue_of_disturbs hholds hdisturbs hmem'
    · intro byte hbyte htouches
      rcases hbyte with hbyte | ⟨_, hbyte⟩
      · exact not_touches_other hfield hother hne hobject hbyte htouches
      · exact hslot.apart byte (covers_of_touches hmem' htouches) hbyte
    · intro member hmember href' byte hbyte hcovers
      rcases hbyte with hbyte | ⟨_, hbyte⟩
      · exact (hholds.referents member hmember href').2 byte (covers_of_touches hmem hbyte) hcovers
      · exact hslot.referents member hmember href' byte hcovers hbyte
  -- two bit-fields may share bytes, but no bits
  cases field with
  | object member => exact absurd (Or.inl ⟨member, rfl⟩) hobject
  | bitField field =>
    cases other with
    | object member => exact absurd (Or.inr ⟨member, rfl⟩) hobject
    | bitField other =>
      have hdisjoint := layout.disjoint i j _ _ hfield hother hne
      have hinside := inside_le hmem'
      have hvalue := field.integral.valueBits_le field.bitSize_pos
      have hvalue' := other.integral.valueBits_le other.bitSize_pos
      simp only [LayoutField.first, LayoutField.width] at hdisjoint hinside
      rw [LayoutField.SameValue, transfer_eq_put hassign hselected, LayoutField.member,
        put_memory hmem, MemberDeclaration.storage, readBits_add, readBits_add]
      apply readBits_writeBits_disjoint
      · simp only [LayoutField.first, BitFieldDeclaration.member]
        omega
      · simp only [BitFieldDeclaration.member]
        omega

end

/-- A base of the object, an object it is a base of, or one that has nothing to do with
it: its fields share no byte with the field, and the source is apart from it too. -/
structure Beside (field : LayoutField T) (obj source : Address) (beside : ClassLayout values)
    (obj' : Address) (memory : Memory) : Prop where
  holds : beside.Holds obj' memory
  fields : ∀ other ∈ beside.fields, ∀ byte, field.Touches values obj byte →
    ¬ other.Touches values obj' byte
  referents : ∀ member, .object member ∈ beside.fields → member.reference ≠ .none →
    ∀ byte, field.Touches values obj byte →
      ¬ Covers (member.location obj' memory) (values.size member.type) byte
  slot : beside.Slot obj' memory field.member.type source

namespace Beside

variable {field : LayoutField T} {source : Address} {beside : ClassLayout values}
  {obj' : Address}

theorem keeps (h : Beside field obj source beside obj' memory) {moves : Bool}
    (hdisturbs : values.Disturbs (Written values field obj moves source) memory memory') :
    beside.Keeps obj' memory memory' := by
  have hregion : ∀ other ∈ beside.fields, ∀ byte, Written values field obj moves source byte →
      ¬ other.Touches values obj' byte := by
    intro other hother byte hbyte htouches
    rcases hbyte with hbyte | ⟨_, hbyte⟩
    · exact h.fields other hother byte hbyte htouches
    · exact h.slot.apart byte (covers_of_touches hother htouches) hbyte
  have hreferents : beside.SameReferents obj' memory memory' := fun member hmember =>
    location_eq h.holds hdisturbs hmember fun _ => hregion _ hmember
  refine ⟨h.holds.of_sameReferents hdisturbs.sound hreferents, hreferents, ?_⟩
  intro other hother
  apply sameValue_of_disturbs h.holds hdisturbs hother (hregion other hother)
  intro member hmember href byte hbyte hcovers
  rcases hbyte with hbyte | ⟨_, hbyte⟩
  · exact h.referents member hmember href byte hbyte hcovers
  · exact h.slot.referents member hmember href byte hcovers hbyte

theorem of_keeps (h : Beside field obj source beside obj' memory)
    (hkeeps : beside.Keeps obj' memory memory') : Beside field obj source beside obj' memory' where
  holds := hkeeps.holds
  fields := h.fields
  referents member hmember href := by
    rw [hkeeps.referents member hmember]
    exact h.referents member hmember href
  slot := h.slot.of_sameReferents hkeeps.referents

end Beside

end ClassLayout

end PlaygroundEngine.Reflection
