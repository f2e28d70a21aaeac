import PlaygroundEngine.DebugUi.ImGui
import PlaygroundEngine.Library.TotalRuns
import PlaygroundEngine.Reflection.Rendering

/-!
# Drawing an object in the debug panel

`DrawObject` and the functions it recurses through. A pointer may lead back to an object that is
being drawn, so the recursion runs on fuel; rows that need more than any fuel are rows the program
never finishes.
-/

namespace PlaygroundEngine.DebugUi

open Library BitStore Reflection
set_option autoImplicit false

variable {T : Type}

inductive Primitive where
  | bool
  | float
  | double
  | int8
  | uint8
  | int16
  | uint16
  | int32
  | uint32
  | int64
  | uint64
  | longLong
  | unsignedLongLong
  deriving DecidableEq

def drawablePrimitives : List Primitive :=
  [.bool, .float, .double, .int8, .uint8, .int16, .uint16, .int32, .uint32, .int64, .uint64,
    .longLong, .unsignedLongLong]

inductive ImGuiDataType where
  | s8
  | u8
  | s16
  | u16
  | s32
  | u32
  | s64
  | u64
  | float
  | double

/-- How many bits a field of the type edits. -/
def ImGuiDataType.width : ImGuiDataType → Nat
  | s8 | u8 => 8
  | s16 | u16 => 16
  | s32 | u32 | float => 32
  | s64 | u64 | double => 64

def imGuiDataTypeOf : Primitive → ImGuiDataType
  | .float => .float
  | .double => .double
  | .int8 => .s8
  | .int16 => .s16
  | .int32 => .s32
  | .int64 | .longLong => .s64
  | .bool | .uint8 => .u8
  | .uint16 => .u16
  | .uint32 => .u32
  | .uint64 | .unsignedLongLong => .u64

/-- A type with a row of its own. -/
inductive DrawnType where
  | primitive (primitive : Primitive)
  | quaternion
  | vector3
  | vector4
  deriving DecidableEq

structure StringType (T : Type) extends StringDeclaration T where
  view : Memory → Address → String

inductive Facet (T : Type) where
  | enumeration (table : ReflectedEnum T)
  | string (type : StringType T)
  | sequence (type : SequenceDeclaration T)
  | other

namespace Facet

def asEnumeration : Facet T → Option (ReflectedEnum T)
  | enumeration table => some table
  | _ => none

def asString : Facet T → Option (StringType T)
  | string type => some type
  | _ => none

def asSequence : Facet T → Option (SequenceDeclaration T)
  | sequence type => some type
  | _ => none

end Facet

/-- The base is a direct base of the type. -/
def HasBase (graph : TypeGraph T) (type base : T) : Prop :=
  ∃ info ∈ (graph.info type).bases, info.typeInfo = base

structure PanelTypes (T : Type) extends TypeGraph T where
  facets : T → List (Facet T)
  typeMetaOf : DrawnType → T
  hasDrawDebug : MemberDeclaration T → Bool
  hasFacets_eq : ∀ t, (info t).hasFacets = !(facets t).isEmpty
  /-- The traits that render a type element by element give it the facet. -/
  stringify_sequence : ∀ t container, (info t).stringifyThunk = some (.sequence container) →
    ((facets t).findSome? Facet.asSequence).isSome
  /-- A class is complete before it is a base. -/
  bases_acyclic : ∀ t, ¬ Relation.TransGen (HasBase toTypeGraph) t t

/-- `Quaternion::ToEulerAngles` and back, for the object at an address; angles are in degrees. -/
structure EulerConversion where
  degreesOf : Memory → Address → List UInt32
  store : List UInt32 → Address → Memory → Memory

structure DebugPanel (T : Type) where
  types : PanelTypes T
  imgui : ImGui T
  euler : EulerConversion
  /-- The stack slot a rendering reads bit-fields into. -/
  slot : Address

structure EulerEditing where
  isEditing : Bool := false
  degrees : List UInt32 := [0, 0, 0]

structure PanelState (T : Type) where
  memory : Memory
  /-- ImGui's state storage, by id path. -/
  storage : List (WidgetId T) → EulerEditing := fun _ => {}
  events : List (Event T) := []

abbrev Draw (T A : Type) := StateT (PanelState T) Option A

def call (event : Event T) : Draw T Unit := fun state =>
  some ((), { state with events := state.events ++ [event] })

def answer {A : Type} (f : PanelState T → A) : Draw T A := fun state => some (f state, state)

def through {A : Type} (ref : TypedRef T) (operation : Machine → A × Machine) : Draw T A :=
  fun state =>
    let (result, machine) := operation ⟨state.memory, []⟩
    some (result,
      { state with
        memory := machine.memory
        events := state.events ++ [.accessed ref machine.accesses] })

def cString (text : String) : String := String.ofList (text.toList.takeWhile (· ≠ '\x00'))

def beginLeafRow (label : String) : Draw T Unit := do
  call .tableNextRow
  call .tableNextColumn
  call (.pushID (.label label))
  call (.textUnformatted label)
  call .tableNextColumn

def endLeafRow : Draw T Unit := call .popID

def drawDisabledText (label text : String) : Draw T Unit := do
  beginLeafRow label
  call (.beginDisabled true)
  call (.textUnformatted text)
  call .endDisabled
  endLeafRow

def storeScalar (width : Nat) (address : Address) (value : UInt64) (memory : Memory) : Memory :=
  writeBits memory address 0 (value.toBitVec.setWidth width)

def storeThrough (ref : TypedRef T) (width : Nat) (address : Address) (value : UInt64) :
    Draw T Unit :=
  through ref fun machine =>
    ((), machine.perform [.write address] (storeScalar width address value))

def whenEdited (value : Option UInt64) (store : UInt64 → Draw T Unit) : Draw T Unit :=
  match value with
  | none => pure ()
  | some value => store value

namespace DebugPanel

variable (panel : DebugPanel T)

/-- What a widget at this point of the calls is edited to. -/
def edited : Draw T (Option UInt64) := do
  let value ← answer fun state => panel.imgui.edit state.events
  call .widget
  return value

def checkbox (ref : TypedRef T) : Draw T Unit := do
  let value ← panel.edited
  let checked ← answer fun state => state.memory ref.data
  whenEdited value fun _ => storeThrough ref 8 ref.data (if checked = 0 then 1 else 0)

def dragScalar (dataType : ImGuiDataType) (ref : TypedRef T) : Draw T Unit := do
  let value ← panel.edited
  whenEdited value (storeThrough ref dataType.width ref.data)

def editPrimitive (primitive : Primitive) (ref : TypedRef T) : Draw T Unit :=
  if primitive = .bool then panel.checkbox ref
  else panel.dragScalar (imGuiDataTypeOf primitive) ref

section
variable [DecidableEq T]

def beginTreeRow (label : String) : Draw T Bool := do
  call .tableNextRow
  call .tableNextColumn
  let isOpen ← answer fun state =>
    decide (.label label :: idStack state.events ∈ panel.imgui.openRows)
  call (.treeNode label isOpen)
  call .tableNextColumn
  return isOpen

/-! ### Rows of their own -/

def tryDrawPrimitive (label : String) (ref : TypedRef T) (primitive : Primitive) : Draw T Bool :=
  if ref.type ≠ some (panel.types.typeMetaOf (.primitive primitive)) then return false
  else do
    beginLeafRow label
    call (.beginDisabled ref.isConst)
    panel.editPrimitive primitive ref
    call .endDisabled
    endLeafRow
    return true

structure ComponentRow where
  edited : Bool := false
  active : Bool := false
  /-- What each field stored. -/
  stored : List (Option UInt32) := []

def axisNames : List String := ["X", "Y", "Z", "W"]

/-- `store index` is the assignment to `components[index]`. -/
def drawComponent (store : Nat → UInt64 → Draw T Unit) (row : ComponentRow) (index : Nat) :
    Draw T ComponentRow := do
  call (.pushID (.index (Int32.ofNat index)))
  call (.textUnformatted (axisNames.getD index ""))
  let value ← panel.edited
  whenEdited value (store index)
  let active ← answer fun state => panel.imgui.isItemActive state.events
  call .popID
  return {
    edited := row.edited || value.isSome
    active := row.active || active
    stored := row.stored ++ [value.map UInt64.toUInt32] }

def drawComponentRow (store : Nat → UInt64 → Draw T Unit) (count : Nat) : Draw T ComponentRow :=
  (List.range count).foldlM (panel.drawComponent store) {}

def tryDrawVector (label : String) (ref : TypedRef T) (vector : DrawnType) (componentCount : Nat) :
    Draw T Bool :=
  if ref.type ≠ some (panel.types.typeMetaOf vector) then return false
  else do
    beginLeafRow label
    call (.beginDisabled ref.isConst)
    let _ ← panel.drawComponentRow (fun index =>
      storeThrough ref 32 (ref.data + 4 * UInt64.ofNat index)) componentCount
    call .endDisabled
    endLeafRow
    return true

def storeRotation (row : ComponentRow) (degrees : List UInt32) (ref : TypedRef T) :
    Draw T Unit :=
  if row.edited && !ref.isConst then
    through ref fun machine =>
      ((), machine.perform [.write ref.data] (panel.euler.store degrees ref.data))
  else pure ()

/-- The fields edit a copy of the angles; the object is written once, after them. -/
def tryDrawQuaternion (label : String) (ref : TypedRef T) : Draw T Bool :=
  if ref.type ≠ some (panel.types.typeMetaOf .quaternion) then return false
  else do
    beginLeafRow label
    let editingKey ← answer fun state => idStack state.events
    let editing ← answer fun state => state.storage editingKey
    let shown ← answer fun state =>
      if editing.isEditing then editing.degrees
      else panel.euler.degreesOf state.memory ref.data
    call (.beginDisabled ref.isConst)
    let row ← panel.drawComponentRow (fun _ _ => pure ()) 3
    call .endDisabled
    let degrees := List.zipWith (fun stored shown => stored.getD shown) row.stored shown
    modify fun state =>
      { state with
        storage := fun key =>
          if key = editingKey then
            { isEditing := row.active
              degrees := if row.active then degrees else editing.degrees }
          else state.storage key }
    panel.storeRotation row degrees ref
    endLeafRow
    return true

def tryDrawBuiltin (label : String) (ref : TypedRef T) : Draw T Bool := do
  let drawn ← drawablePrimitives.anyM (panel.tryDrawPrimitive label ref)
  if drawn then return true
  else
    let drawn ← panel.tryDrawQuaternion label ref
    if drawn then return true
    else
      let drawn ← panel.tryDrawVector label ref .vector3 3
      if drawn then return true
      else panel.tryDrawVector label ref .vector4 4

def stringEditCapacity : Nat := 256

def assignString (label : String) (string : StringType T) (ref : TypedRef T) (value : String) :
    Draw T Unit := do
  let assigned ← through ref (string.facet.assign ref value)
  match assigned with
  | .ok _ => pure ()
  | .error _ => call (.logError label)

def drawString (label : String) (string : StringType T) (ref : TypedRef T) : Draw T Unit := do
  let text ← answer fun state => string.view state.memory ref.data
  if string.assign.isNone || ref.isConst || stringEditCapacity ≤ text.utf8ByteSize then
    drawDisabledText label (cString ("\"" ++ text ++ "\""))
  else
    beginLeafRow label
    let buffer ← answer fun state => panel.imgui.inputText state.events text
    call .widget
    let committed ← answer fun state => panel.imgui.isItemDeactivatedAfterEdit state.events
    (if committed then assignString label string ref (cString buffer) else pure ())
    endLeafRow

def drawEnumerator (enumeration : ReflectedEnum T) (ref : TypedRef T) (current : UInt64)
    (enumerator : EnumeratorInfo UInt64) : Draw T Unit := do
  let isSelected ← answer fun state => panel.imgui.selectable state.events
  call (.selectable enumerator.identifier (enumerator.value == current))
  if isSelected then
    let _ ← through ref (enumeration.assign ref enumerator.value)
    pure ()

def drawEnumerators (enumeration : ReflectedEnum T) (ref : TypedRef T) (current : UInt64)
    (isOpen : Bool) : Draw T Unit :=
  if isOpen then do
    forM enumeration.table.enumerators (panel.drawEnumerator enumeration ref current)
    call .endCombo
  else pure ()

def drawEnumeration (label : String) (enumeration : ReflectedEnum T) (ref : TypedRef T) :
    Draw T Unit := do
  let current ← answer fun state => enumeration.value ref state.memory
  let preview :=
    ((enumeration.table.findByValue current).map (·.identifier)).getD (bytesOf "<unnamed>")
  beginLeafRow label
  call (.beginDisabled ref.isConst)
  let isOpen ← answer fun state => panel.imgui.beginCombo state.events
  call (.beginCombo preview isOpen)
  panel.drawEnumerators enumeration ref current isOpen
  call .endDisabled
  endLeafRow

section
variable (drawValue : String → TypedRef T → Draw T Unit)
  (drawAnnotatedFields : TypedRef T → Draw T Bool)

def drawElement (sequence : SequenceDeclaration T) (ref : TypedRef T) (index : Nat) :
    Draw T Unit := do
  call (.pushID (.index (Int32.ofNat index)))
  let element ← answer fun state =>
    sequence.facet.elementRef ref (UInt64.ofNat index) state.memory
  drawValue ("[" ++ toString index ++ "]") element
  call .popID

def drawSequence (label : String) (sequence : SequenceDeclaration T) (ref : TypedRef T) :
    Draw T Unit := do
  let size ← answer fun state => sequence.facet.size state.memory ref.data
  let isOpen ← panel.beginTreeRow label
  call (.textDisabled ("(" ++ toString size ++ ")"))
  if isOpen then
    forM (List.range size.toNat) (drawElement drawValue sequence ref)
    call .treePop

/-- A facet supersedes the structure of a base, which then is a row of its own. -/
def drawBaseContents (base : TypedRef T) (baseType : T) : Draw T Bool :=
  if (panel.types.facets baseType).isEmpty then drawAnnotatedFields base
  else do
    drawValue (panel.types.info baseType).displayName base
    return true

def drawBase (object : TypedRef T) (drewAnnotatedField : Bool) (base : BaseInfo T) :
    Draw T Bool := do
  call (.pushID (.type base.typeInfo))
  let drew ←
    panel.drawBaseContents drawValue drawAnnotatedFields (base.upcast object) base.typeInfo
  call .popID
  return drewAnnotatedField || drew

def drawFieldValue (label : String) : Except FieldError (TypedRef T) → Draw T Unit
  | .ok ref => drawValue label ref
  | .error error =>
    drawDisabledText label (if error = .notAddressable then "<not addressable>" else "<unreadable>")

def drawField (object : TypedRef T) (drewAnnotatedField : Bool) (member : MemberDeclaration T) :
    Draw T Bool :=
  if panel.types.hasDrawDebug member then do
    let ref ← through object fun machine => (makeField member).getRef object machine
    drawFieldValue drawValue member.identifier ref
    return true
  else return drewAnnotatedField

def drawFields (object : TypedRef T) : Draw T Unit := do
  let drewAnnotatedField ← drawAnnotatedFields object
  if !drewAnnotatedField then
    call .tableNextRow
    call .tableNextColumn
    call (.textDisabled "<no annotated fields>")

/-- A borrow without a tag never comes here. -/
def drawContents (ref : TypedRef T) : Draw T Unit :=
  match ref.type with
  | none => fun _ => none
  | some type =>
    if (panel.types.info type).traits.kind = .classType ∧ (panel.types.facets type).isEmpty then
      drawFields drawAnnotatedFields ref
    else drawValue "value" ref

def drawPointer (label : String) (ref : TypedRef T) : Draw T Unit := do
  let pointee ← answer fun state => ref.dereference panel.types.toTypeGraph state.memory
  match pointee with
  | .error error =>
    drawDisabledText label (if error = .nullPointer then "<null>" else "<unsupported>")
  | .ok pointee =>
    let isOpen ← panel.beginTreeRow label
    call (.addressDisabled pointee.data)
    if isOpen then
      panel.drawContents drawValue drawAnnotatedFields pointee
      call .treePop

def drawClass (label : String) (ref : TypedRef T) : Draw T Unit := do
  let isOpen ← panel.beginTreeRow label
  if isOpen then
    drawFields drawAnnotatedFields ref
    call .treePop

/-- `toString` renders an object that the type's own rendering comes to. -/
def drawText (toString : Memory → TypedRef T → Option String) (label : String) (type : T)
    (ref : TypedRef T) : Draw T Unit := do
  let text ← fun state =>
    if (panel.types.info type).canStringify then
      ((panel.types.info type).stringify (toString state.memory) state.memory ref.data).map
        fun text => (cString text, state)
    else some ("<unsupported>", state)
  drawDisabledText label text

/-- Facets before the structure, which a facet may supersede. -/
def drawByType (toString : Memory → TypedRef T → Option String) (label : String) (type : T)
    (ref : TypedRef T) : Draw T Unit :=
  match (panel.types.facets type).findSome? Facet.asEnumeration with
  | some enumeration => panel.drawEnumeration label enumeration ref
  | none =>
    match (panel.types.facets type).findSome? Facet.asString with
    | some string => panel.drawString label string ref
    | none =>
      match (panel.types.facets type).findSome? Facet.asSequence with
      | some sequence => panel.drawSequence drawValue label sequence ref
      | none =>
        match (panel.types.info type).traits.kind with
        | .pointer => panel.drawPointer drawValue drawAnnotatedFields label ref
        | .union => drawDisabledText label "<union>"
        | .classType => panel.drawClass drawAnnotatedFields label ref
        | _ => panel.drawText toString label type ref

end

mutual

def drawValue : Nat → String → TypedRef T → Draw T Unit
  | 0, _, _ => fun _ => none
  | fuel + 1, label, ref => do
    let drawn ← panel.tryDrawBuiltin label ref
    if drawn then pure ()
    else
      match ref.type with
      | none => fun _ => none
      | some type =>
        panel.drawByType (drawValue fuel) (drawAnnotatedFields fuel)
          (objectToString panel.types.toTypeGraph panel.slot fuel) label type ref

/-- Answers whether it drew anything. -/
def drawAnnotatedFields : Nat → TypedRef T → Draw T Bool
  | 0, _ => fun _ => none
  | fuel + 1, object =>
    match object.type with
    | none => fun _ => none
    | some type => do
      let drewAnnotatedField ← (panel.types.info type).bases.foldlM
        (panel.drawBase (drawValue fuel) (drawAnnotatedFields fuel) object) false
      (panel.types.info type).members.foldlM (panel.drawField (drawValue fuel) object)
        drewAnnotatedField

end

def drawObject (fuel : Nat) (object : TypedRef T) : Draw T Unit := do
  let isOpen ← answer fun state => panel.imgui.beginTable state.events
  call (.beginTable isOpen)
  if isOpen then
    call (.tableSetupColumn "Name")
    call (.tableSetupColumn "Value")
    panel.drawContents (panel.drawValue fuel) (panel.drawAnnotatedFields fuel) object
    call .endTable

end

end DebugPanel

end PlaygroundEngine.DebugUi
