import PlaygroundEngine.DebugUi.PanelDrawing

/-!
# What a whole drawing calls

A drawing returns, on any object and any memory, and what it returns does not depend on the fuel.
-/

namespace PlaygroundEngine.DebugUi

open Library Reflection
set_option autoImplicit false

variable {T : Type} [DecidableEq T] {panel : DebugPanel T}

section
variable {drawValue drawValue' : String → TypedRef T → Draw T Unit}
  {drawAnnotatedFields drawAnnotatedFields' : TypedRef T → Draw T Bool}
  (hvalue : ∀ label ref, Refines (drawValue label ref) (drawValue' label ref))
  (hfields : ∀ object, Refines (drawAnnotatedFields object) (drawAnnotatedFields' object))

include hvalue in
theorem drawElement_refines (sequence : SequenceDeclaration T) (ref : TypedRef T) (index : Nat) :
    Refines (DebugPanel.drawElement drawValue sequence ref index)
      (DebugPanel.drawElement drawValue' sequence ref index) := by
  unfold DebugPanel.drawElement
  refine (Refines.refl _).bind fun _ => (Refines.refl _).bind fun element => ?_
  exact (hvalue _ element).bind fun _ => Refines.refl _

include hvalue in
theorem drawSequence_refines (label : String) (sequence : SequenceDeclaration T)
    (ref : TypedRef T) :
    Refines (panel.drawSequence drawValue label sequence ref)
      (panel.drawSequence drawValue' label sequence ref) := by
  unfold DebugPanel.drawSequence
  refine (Refines.refl _).bind fun size => (Refines.refl _).bind fun isOpen => ?_
  refine (Refines.refl _).bind fun _ => ?_
  cases isOpen with
  | false => exact Refines.refl _
  | true =>
    refine (Refines.forM fun index => ?_).bind fun _ => Refines.refl _
    exact drawElement_refines hvalue sequence ref index

include hvalue hfields

omit [DecidableEq T] in
theorem drawBase_refines (object : TypedRef T) (drewAnnotatedField : Bool) (base : BaseInfo T) :
    Refines (panel.drawBase drawValue drawAnnotatedFields object drewAnnotatedField base)
      (panel.drawBase drawValue' drawAnnotatedFields' object drewAnnotatedField base) := by
  have hcontents : Refines
      (panel.drawBaseContents drawValue drawAnnotatedFields (base.upcast object) base.typeInfo)
      (panel.drawBaseContents drawValue' drawAnnotatedFields' (base.upcast object)
        base.typeInfo) := by
    unfold DebugPanel.drawBaseContents
    split
    · exact hfields _
    · exact (hvalue _ _).bind fun _ => Refines.refl _
  unfold DebugPanel.drawBase
  exact (Refines.refl _).bind fun _ => hcontents.bind fun drew => Refines.refl _

omit hfields in
theorem drawField_refines (object : TypedRef T) (drewAnnotatedField : Bool)
    (member : MemberDeclaration T) :
    Refines (panel.drawField drawValue object drewAnnotatedField member)
      (panel.drawField drawValue' object drewAnnotatedField member) := by
  unfold DebugPanel.drawField
  split
  · refine (Refines.refl _).bind fun ref => Refines.bind ?_ fun _ => Refines.refl _
    cases ref with
    | error error => exact Refines.refl _
    | ok ref => exact hvalue _ ref
  · exact Refines.refl _

omit hvalue [DecidableEq T] in
theorem drawFields_refines (object : TypedRef T) :
    Refines (DebugPanel.drawFields drawAnnotatedFields object)
      (DebugPanel.drawFields drawAnnotatedFields' object) := by
  unfold DebugPanel.drawFields
  exact (hfields object).bind fun drewAnnotatedField => Refines.refl _

omit [DecidableEq T] in
theorem drawContents_refines (ref : TypedRef T) :
    Refines (panel.drawContents drawValue drawAnnotatedFields ref)
      (panel.drawContents drawValue' drawAnnotatedFields' ref) := by
  unfold DebugPanel.drawContents
  split
  · exact Refines.refl _
  · split
    · exact drawFields_refines hfields ref
    · exact hvalue _ ref

theorem drawPointer_refines (label : String) (ref : TypedRef T) :
    Refines (panel.drawPointer drawValue drawAnnotatedFields label ref)
      (panel.drawPointer drawValue' drawAnnotatedFields' label ref) := by
  unfold DebugPanel.drawPointer
  refine (Refines.refl _).bind fun pointee => ?_
  cases pointee with
  | error error => exact Refines.refl _
  | ok pointee =>
    refine (Refines.refl _).bind fun isOpen => (Refines.refl _).bind fun _ => ?_
    cases isOpen with
    | false => exact Refines.refl _
    | true => exact (drawContents_refines hvalue hfields pointee).bind fun _ => Refines.refl _

omit hvalue in
theorem drawClass_refines (label : String) (ref : TypedRef T) :
    Refines (panel.drawClass drawAnnotatedFields label ref)
      (panel.drawClass drawAnnotatedFields' label ref) := by
  unfold DebugPanel.drawClass
  refine (Refines.refl _).bind fun isOpen => ?_
  cases isOpen with
  | false => exact Refines.refl _
  | true => exact (drawFields_refines hfields ref).bind fun _ => Refines.refl _

omit [DecidableEq T] hvalue hfields in
theorem drawText_refines {toString toString' : Memory → TypedRef T → Option String}
    (htoString : ∀ memory, Extends (toString memory) (toString' memory)) (label : String) (type : T)
    (ref : TypedRef T) :
    Refines (panel.drawText toString label type ref) (panel.drawText toString' label type ref) := by
  unfold DebugPanel.drawText
  refine Refines.bind ?_ fun text => Refines.refl _
  intro state result hresult
  dsimp only at hresult ⊢
  split at hresult
  · rename_i hthunk
    rw [if_pos hthunk]
    exact map_extends (fun text => stringify_extends (htoString state.memory)) _ hresult
  · rename_i hthunk
    rw [if_neg hthunk]
    exact hresult

theorem drawByType_refines {toString toString' : Memory → TypedRef T → Option String}
    (htoString : ∀ memory, Extends (toString memory) (toString' memory)) (label : String) (type : T)
    (ref : TypedRef T) :
    Refines (panel.drawByType drawValue drawAnnotatedFields toString label type ref)
      (panel.drawByType drawValue' drawAnnotatedFields' toString' label type ref) := by
  unfold DebugPanel.drawByType
  split
  · exact Refines.refl _
  · split
    · exact Refines.refl _
    · split
      · exact drawSequence_refines hvalue label _ ref
      · split
        · exact drawPointer_refines hvalue hfields label ref
        · exact Refines.refl _
        · exact drawClass_refines hfields label ref
        · exact drawText_refines htoString label type ref

end

theorem drawValue_succ (panel : DebugPanel T) (fuel : Nat) :
    (∀ label ref, Refines (panel.drawValue fuel label ref) (panel.drawValue (fuel + 1) label ref)) ∧
    (∀ object, Refines (panel.drawAnnotatedFields fuel object)
      (panel.drawAnnotatedFields (fuel + 1) object)) := by
  induction fuel with
  | zero =>
    constructor
    · intro label ref state result hresult
      rw [DebugPanel.drawValue] at hresult
      cases hresult
    · intro object state result hresult
      rw [DebugPanel.drawAnnotatedFields] at hresult
      cases hresult
  | succ fuel ih =>
    obtain ⟨ihValue, ihFields⟩ := ih
    have htoString := (renders_succ panel.graph panel.slot fuel).1
    constructor
    · intro label ref
      rw [DebugPanel.drawValue, DebugPanel.drawValue]
      refine (Refines.refl _).bind fun drawn => ?_
      split
      · exact Refines.refl _
      · split
        · exact Refines.refl _
        · exact drawByType_refines ihValue ihFields htoString label _ ref
    · intro object
      rw [DebugPanel.drawAnnotatedFields, DebugPanel.drawAnnotatedFields]
      split
      · exact Refines.refl _
      · refine (Refines.foldlM (fun drew base => ?_) false).bind fun drew => ?_
        · exact drawBase_refines ihValue ihFields object drew base
        · exact Refines.foldlM (drawField_refines ihValue object) drew

theorem drawObject_succ (fuel : Nat) (object : TypedRef T) :
    Refines (panel.drawObject fuel object) (panel.drawObject (fuel + 1) object) := by
  unfold DebugPanel.drawObject
  refine (Refines.refl _).bind fun isOpen => (Refines.refl _).bind fun _ => ?_
  cases isOpen with
  | false => exact Refines.refl _
  | true =>
    refine (Refines.refl _).bind fun _ => (Refines.refl _).bind fun _ => ?_
    obtain ⟨hvalue, hfields⟩ := drawValue_succ panel fuel
    exact (drawContents_refines hvalue hfields object).bind fun _ => Refines.refl _

theorem drawObject_mono {fuel fuel' : Nat} (hle : fuel ≤ fuel') (object : TypedRef T) :
    Refines (panel.drawObject fuel object) (panel.drawObject fuel' object) := by
  induction hle with
  | refl => exact Refines.refl _
  | step _ ih =>
    intro state result hresult
    exact drawObject_succ _ object state result (ih state result hresult)

theorem drawObject_unique {fuel fuel' : Nat} {object : TypedRef T} {state : PanelState T}
    {result result' : Unit × PanelState T} (h : panel.drawObject fuel object state = some result)
    (h' : panel.drawObject fuel' object state = some result') : result = result' := by
  have hmore := drawObject_mono (Nat.le_max_left fuel fuel') object state result h
  have hmore' := drawObject_mono (Nat.le_max_right fuel fuel') object state result' h'
  rw [hmore] at hmore'
  exact Option.some.inj hmore'

omit [DecidableEq T] in
theorem exists_unfoldsWithin_bases [Finite T] (types : PanelTypes T) :
    ∃ height, ∀ type, UnfoldsWithin (HasBase types.toTypeGraph) height type := by
  have hall : ∀ type, ∃ height, UnfoldsWithin (HasBase types.toTypeGraph) height type := by
    intro type
    apply exists_unfoldsWithin
    intro hcycle
    obtain ⟨base, _, hloop⟩ := hcycle
    exact types.bases_acyclic base hloop
  choose heights hheights using hall
  obtain ⟨height, hheight⟩ := Finite.exists_le heights
  exact ⟨height, fun type => (hheights type).mono (hheight type)⟩

theorem drawObject_keeps [Finite T] (panel : DebugPanel T) {object : TypedRef T}
    (htype : object.type.isSome) (memory : Memory) :
    ∃ fuel, Keeps panel.graph object memory [] (panel.drawObject fuel object) := by
  obtain ⟨height, hheight⟩ := exists_unfoldsWithin_bases panel.types
  refine ⟨panel.imgui.openDepth * (height + 2) + height + 1, ?_⟩
  have hbelow : ∀ scopes, fuelBelow panel height scopes ≤ panel.imgui.openDepth * (height + 2) :=
    fun scopes => Nat.mul_le_mul_right _ (Nat.sub_le _ _)
  obtain ⟨hvalue, hfields⟩ := draws_of_fuel hheight htype
    (panel.imgui.openDepth * (height + 2) + height + 1)
  unfold DebugPanel.drawObject
  refine (keeps_answer _).bind fun isOpen => ?_
  refine (returns_call (enter_beginTable isOpen) rfl).seq ?_
  cases isOpen with
  | false => exact Returns.done _
  | true =>
    refine (returns_call rfl rfl).seq ?_
    refine (returns_call rfl rfl).seq ?_
    refine (drawContents_keeps (fun label scopes ref _ href => ?_) (fun scopes ref _ href => ?_)
      ⟨[], .nil object⟩ htype).seq (returns_call rfl rfl)
    · have hfuel := hbelow scopes
      exact hvalue scopes label ref (by omega) href
    · have hfuel := hbelow scopes
      obtain ⟨type, htype'⟩ := Option.isSome_iff_exists.mp (href.type htype)
      exact hfields scopes ref type height htype' (hheight type) (by omega) href

/-- Drawing an object returns: what it calls is well nested, and it writes through borrows that
are not const only, each at the end of a chain from the object. -/
theorem DebugPanel.drawObject_returns_nested [Finite T] (panel : DebugPanel T) (type : T)
    (data : Address) (isConst movable : Bool) (memory : Memory)
    (storage : List (WidgetId T) → EulerEditing) :
    let object : TypedRef T := { type := some type, data, isConst, movable }
    ∃ final : PanelState T,
      (∃ fuel, panel.drawObject fuel object { memory, storage } = some ((), final)) ∧
      (∀ fuel result, panel.drawObject fuel object { memory, storage } = some result →
        result = ((), final)) ∧
      WellNested Event.effect final.events ∧
      (∀ event ∈ final.events, ∀ ref, event.Writes ref →
        ref.isConst = false ∧ Reaches panel.graph object ref) ∧
      (final.memory ≠ memory → ∃ event ∈ final.events, ∃ ref, event.Writes ref) := by
  intro object
  obtain ⟨fuel, hkeeps⟩ := drawObject_keeps panel (show object.type.isSome from rfl) memory
  have hstart : Drawing panel.graph object memory [] { memory, storage } := by
    refine ⟨rfl, fun event hevent => ?_, fun hchanged => absurd rfl hchanged⟩
    cases hevent
  obtain ⟨⟨⟩, final, hrun, hfinal⟩ := hkeeps _ hstart
  refine ⟨final, ⟨fuel, hrun⟩, fun fuel' result hresult => drawObject_unique hresult hrun, ?_⟩
  exact ⟨wellNested_of_openScopes hfinal.nested, hfinal.writes, hfinal.changes⟩

/-- `struct Node { Node* Next; bool Flag; }`; `float` stands for the other types with a row. -/
inductive NodeType where
  | node
  | nodePointer
  | bool
  | float
  deriving DecidableEq

instance finiteNodeType : Finite NodeType := by
  let place : NodeType → Fin 4
    | .node => 0
    | .nodePointer => 1
    | .bool => 2
    | .float => 3
  apply Finite.of_injective place
  intro a b h
  cases a <;> cases b <;> first | rfl | cases h

def nextMember : MemberDeclaration NodeType where
  identifier := "Next"
  type := .nodePointer
  declaringType := .node
  byteOffset := 0
  copyConstruct := none
  assign := none

def flagMember : MemberDeclaration NodeType where
  identifier := "Flag"
  type := .bool
  declaringType := .node
  byteOffset := 8
  copyConstruct := none
  assign := none

def nodeInfo : NodeType → TypeInfo NodeType
  | .node =>
    { displayName := "Node"
      traits := { kind := .classType }
      members := [nextMember, flagMember] }
  | .nodePointer =>
    { displayName := "Node*"
      traits := { kind := .pointer }
      innerType := some .node }
  | .bool => { displayName := "bool", traits := { kind := .integral } }
  | .float => { displayName := "float", traits := { kind := .floatingPoint } }

theorem bases_nodeInfo (t : NodeType) : (nodeInfo t).bases = [] := by
  cases t <;> rfl

def nodeTypes : PanelTypes NodeType where
  info := nodeInfo
  const_inner := by
    intro t h
    cases t <;> cases h
  volatile_inner := by
    intro t _ h
    cases t <;> cases h
  pointer_inner := by
    intro t h
    cases t <;> first | rfl | cases h
  member_declaringType := by
    intro t member hmember
    cases t with
    | node => rcases List.mem_pair.mp hmember with rfl | rfl <;> rfl
    | _ => cases hmember
  bitField_leaf := by
    intro t member hmember hbit
    cases t with
    | node => rcases List.mem_pair.mp hmember with rfl | rfl <;> cases hbit
    | _ => cases hmember
  facets := fun _ => []
  typeMetaOf := fun type => if type = .primitive .bool then .bool else .float
  hasDrawDebug := fun _ => true
  hasFacets_eq := by
    intro t
    cases t <;> rfl
  stringify_sequence := by
    intro t _ hthunk
    cases t <;> cases hthunk
  bases_acyclic := by
    intro t hloop
    obtain ⟨_, ⟨info, hinfo, _⟩, _⟩ := Relation.TransGen.head'_iff.mp hloop
    rw [bases_nodeInfo] at hinfo
    cases hinfo

/-- Two rows are expanded and every field is edited. -/
def nodePanel : DebugPanel NodeType where
  types := nodeTypes
  imgui :=
    { openRows := [[.label "Next", .table], [.label "Next", .label "Next", .table]]
      beginTable := fun _ => true
      beginCombo := fun _ => false
      selectable := fun _ => false
      isItemActive := fun _ => false
      isItemDeactivatedAfterEdit := fun _ => false
      inputText := fun _ text => text
      edit := fun events => if isDisabled events then none else some 1
      edit_disabled := fun _ hdisabled => if_pos hdisabled }
  euler := { degreesOf := fun _ _ => [0, 0, 0], store := fun _ _ memory => memory }
  slot := 8

/-- A `Node` at address 16 whose `Next` is itself. -/
def nodeMemory : Memory := writePointer 16 16 fun _ => 0

theorem DebugPanel.drawObject_returns_nested_node :
    ∃ final : PanelState NodeType,
      (∃ fuel, nodePanel.drawObject fuel { type := some .node, data := 16 }
        { memory := nodeMemory } = some ((), final)) ∧
      WellNested Event.effect final.events ∧
      ∀ event ∈ final.events, ∀ ref, event.Writes ref → ref.isConst = false := by
  obtain ⟨final, hrun, _, hnested, hwrites, _⟩ :=
    DebugPanel.drawObject_returns_nested nodePanel .node 16 false false nodeMemory fun _ => {}
  exact ⟨final, hrun, hnested, fun event hevent ref h => (hwrites event hevent ref h).1⟩

end PlaygroundEngine.DebugUi
