import PlaygroundEngine.DebugUi.DebugPanelDrawer
import PlaygroundEngine.Reflection.Borrows

/-!
# What a row leaves open

A drawing is a state of the calls so far, with the scopes that are open, in which nothing was
written through a read-only borrow. Each row returns and leaves the scopes as it found them.
-/

namespace PlaygroundEngine.DebugUi

open Library Reflection
set_option autoImplicit false

variable {T : Type} [DecidableEq T]

/-- A chain of borrows leads from the drawn object to this one. -/
def Reaches (graph : TypeGraph T) (root ref : TypedRef T) : Prop :=
  ∃ steps, Chain graph root steps ref

theorem Reaches.follow {graph : TypeGraph T} {root ref next : TypedRef T} {hop : Hop T}
    {memory : Memory} (h : Reaches graph root ref)
    (hfollow : hop.follow graph memory ref = some next) : Reaches graph root next := by
  obtain ⟨steps, hsteps⟩ := h
  exact ⟨_, hsteps.concat hfollow⟩

theorem Reaches.upcast {graph : TypeGraph T} {root ref : TypedRef T} (h : Reaches graph root ref)
    (base : BaseInfo T) : Reaches graph root (base.upcast ref) :=
  h.follow (show (Hop.upcast base).follow graph (fun _ => 0) ref = some _ from rfl)

theorem Reaches.elementRef {graph : TypeGraph T} {root ref : TypedRef T}
    (h : Reaches graph root ref) (sequence : SequenceDeclaration T) (index : UInt64)
    (memory : Memory) : Reaches graph root (sequence.facet.elementRef ref index memory) :=
  h.follow (show (Hop.elementRef sequence index).follow graph memory ref = some _ from rfl)

theorem Reaches.type {graph : TypeGraph T} {root ref : TypedRef T} (h : Reaches graph root ref)
    (hroot : root.type.isSome) : ref.type.isSome := by
  obtain ⟨steps, hsteps⟩ := h
  exact hsteps.type hroot

structure Drawing (graph : TypeGraph T) (root : TypedRef T) (initial : Memory)
    (scopes : List (Scope T)) (state : PanelState T) : Prop where
  nested : openScopes Event.effect [] state.events = some scopes
  writes : ∀ event ∈ state.events, ∀ ref, event.Writes ref →
    ref.isConst = false ∧ Reaches graph root ref
  changes : state.memory ≠ initial → ∃ event ∈ state.events, ∃ ref, event.Writes ref

/-- The operation writes, through a borrow that allows it, or leaves the memory alone. -/
def Careful {A : Type} (ref : TypedRef T) (operation : Machine → A × Machine) : Prop :=
  ∀ memory, (ref.isConst = false ∧
      ∃ address, .write address ∈ (operation ⟨memory, []⟩).2.accesses) ∨
    (operation ⟨memory, []⟩).2.memory = memory ∧
      ∀ address, .write address ∉ (operation ⟨memory, []⟩).2.accesses

/-- The program returns, with the scopes as it found them. -/
abbrev Keeps {A : Type} (graph : TypeGraph T) (root : TypedRef T) (initial : Memory)
    (scopes : List (Scope T)) (program : Draw T A) : Prop :=
  Returns (Drawing graph root initial scopes) program fun _ => Drawing graph root initial scopes

section
variable {A : Type} {ref : TypedRef T}

omit [DecidableEq T] in
theorem careful_write {a : A} {address : Address} {effect : Memory → Memory}
    (hconst : ref.isConst = false) :
    Careful ref fun machine => (a, machine.perform [.write address] effect) :=
  fun _ => Or.inl ⟨hconst, address, List.mem_singleton_self _⟩

theorem careful_mutateFacet (owner : Option T)
    {thunk : Option (Address → Machine → Except FacetError Unit × Machine)}
    (hthunk : ∀ mutate, thunk = some mutate → ∀ memory,
      ∃ address, .write address ∈ (mutate ref.data ⟨memory, []⟩).2.accesses) :
    Careful ref (mutateFacet owner ref thunk) := by
  intro memory
  rcases mutateFacet_cases owner ref thunk ⟨memory, []⟩ with
    ⟨_, _, hrefused⟩ | ⟨hadmits, mutate, hmutate, hresult⟩
  · rw [hrefused]
    exact Or.inr ⟨rfl, fun _ => List.not_mem_nil⟩
  · rw [hresult]
    exact Or.inl ⟨Bool.eq_false_iff.mpr hadmits.2.2, hthunk mutate hmutate memory⟩

theorem careful_assignString (string : StringDeclaration T) (value : String) :
    Careful ref (string.facet.assign ref value) := by
  apply careful_mutateFacet
  intro mutate hmutate memory
  obtain ⟨thunk, hthunk, rfl⟩ := Option.map_eq_some_iff.mp hmutate
  obtain ⟨assign, _, rfl⟩ := Option.map_eq_some_iff.mp hthunk
  exact ⟨ref.data, List.mem_singleton_self _⟩

theorem careful_assignEnumeration (enumeration : ReflectedEnum T) (value : UInt64) :
    Careful ref (enumeration.assign ref value) := by
  apply careful_mutateFacet
  intro mutate hmutate memory
  cases hmutate
  exact ⟨ref.data, List.mem_singleton_self _⟩

theorem careful_getRef (member : MemberDeclaration T) :
    Careful ref ((makeField member).getRef ref) := by
  intro memory
  refine Or.inr ?_
  unfold FieldInfo.getRef
  cases (makeField member).checkDeclaringInstance ref with
  | error error => exact ⟨rfl, fun _ => List.not_mem_nil⟩
  | ok _ =>
    simp only [makeField_referencer, makeFieldReferencer]
    cases member.isBitField with
    | true => exact ⟨rfl, fun _ => List.not_mem_nil⟩
    | false =>
      refine ⟨rfl, fun address hwrite => ?_⟩
      simp only [Bool.false_eq_true, if_false, fieldRefThunk, Machine.log_accesses,
        MemberDeclaration.locationAccesses, List.nil_append] at hwrite
      split at hwrite
      · cases hwrite
      · cases List.mem_singleton.mp hwrite

end

section
variable {graph : TypeGraph T} {root ref : TypedRef T} {initial : Memory}
  {scopes scopes' : List (Scope T)} {A : Type}

theorem returns_call {event : Event T} (henter : enter Event.effect scopes event = some scopes')
    (haccess : event.isAccess = false) :
    Returns (Drawing graph root initial scopes) (call event)
      fun _ => Drawing graph root initial scopes' := by
  intro state hstate
  refine ⟨(), _, rfl, ?_⟩
  constructor
  · rw [openScopes_concat, hstate.nested]
    exact henter
  · intro event' hevent' ref hwrites
    rcases List.mem_append.mp hevent' with hbefore | hlast
    · exact hstate.writes event' hbefore ref hwrites
    · rw [List.mem_singleton.mp hlast] at hwrites
      exact absurd hwrites (Event.not_writes haccess ref)
  · intro hchanged
    obtain ⟨event', hevent', hwrites⟩ := hstate.changes hchanged
    exact ⟨event', List.mem_append_left _ hevent', hwrites⟩

theorem returns_answer (f : PanelState T → A) :
    Returns (Drawing graph root initial scopes) (answer f) fun a state =>
      Drawing graph root initial scopes state ∧
        ∃ state', Drawing graph root initial scopes state' ∧ a = f state' :=
  fun state hstate => ⟨f state, state, rfl, hstate, state, hstate, rfl⟩

theorem keeps_answer (f : PanelState T → A) : Keeps graph root initial scopes (answer f) :=
  (returns_answer f).mono (fun _ hstate => hstate) fun _ _ hstate => hstate.1

theorem returns_through {operation : Machine → A × Machine} (href : Reaches graph root ref)
    (hcareful : Careful ref operation) :
    Returns (Drawing graph root initial scopes) (through ref operation) fun a state =>
      Drawing graph root initial scopes state ∧ ∃ memory, a = (operation ⟨memory, []⟩).1 := by
  intro state hstate
  refine ⟨_, _, rfl, ⟨?_, ?_, ?_⟩, state.memory, rfl⟩
  · rw [openScopes_concat, hstate.nested]
    rfl
  · intro event hevent ref' hwrites
    rcases List.mem_append.mp hevent with hbefore | hlast
    · exact hstate.writes event hbefore ref' hwrites
    · rw [List.mem_singleton.mp hlast] at hwrites
      obtain ⟨rfl, address, hwrite⟩ := hwrites
      rcases hcareful state.memory with ⟨hconst, _⟩ | ⟨_, hnone⟩
      · exact ⟨hconst, href⟩
      · exact absurd hwrite (hnone address)
  · intro hchanged
    rcases hcareful state.memory with ⟨_, hwrite⟩ | ⟨hsame, _⟩
    · exact ⟨_, List.mem_append_right _ (List.mem_singleton_self _), ref, rfl, hwrite⟩
    · rw [hsame] at hchanged
      obtain ⟨event, hevent, hwrites⟩ := hstate.changes hchanged
      exact ⟨event, List.mem_append_left _ hevent, hwrites⟩

theorem keeps_through {operation : Machine → A × Machine} (href : Reaches graph root ref)
    (hcareful : Careful ref operation) :
    Keeps graph root initial scopes (through ref operation) :=
  (returns_through href hcareful).mono (fun _ hstate => hstate) fun _ _ hstate => hstate.1

theorem keeps_storage (store : PanelState T → List (WidgetId T) → EulerEditing) :
    Keeps graph root initial scopes
      (modify fun state => { state with storage := store state } : Draw T Unit) :=
  fun _ hstate => ⟨(), _, rfl, hstate.nested, hstate.writes, hstate.changes⟩

theorem returns_beginLeafRow (label : String) :
    Returns (Drawing graph root initial scopes) (beginLeafRow label)
      fun _ => Drawing graph root initial (.pushedId (.label label) :: scopes) := by
  unfold beginLeafRow
  exact (returns_call rfl rfl).seq <| (returns_call rfl rfl).seq <|
    (returns_call rfl rfl).seq <| (returns_call rfl rfl).seq <|
    returns_call rfl rfl

theorem returns_endLeafRow (id : WidgetId T) :
    Returns (Drawing graph root initial (.pushedId id :: scopes)) endLeafRow
      fun _ => Drawing graph root initial scopes :=
  returns_call rfl rfl

theorem drawDisabledText_keeps (label text : String) :
    Keeps graph root initial scopes (drawDisabledText label text) := by
  unfold drawDisabledText
  refine (returns_beginLeafRow label).seq ?_
  refine (returns_call rfl rfl).seq ?_
  refine (returns_call rfl rfl).seq ?_
  refine (returns_call rfl rfl).seq ?_
  exact returns_endLeafRow _

theorem storeThrough_keeps (href : Reaches graph root ref) (hconst : ref.isConst = false)
    (width : Nat) (address : Address) (value : UInt64) :
    Keeps graph root initial scopes (storeThrough ref width address value) :=
  keeps_through href (careful_write hconst)

theorem whenEdited_keeps {value : Option UInt64} {store : UInt64 → Draw T Unit}
    (h : value.isSome → ∀ value, Keeps graph root initial scopes (store value)) :
    Keeps graph root initial scopes (whenEdited value store) := by
  cases value with
  | none => exact Returns.done _
  | some value => exact h rfl value

variable (panel : DebugPanel T)

theorem returns_edited :
    Returns (Drawing graph root initial scopes) panel.edited fun value state =>
      Drawing graph root initial scopes state ∧
        (value.isSome → true ∉ scopes.filterMap Scope.flag) := by
  unfold DebugPanel.edited
  refine (returns_answer _).bind fun value => Returns.given fun hvalue => ?_
  refine (returns_call rfl rfl).seq ?_
  refine Returns.pure fun state hstate => ⟨hstate, fun hsome hflag => ?_⟩
  obtain ⟨state', hstate', rfl⟩ := hvalue
  have hdisabled : isDisabled state'.events = true := by
    rw [isDisabled, (stacks_of_openScopes hstate'.nested).2, List.any_eq_true]
    exact ⟨true, hflag, rfl⟩
  rw [panel.imgui.edit_disabled _ hdisabled] at hsome
  cases hsome

/-- The scopes disable what edits through the borrow, if it is read-only. -/
def Guards (scopes : List (Scope T)) (ref : TypedRef T) : Prop :=
  ref.isConst → true ∈ scopes.filterMap Scope.flag

omit [DecidableEq T] in
theorem Guards.isConst (h : Guards scopes ref) (hflags : true ∉ scopes.filterMap Scope.flag) :
    ref.isConst = false :=
  Bool.eq_false_iff.mpr fun hconst => hflags (h hconst)

omit [DecidableEq T] in
theorem guards_disabled (ref : TypedRef T) (scopes : List (Scope T)) :
    Guards (.disabled ref.isConst :: scopes) ref := by
  intro hconst
  rw [hconst]
  exact List.mem_cons_self

theorem editPrimitive_keeps (href : Reaches graph root ref) (hguards : Guards scopes ref)
    (primitive : Primitive) :
    Keeps graph root initial scopes (panel.editPrimitive primitive ref) := by
  unfold DebugPanel.editPrimitive
  split
  · unfold DebugPanel.checkbox
    refine (returns_edited panel).bind fun value => Returns.given fun hvalue => ?_
    refine (keeps_answer _).bind fun checked => whenEdited_keeps fun hsome _ => ?_
    exact storeThrough_keeps href (hguards.isConst (hvalue hsome)) _ _ _
  · unfold DebugPanel.dragScalar
    refine (returns_edited panel).bind fun value => Returns.given fun hvalue => ?_
    refine whenEdited_keeps fun hsome value => ?_
    exact storeThrough_keeps href (hguards.isConst (hvalue hsome)) _ _ _

theorem tryDrawPrimitive_keeps (href : Reaches graph root ref) (label : String)
    (primitive : Primitive) :
    Keeps graph root initial scopes (panel.tryDrawPrimitive label ref primitive) := by
  unfold DebugPanel.tryDrawPrimitive
  split
  · exact Returns.done _
  · refine (returns_beginLeafRow label).seq ?_
    refine (returns_call rfl rfl).seq ?_
    refine (editPrimitive_keeps panel href (guards_disabled ref _) primitive).seq ?_
    refine (returns_call rfl rfl).seq ?_
    refine (returns_endLeafRow _).seq ?_
    exact Returns.done _

theorem drawComponentRow_keeps {store : Nat → UInt64 → Draw T Unit}
    (hstore : true ∉ scopes.filterMap Scope.flag → ∀ index value id,
      Keeps graph root initial (.pushedId id :: scopes) (store index value)) (count : Nat) :
    Keeps graph root initial scopes (panel.drawComponentRow store count) := by
  unfold DebugPanel.drawComponentRow
  refine Returns.foldlM (fun row index _ => ?_) _
  unfold DebugPanel.drawComponent
  refine (returns_call rfl rfl).seq ?_
  refine (returns_call rfl rfl).seq ?_
  refine (returns_edited panel).bind fun value => Returns.given fun hvalue => ?_
  refine (whenEdited_keeps fun hsome value => hstore (hvalue hsome) index value _).seq ?_
  refine (keeps_answer _).bind fun active => ?_
  refine (returns_call rfl rfl).seq ?_
  exact Returns.done _

theorem tryDrawVector_keeps (href : Reaches graph root ref) (label : String) (vector : DrawnType)
    (componentCount : Nat) :
    Keeps graph root initial scopes (panel.tryDrawVector label ref vector componentCount) := by
  unfold DebugPanel.tryDrawVector
  split
  · exact Returns.done _
  · refine (returns_beginLeafRow label).seq ?_
    refine (returns_call rfl rfl).seq ?_
    refine (drawComponentRow_keeps panel (fun hflags index value id => ?_) _).bind fun _ => ?_
    · exact storeThrough_keeps href ((guards_disabled ref _).isConst hflags) _ _ _
    refine (returns_call rfl rfl).seq ?_
    refine (returns_endLeafRow _).seq ?_
    exact Returns.done _

theorem storeRotation_keeps (href : Reaches graph root ref) (row : DebugPanel.ComponentRow)
    (degrees : List UInt32) :
    Keeps graph root initial scopes (panel.storeRotation row degrees ref) := by
  unfold DebugPanel.storeRotation
  split
  · rename_i hedited
    rw [Bool.and_eq_true, Bool.not_eq_true'] at hedited
    exact keeps_through href (careful_write hedited.2)
  · exact Returns.done _

theorem tryDrawQuaternion_keeps (href : Reaches graph root ref) (label : String) :
    Keeps graph root initial scopes (panel.tryDrawQuaternion label ref) := by
  unfold DebugPanel.tryDrawQuaternion
  split
  · exact Returns.done _
  · refine (returns_beginLeafRow label).seq ?_
    refine (keeps_answer _).bind fun editingKey => ?_
    refine (keeps_answer _).bind fun editing => ?_
    refine (keeps_answer _).bind fun shown => ?_
    refine (returns_call rfl rfl).seq ?_
    -- the fields edit the copy
    refine (drawComponentRow_keeps panel (fun _ _ _ _ => ?_) _).bind fun row => ?_
    · exact Returns.done _
    refine (returns_call rfl rfl).seq ?_
    refine (keeps_storage _).seq ?_
    refine (storeRotation_keeps panel href row _).seq ?_
    refine (returns_endLeafRow _).seq ?_
    exact Returns.done _

theorem tryDrawBuiltin_keeps (href : Reaches graph root ref) (label : String) :
    Keeps graph root initial scopes (panel.tryDrawBuiltin label ref) := by
  unfold DebugPanel.tryDrawBuiltin
  refine (Returns.anyM fun primitive _ =>
    tryDrawPrimitive_keeps panel href label primitive).bind fun drawn => ?_
  split
  · exact Returns.done _
  refine (tryDrawQuaternion_keeps panel href label).bind fun drawn => ?_
  split
  · exact Returns.done _
  refine (tryDrawVector_keeps panel href label _ _).bind fun drawn => ?_
  split
  · exact Returns.done _
  · exact tryDrawVector_keeps panel href label _ _

theorem commit_keeps (href : Reaches graph root ref) (label : String) (string : StringType T)
    (value : String) (committed : Bool) :
    Keeps graph root initial scopes
      (if committed then DebugPanel.assignString label string ref value else pure ()) := by
  split
  · unfold DebugPanel.assignString
    refine (keeps_through href (careful_assignString _ _)).bind fun assigned => ?_
    cases assigned with
    | ok _ => exact Returns.done _
    | error error => exact returns_call rfl rfl
  · exact Returns.done _

theorem drawString_keeps (href : Reaches graph root ref) (label : String) (string : StringType T) :
    Keeps graph root initial scopes (panel.drawString label string ref) := by
  unfold DebugPanel.drawString
  refine (keeps_answer _).bind fun text => ?_
  split
  · exact drawDisabledText_keeps label _
  refine (returns_beginLeafRow label).seq ?_
  refine (keeps_answer _).bind fun buffer => ?_
  refine (returns_call rfl rfl).seq ?_
  refine (keeps_answer _).bind fun committed => ?_
  refine (commit_keeps href label string _ committed).seq ?_
  exact returns_endLeafRow _

theorem drawEnumerator_keeps (href : Reaches graph root ref) (enumeration : ReflectedEnum T)
    (current : UInt64) (enumerator : EnumeratorInfo UInt64) :
    Keeps graph root initial scopes (panel.drawEnumerator enumeration ref current enumerator) := by
  unfold DebugPanel.drawEnumerator
  refine (keeps_answer _).bind fun isSelected => ?_
  refine (returns_call rfl rfl).seq ?_
  split
  · refine (keeps_through href (careful_assignEnumeration _ _)).bind fun _ => ?_
    exact Returns.done _
  · exact Returns.done _

theorem returns_drawEnumerators (href : Reaches graph root ref) (enumeration : ReflectedEnum T)
    (current : UInt64) (isOpen : Bool) :
    Returns (Drawing graph root initial (if isOpen then .combo :: scopes else scopes))
      (panel.drawEnumerators enumeration ref current isOpen)
      fun _ => Drawing graph root initial scopes := by
  cases isOpen with
  | false => exact Returns.done _
  | true =>
    refine (Returns.forM fun enumerator _ =>
      drawEnumerator_keeps panel href enumeration current enumerator).seq ?_
    exact returns_call rfl rfl

theorem drawEnumeration_keeps (href : Reaches graph root ref) (label : String)
    (enumeration : ReflectedEnum T) :
    Keeps graph root initial scopes (panel.drawEnumeration label enumeration ref) := by
  unfold DebugPanel.drawEnumeration
  refine (keeps_answer _).bind fun current => ?_
  refine (returns_beginLeafRow label).seq ?_
  refine (returns_call rfl rfl).seq ?_
  refine (keeps_answer _).bind fun isOpen => ?_
  refine (returns_call (enter_beginCombo _ isOpen) rfl).seq ?_
  refine (returns_drawEnumerators panel href enumeration current isOpen).seq ?_
  refine (returns_call rfl rfl).seq ?_
  exact returns_endLeafRow _

theorem returns_beginTreeRow (label : String) :
    Returns (Drawing graph root initial scopes) (panel.beginTreeRow label) fun isOpen state =>
      Drawing graph root initial (if isOpen then .tree label :: scopes else scopes) state ∧
        (isOpen →
          (Scope.tree label :: scopes).filterMap Scope.widgetId ∈ panel.imgui.openRows) := by
  unfold DebugPanel.beginTreeRow
  refine (returns_call rfl rfl).seq ?_
  refine (returns_call rfl rfl).seq ?_
  refine (returns_answer _).bind fun isOpen => Returns.given fun hopen => ?_
  refine (returns_call (enter_treeNode label isOpen) rfl).seq ?_
  refine (returns_call rfl rfl).seq ?_
  refine Returns.pure fun state hstate => ⟨hstate, fun hisOpen => ?_⟩
  obtain ⟨state', hstate', rfl⟩ := hopen
  rw [decide_eq_true_eq, (stacks_of_openScopes hstate'.nested).1] at hisOpen
  exact hisOpen

end

end PlaygroundEngine.DebugUi
