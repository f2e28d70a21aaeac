import PlaygroundEngine.Library.Nesting
import PlaygroundEngine.Reflection.EnumerationStorage

/-!
# ImGui, as a panel sees it

What a panel calls, in order, and what ImGui answers. An answer may depend on all the calls so
far; whether a row is expanded depends on its id path only. Calls that only lay out are left out.
-/

namespace PlaygroundEngine.DebugUi

open Library Reflection
set_option autoImplicit false

variable {T : Type}

inductive WidgetId (T : Type) where
  | label (text : String)
  | index (value : Int32)
  | type (type : T)
  | table
  | popup
  deriving DecidableEq

inductive Event (T : Type) where
  | pushID (id : WidgetId T)
  | popID
  /-- `TreeNodeEx`, which pushes its label when the row is open. -/
  | treeNode (label : String) (isOpen : Bool)
  | treePop
  | beginDisabled (disabled : Bool)
  | endDisabled
  | beginCombo (preview : Bytes) (isOpen : Bool)
  | endCombo
  | beginTable (isOpen : Bool)
  | endTable
  | tableSetupColumn (name : String)
  | tableNextRow
  | tableNextColumn
  | textUnformatted (text : String)
  | textDisabled (text : String)
  /-- `TextDisabled("%p", address)` -/
  | addressDisabled (address : Address)
  /-- A checkbox, a drag field or a text field. -/
  | widget
  | selectable (identifier : Bytes) (isSelected : Bool)
  /-- Not a call of ImGui: memory is accessed through a borrow. -/
  | accessed (ref : TypedRef T) (accesses : List Access)
  /-- Not a call of ImGui either. -/
  | logError (label : String)

inductive Scope (T : Type) where
  | pushedId (id : WidgetId T)
  | tree (label : String)
  | disabled (disabled : Bool)
  | combo
  | table

namespace Scope

def isPushedId : Scope T → Bool
  | pushedId _ => true
  | _ => false

def isTree : Scope T → Bool
  | tree _ => true
  | _ => false

def isDisabled : Scope T → Bool
  | disabled _ => true
  | _ => false

def isCombo : Scope T → Bool
  | combo => true
  | _ => false

def isTable : Scope T → Bool
  | table => true
  | _ => false

def widgetId : Scope T → Option (WidgetId T)
  | pushedId id => some id
  | tree label => some (.label label)
  | disabled _ => none
  | combo => some .popup
  | table => some .table

def flag : Scope T → Option Bool
  | disabled flag => some flag
  | _ => none

end Scope

namespace Event

def effect : Event T → ScopeEffect (Scope T)
  | pushID id => .opens (.pushedId id)
  | popID => .closes Scope.isPushedId
  | treeNode label true => .opens (.tree label)
  | treePop => .closes Scope.isTree
  | beginDisabled disabled => .opens (.disabled disabled)
  | endDisabled => .closes Scope.isDisabled
  | beginCombo _ true => .opens .combo
  | endCombo => .closes Scope.isCombo
  | beginTable true => .opens .table
  | endTable => .closes Scope.isTable
  | _ => .plain

/-- The accesses of the event write, and it is through this borrow. -/
def Writes (event : Event T) (ref : TypedRef T) : Prop :=
  match event with
  | accessed through accesses => through = ref ∧ ∃ address, .write address ∈ accesses
  | _ => False

def isAccess : Event T → Bool
  | accessed _ _ => true
  | _ => false

theorem not_writes {event : Event T} (h : event.isAccess = false) (ref : TypedRef T) :
    ¬ event.Writes ref := by
  cases event <;> first | exact fun hwrites => hwrites | cases h

end Event

/-- The id stack is popped without a look at what it holds. -/
def moveIds (stack : List (WidgetId T)) : Event T → List (WidgetId T)
  | .pushID id => id :: stack
  | .treeNode label true => .label label :: stack
  | .beginCombo _ true => .popup :: stack
  | .beginTable true => .table :: stack
  | .popID => stack.tail
  | .treePop => stack.tail
  | .endCombo => stack.tail
  | .endTable => stack.tail
  | _ => stack

def moveFlags (stack : List Bool) : Event T → List Bool
  | .beginDisabled disabled => disabled :: stack
  | .endDisabled => stack.tail
  | _ => stack

def idStack (events : List (Event T)) : List (WidgetId T) := events.foldl moveIds []

def disabledStack (events : List (Event T)) : List Bool := events.foldl moveFlags []

/-- Below one disabled scope everything is disabled. -/
def isDisabled (events : List (Event T)) : Bool := (disabledStack events).any id

/-- The answers to a panel, by what it has called. -/
structure ImGui (T : Type) where
  /-- The id paths of the rows that are expanded, each from the row outwards. -/
  openRows : List (List (WidgetId T))
  beginTable : List (Event T) → Bool
  beginCombo : List (Event T) → Bool
  selectable : List (Event T) → Bool
  isItemActive : List (Event T) → Bool
  isItemDeactivatedAfterEdit : List (Event T) → Bool
  /-- The text in a text field's buffer. -/
  inputText : List (Event T) → String → String
  /-- What a checkbox or a drag field stores, if it is edited. -/
  edit : List (Event T) → Option UInt64
  edit_disabled : ∀ events, isDisabled events = true → edit events = none

section
variable {scopes before : List (Scope T)} {event : Event T}

theorem enter_treeNode (label : String) (isOpen : Bool) :
    enter Event.effect scopes (.treeNode label isOpen) =
      some (if isOpen then .tree label :: scopes else scopes) := by
  cases isOpen <;> rfl

theorem enter_beginCombo (preview : Bytes) (isOpen : Bool) :
    enter Event.effect scopes (.beginCombo preview isOpen) =
      some (if isOpen then .combo :: scopes else scopes) := by
  cases isOpen <;> rfl

theorem enter_beginTable (isOpen : Bool) :
    enter Event.effect scopes (.beginTable isOpen : Event T) =
      some (if isOpen then .table :: scopes else scopes) := by
  cases isOpen <;> rfl

theorem stacks_enter (h : enter Event.effect before event = some scopes) :
    moveIds (before.filterMap Scope.widgetId) event = scopes.filterMap Scope.widgetId ∧
      moveFlags (before.filterMap Scope.flag) event = scopes.filterMap Scope.flag := by
  cases heffect : event.effect with
  | plain =>
    rw [enter, heffect] at h
    cases h
    unfold Event.effect at heffect
    split at heffect <;> cases heffect
    constructor
    · unfold moveIds
      split <;> simp_all
    · unfold moveFlags
      split <;> simp_all
  | opens scope =>
    rw [enter, heffect] at h
    cases h
    unfold Event.effect at heffect
    split at heffect <;> cases heffect <;> exact ⟨rfl, rfl⟩
  | closes suits =>
    obtain ⟨scope, rfl, hsuits⟩ := enter_closes heffect h
    unfold Event.effect at heffect
    split at heffect <;> cases heffect <;> cases scope <;> cases hsuits <;> exact ⟨rfl, rfl⟩

theorem stacks_of_openScopes {events : List (Event T)}
    (h : openScopes Event.effect [] events = some scopes) :
    idStack events = scopes.filterMap Scope.widgetId ∧
      disabledStack events = scopes.filterMap Scope.flag := by
  induction events using List.reverseRecOn generalizing scopes with
  | nil =>
    cases h
    exact ⟨rfl, rfl⟩
  | append_singleton events event ih =>
    rw [openScopes_concat] at h
    obtain ⟨before, hbefore, hevent⟩ := Option.bind_eq_some_iff.mp h
    obtain ⟨hids, hflags⟩ := ih hbefore
    rw [idStack] at hids
    rw [disabledStack] at hflags
    rw [idStack, disabledStack, List.foldl_append, List.foldl_append, hids, hflags]
    exact stacks_enter hevent

end

end PlaygroundEngine.DebugUi
