import PlaygroundEngine.Ecs.Ecs
import PlaygroundEngine.PlatformEvents
import Mathlib.Data.List.AList

/-!
# The input state layer

`InputSystem` folds each frame's record into the one component it keeps in the
store. Edges are read from two snapshots, the last frame's and this one's.
-/

namespace PlaygroundEngine

open Library Reflection
set_option autoImplicit false

inductive InputState where
  | released
  | pressed
  deriving DecidableEq, Repr

abbrev InputMap := AList fun _ : InputCode => InputState

structure InputStateComponent where
  currentInputMap : InputMap := ∅
  previousInputMap : InputMap := ∅

namespace InputStateComponent

def stateOf (inputMap : InputMap) (code : InputCode) : InputState :=
  (inputMap.lookup code).getD .released

def isPressed (component : InputStateComponent) (code : InputCode) : Bool :=
  stateOf component.currentInputMap code = .pressed

def wasPressedThisFrame (component : InputStateComponent) (code : InputCode) : Bool :=
  stateOf component.currentInputMap code = .pressed &&
    stateOf component.previousInputMap code = .released

def wasReleasedThisFrame (component : InputStateComponent) (code : InputCode) : Bool :=
  stateOf component.currentInputMap code = .released &&
    stateOf component.previousInputMap code = .pressed

end InputStateComponent

section Fold
variable {F : Type} [Zero F]

def applyEvent (inputMap : InputMap) (platformEvent : PlatformEvent F) : InputMap :=
  if isKeyboardCode platformEvent.code then
    inputMap.insert platformEvent.code
      (if platformEvent.type = .keyPressed then .pressed else .released)
  else if isPointerCode platformEvent.code then
    inputMap.insert platformEvent.code
      (if platformEvent.type = .pointerButtonPressed then .pressed else .released)
  else inputMap

def InputStateComponent.advance (component : InputStateComponent)
    (record : PlatformEventRecord F) : InputStateComponent where
  previousInputMap := component.currentInputMap
  currentInputMap := record.events.foldl applyEvent component.currentInputMap

end Fold

/-- The system with the store it works on and the input components that exist. -/
structure InputSystem (T F : Type) [LinearOrder T] [Zero F] where
  ecs : Ecs T := {}
  inputStates : Address → InputStateComponent := fun _ => {}
  currentPlatformEventRecord : PlatformEventRecord F := {}

namespace InputSystem

variable {T F : Type} [LinearOrder T] [Zero F]

def updatePlatformInput (system : InputSystem T F) (platformEventRecord : PlatformEventRecord F) :
    InputSystem T F :=
  { system with currentPlatformEventRecord := platformEventRecord }

/-- `inputType` is the component's type, and `component` the object `make_shared` returns
if this call makes one. -/
def getOrCreateInputState (inputType : T) (component : Address) (system : InputSystem T F) :
    Option Address × InputSystem T F :=
  match system.ecs.getComponents inputType with
  | existing :: _ => (some existing, system)
  | [] =>
    let (entity, ecs) := system.ecs.addEntity
    let (added, ecs) := ecs.addComponentToEntity inputType component entity
    (added, { system with
      ecs
      inputStates := Function.update system.inputStates component {} })

/-- `none` is the use of a null component. -/
def step (inputType : T) (component : Address) (system : InputSystem T F) :
    Option (InputSystem T F) :=
  match system.getOrCreateInputState inputType component with
  | (none, _) => none
  | (some inputState, system) =>
    some { system with
      inputStates := Function.update system.inputStates inputState
        ((system.inputStates inputState).advance system.currentPlatformEventRecord) }

def inputState? (inputType : T) (system : InputSystem T F) : Option InputStateComponent :=
  (system.ecs.getComponents inputType).head?.map system.inputStates

theorem getOrCreateInputState_existing {inputType : T} {system : InputSystem T F}
    {existing : Address} {rest : List Address}
    (h : system.ecs.getComponents inputType = existing :: rest) (component : Address) :
    system.getOrCreateInputState inputType component = (some existing, system) := by
  rw [getOrCreateInputState, h]

theorem getOrCreateInputState_new {inputType : T} {system : InputSystem T F}
    (h : system.ecs.getComponents inputType = []) {component : Address} {ecs : Ecs T}
    (hadded : system.ecs.addEntity.2.addComponentToEntity inputType component
      system.ecs.addEntity.1 = (some component, ecs)) :
    system.getOrCreateInputState inputType component = (some component, { system with
      ecs
      inputStates := Function.update system.inputStates component {} }) := by
  have hcreate : system.getOrCreateInputState inputType component =
      ((system.ecs.addEntity.2.addComponentToEntity inputType component
        system.ecs.addEntity.1).1, { system with
        ecs := (system.ecs.addEntity.2.addComponentToEntity inputType component
          system.ecs.addEntity.1).2
        inputStates := Function.update system.inputStates component {} }) := by
    rw [getOrCreateInputState, h]
  rw [hcreate, hadded]

theorem step_of_state {inputType : T} {component inputState : Address}
    {system held : InputSystem T F}
    (h : system.getOrCreateInputState inputType component = (some inputState, held)) :
    system.step inputType component = some { held with
      inputStates := Function.update held.inputStates inputState
        ((held.inputStates inputState).advance held.currentPlatformEventRecord) } := by
  rw [step, h]

end InputSystem

section Presses
variable {F : Type} [Zero F]

/-- A press of a code; a code of neither range has none. -/
structure IsPressOf (code : InputCode) (event : PlatformEvent F) : Prop where
  carries : event.code = code
  presses : isKeyboardCode code ∧ event.type = .keyPressed ∨
    isPointerCode code ∧ event.type = .pointerButtonPressed

def carrying (code : InputCode) (events : List (PlatformEvent F)) : List (PlatformEvent F) :=
  events.filter fun event => event.code = code

/-- The last event that carries the code is a press. -/
def EndsPressed (code : InputCode) (events : List (PlatformEvent F)) : Prop :=
  ∃ event, (carrying code events).getLast? = some event ∧ IsPressOf code event

theorem keyboard_not_pointer {code : InputCode} (h : isKeyboardCode code) :
    ¬ isPointerCode code := by
  intro hpointer
  rw [isKeyboardCode, Bool.and_eq_true, decide_eq_true_eq, decide_eq_true_eq] at h
  rw [isPointerCode, Bool.and_eq_true, decide_eq_true_eq, decide_eq_true_eq] at hpointer
  have hle := UInt16.le_trans hpointer.1 h.2
  exact absurd hle (by decide)

theorem stateOf_insert (inputMap : InputMap) (code other : InputCode) (state : InputState) :
    InputStateComponent.stateOf (inputMap.insert other state) code =
      if code = other then state else InputStateComponent.stateOf inputMap code := by
  rw [InputStateComponent.stateOf]
  split
  · rename_i hsame
    rw [hsame, AList.lookup_insert]
    rfl
  · rename_i hother
    rw [AList.lookup_insert_ne hother]
    rfl

theorem stateOf_applyEvent_other (inputMap : InputMap) {code : InputCode} {event : PlatformEvent F}
    (h : event.code ≠ code) : InputStateComponent.stateOf (applyEvent inputMap event) code =
      InputStateComponent.stateOf inputMap code := by
  rw [applyEvent]
  split
  · rw [stateOf_insert, if_neg (Ne.symm h)]
  · split
    · rw [stateOf_insert, if_neg (Ne.symm h)]
    · rfl

theorem stateOf_pressed_iff (inputMap : InputMap) (code : InputCode) (press : Prop)
    [Decidable press] :
    InputStateComponent.stateOf
      (inputMap.insert code (if press then .pressed else .released)) code = .pressed ↔ press := by
  rw [stateOf_insert, if_pos rfl]
  constructor
  · intro hstate
    by_contra hother
    rw [if_neg hother] at hstate
    exact InputState.noConfusion hstate
  · exact fun hpress => if_pos hpress

theorem stateOf_applyEvent_own {inputMap : InputMap} {code : InputCode} {event : PlatformEvent F}
    (h : event.code = code) (htracked : isKeyboardCode code ∨ isPointerCode code) :
    InputStateComponent.stateOf (applyEvent inputMap event) code = .pressed ↔
      IsPressOf code event := by
  subst h
  rw [applyEvent]
  split
  · rename_i hkeyboard
    rw [stateOf_pressed_iff]
    constructor
    · exact fun htype => ⟨rfl, Or.inl ⟨hkeyboard, htype⟩⟩
    · intro hpress
      rcases hpress.presses with ⟨_, htype⟩ | ⟨hpointer, _⟩
      · exact htype
      · exact absurd hpointer (keyboard_not_pointer hkeyboard)
  · rename_i hkeyboard
    have hpointer : isPointerCode event.code := htracked.resolve_left hkeyboard
    rw [if_pos hpointer, stateOf_pressed_iff]
    constructor
    · exact fun htype => ⟨rfl, Or.inr ⟨hpointer, htype⟩⟩
    · intro hpress
      rcases hpress.presses with ⟨hkeyboard', _⟩ | ⟨_, htype⟩
      · exact absurd hkeyboard' hkeyboard
      · exact htype

theorem carrying_append (code : InputCode) (before after : List (PlatformEvent F)) :
    carrying code (before ++ after) = carrying code before ++ carrying code after :=
  List.filter_append before after

theorem endsPressed_concat_own {code : InputCode} {event : PlatformEvent F}
    (h : event.code = code) (events : List (PlatformEvent F)) :
    EndsPressed code (events ++ [event]) ↔ IsPressOf code event := by
  have hlast : (carrying code (events ++ [event])).getLast? = some event := by
    rw [carrying_append, carrying, carrying, List.filter_singleton, decide_eq_true h, cond_true,
      List.getLast?_concat]
  rw [EndsPressed, hlast]
  constructor
  · rintro ⟨other, hother, hpress⟩
    rw [Option.some_inj.mp hother]
    exact hpress
  · intro hpress
    exact ⟨event, rfl, hpress⟩

theorem endsPressed_concat_other {code : InputCode} {event : PlatformEvent F}
    (h : event.code ≠ code) (events : List (PlatformEvent F)) :
    EndsPressed code (events ++ [event]) ↔ EndsPressed code events := by
  rw [EndsPressed, carrying_append, carrying, carrying, List.filter_singleton, decide_eq_false h,
    cond_false, List.append_nil]
  rfl

/-- A code of neither range is never pressed. -/
theorem EndsPressed.tracked {code : InputCode} {events : List (PlatformEvent F)}
    (h : EndsPressed code events) : isKeyboardCode code ∨ isPointerCode code := by
  obtain ⟨event, _, hpress⟩ := h
  rcases hpress.presses with ⟨hkeyboard, _⟩ | ⟨hpointer, _⟩
  · exact Or.inl hkeyboard
  · exact Or.inr hpointer

theorem stateOf_foldl (code : InputCode) (events : List (PlatformEvent F)) :
    InputStateComponent.stateOf (events.foldl applyEvent ∅) code = .pressed ↔
      EndsPressed code events := by
  induction events using List.reverseRecOn with
  | nil =>
    constructor
    · exact fun h => InputState.noConfusion h
    · rintro ⟨event, hlast, _⟩
      exact absurd hlast.symm (Option.some_ne_none event)
  | append_singleton events last ih =>
    rw [List.foldl_concat]
    by_cases hcode : last.code = code
    · rw [endsPressed_concat_own hcode]
      by_cases htracked : isKeyboardCode code ∨ isPointerCode code
      · exact stateOf_applyEvent_own hcode htracked
      · have hkeyboard : ¬ isKeyboardCode last.code := hcode ▸ fun h => htracked (Or.inl h)
        have hpointer : ¬ isPointerCode last.code := hcode ▸ fun h => htracked (Or.inr h)
        rw [applyEvent, if_neg hkeyboard, if_neg hpointer, ih]
        constructor
        · exact fun h => absurd h.tracked htracked
        · intro h
          rcases h.presses with h | h
          · exact absurd (Or.inl h.1) htracked
          · exact absurd (Or.inr h.1) htracked
    · rw [stateOf_applyEvent_other _ hcode, endsPressed_concat_other hcode]
      exact ih

end Presses

end PlaygroundEngine
