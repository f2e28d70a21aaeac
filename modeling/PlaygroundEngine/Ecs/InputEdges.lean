import PlaygroundEngine.Ecs.Consistency
import PlaygroundEngine.Ecs.InputSystem
import PlaygroundEngine.Library.Signal

/-!
# Edges over whole runs

Frames of the input system, with the other systems' work on the store between
them. The component replays the records, so what it answers for a code is a
matter of the events alone.
-/

namespace PlaygroundEngine

open Library Reflection
set_option autoImplicit false

section Spares
variable {T : Type} [LinearOrder T]

/-- An operation that neither adds nor destroys a component of the type. -/
def Ecs.Spares (inputType : T) (ecs : Ecs T) : EcsOperation T → Prop
  | .addEntity => True
  | .addComponentToEntity componentType _ _ => componentType ≠ inputType
  | .destroyComponent componentType entity =>
    componentType = inputType → ecs.tryGetComponent inputType entity = none
  | .destroyEntity entity => ecs.tryGetComponent inputType entity = none

theorem Ecs.find?_of_tryGetComponent {ecs : Ecs T} {inputType : T} {entity : Entity}
    (h : ecs.tryGetComponent inputType entity = none) {components : ComponentsByEntity T}
    (hfind : ecs.componentsPerType.find? inputType = some components) :
    components.find? entity.id = none := by
  rw [tryGetComponent, findComponent, componentsOfType, hfind, Option.getD_some,
    Option.map_eq_none_iff] at h
  exact h

theorem Ecs.eraseFromTypes_absent {entity : Entity} {inputType : T} (componentTypes : List T)
    {perType : SortedMap T (ComponentsByEntity T)}
    (h : ∀ components, perType.find? inputType = some components →
      components.find? entity.id = none) :
    (eraseFromTypes entity componentTypes perType).find? inputType = perType.find? inputType := by
  induction componentTypes generalizing perType with
  | nil => rfl
  | cons componentType rest ih =>
    have hstep : (perType.modify componentType (·.erase entity.id)).find? inputType =
        perType.find? inputType := by
      rw [SortedMap.find?_modify]
      split
      · rename_i hsame
        rw [← hsame]
        cases hfind : perType.find? inputType with
        | none => rfl
        | some components =>
          rw [Option.map_some, SortedMap.erase_absent (h components hfind)]
      · rfl
    exact (ih (fun components hfind => h components (hstep ▸ hfind))).trans hstep

theorem Ecs.Spares.componentsOfType {inputType : T} {ecs : Ecs T} {operation : EcsOperation T}
    (h : ecs.Spares inputType operation) :
    (ecs.apply operation).componentsOfType inputType = ecs.componentsOfType inputType := by
  suffices hfind : (ecs.apply operation).componentsPerType.find? inputType =
      ecs.componentsPerType.find? inputType from
    congrArg (fun found => found.getD .empty) hfind
  cases operation with
  | addEntity => rfl
  | addComponentToEntity componentType component entity =>
    rw [apply, addComponentToEntity]
    split
    · rfl
    · exact (SortedMap.find?_insert _ _ _ _).trans (if_neg (Ne.symm h))
  | destroyComponent componentType entity =>
    refine (SortedMap.find?_modify _ _ _ _).trans ?_
    split
    · rename_i hsame
      rw [← hsame]
      cases hfind : ecs.componentsPerType.find? inputType with
      | none => rfl
      | some components =>
        rw [Option.map_some,
          SortedMap.erase_absent (find?_of_tryGetComponent (h hsame.symm) hfind)]
    · rfl
  | destroyEntity entity =>
    rw [apply, destroyEntity]
    split
    · rfl
    · exact eraseFromTypes_absent _ (fun _ => find?_of_tryGetComponent h)

theorem Ecs.getComponents_eq (ecs : Ecs T) (componentType : T) :
    ecs.getComponents componentType = (ecs.getComponentsWithEntities componentType).map (·.2) := by
  rw [getComponents, getComponentsWithEntities, SortedMap.values, List.map_map, List.map_map]
  rfl

theorem Ecs.Spares.getComponentsWithEntities {inputType : T} {ecs : Ecs T}
    {operation : EcsOperation T} (h : ecs.Spares inputType operation) :
    (ecs.apply operation).getComponentsWithEntities inputType =
      ecs.getComponentsWithEntities inputType := by
  rw [Ecs.getComponentsWithEntities, h.componentsOfType]
  rfl

theorem Ecs.addComponent_addEntity {ecs : Ecs T} {inputType : T}
    (hnone : ecs.getComponents inputType = []) (component : Address) :
    ∃ after, ecs.addEntity.2.addComponentToEntity inputType component ecs.addEntity.1 =
        (some component, after) ∧
      after.getComponentsWithEntities inputType = [(ecs.addEntity.1, component)] := by
  have hempty : (ecs.componentsOfType inputType).entries = [] := by
    rw [getComponents, SortedMap.values, List.map_map] at hnone
    exact List.map_eq_nil_iff.mp hnone
  have halive : ∃ components, ecs.addEntity.2.componentsPerEntity.find? ecs.addEntity.1.id =
      some components := by
    refine ⟨_, (SortedMap.find?_tryEmplace _ _ _ _).trans (if_pos rfl)⟩
  obtain ⟨components, halive⟩ := halive
  refine ⟨_, by rw [addComponentToEntity, halive], ?_⟩
  rw [getComponentsWithEntities, componentsOfType, SortedMap.find?_insert, if_pos rfl,
    Option.getD_some]
  show (SortedMap.insertEntry _ _ (ecs.componentsOfType inputType).entries).map _ = _
  rw [hempty]
  rfl

end Spares

section Replay
variable {F : Type} [Zero F]

def eventsOf (records : List (PlatformEventRecord F)) : List (PlatformEvent F) :=
  records.flatMap (·.events)

def stateAfter (records : List (PlatformEventRecord F)) : InputStateComponent :=
  records.foldl InputStateComponent.advance {}

theorem eventsOf_concat (records : List (PlatformEventRecord F)) (record : PlatformEventRecord F) :
    eventsOf (records ++ [record]) = eventsOf records ++ record.events := by
  rw [eventsOf, List.flatMap_append, List.flatMap_singleton]
  rfl

theorem stateAfter_concat (records : List (PlatformEventRecord F))
    (record : PlatformEventRecord F) :
    stateAfter (records ++ [record]) = (stateAfter records).advance record := by
  rw [stateAfter, List.foldl_concat]
  rfl

theorem currentInputMap_stateAfter (records : List (PlatformEventRecord F)) :
    (stateAfter records).currentInputMap = (eventsOf records).foldl applyEvent ∅ := by
  induction records using List.reverseRecOn with
  | nil => rfl
  | append_singleton records record ih =>
    rw [stateAfter_concat, eventsOf_concat, List.foldl_append, ← ih]
    rfl

theorem isPressed_stateAfter (code : InputCode) (records : List (PlatformEventRecord F)) :
    (stateAfter records).isPressed code ↔ EndsPressed code (eventsOf records) := by
  rw [InputStateComponent.isPressed, decide_eq_true_eq, currentInputMap_stateAfter]
  exact stateOf_foldl code (eventsOf records)

theorem decide_released (state : InputState) :
    decide (state = .released) = !decide (state = .pressed) := by
  cases state with
  | released => rfl
  | pressed => rfl

theorem wasPressedThisFrame_concat (code : InputCode) (records : List (PlatformEventRecord F))
    (record : PlatformEventRecord F) :
    (stateAfter (records ++ [record])).wasPressedThisFrame code =
      ((stateAfter (records ++ [record])).isPressed code &&
        !(stateAfter records).isPressed code) := by
  rw [InputStateComponent.wasPressedThisFrame, decide_released, stateAfter_concat]
  rfl

theorem wasReleasedThisFrame_concat (code : InputCode) (records : List (PlatformEventRecord F))
    (record : PlatformEventRecord F) :
    (stateAfter (records ++ [record])).wasReleasedThisFrame code =
      (!(stateAfter (records ++ [record])).isPressed code &&
        (stateAfter records).isPressed code) := by
  rw [InputStateComponent.wasReleasedThisFrame, decide_released, stateAfter_concat]
  rfl

end Replay

/-! ### Runs of frames -/

section Runs
variable {T F : Type} [LinearOrder T] [Zero F]

structure InputFrame (F : Type) [Zero F] where
  record : PlatformEventRecord F
  /-- What the consumers of the frame read. -/
  inputState : InputStateComponent
  /-- The store held no input component, so the step made one. -/
  created : Bool

def recordsOf (history : List (InputFrame F)) : List (PlatformEventRecord F) :=
  history.map (·.record)

/-- A run with the frames it went through. Between two frames the other systems work on the
store, and leave the input component alone. -/
inductive InputRun (inputType : T) : List (InputFrame F) → InputSystem T F → Prop
  | start {system : InputSystem T F} (hnone : system.ecs.getComponents inputType = []) :
    InputRun inputType [] system
  | others {history : List (InputFrame F)} {system : InputSystem T F}
    {operation : EcsOperation T} (hrun : InputRun inputType history system)
    (hspares : system.ecs.Spares inputType operation) :
    InputRun inputType history { system with ecs := system.ecs.apply operation }
  | frame {history : List (InputFrame F)} {system next : InputSystem T F}
    {record : PlatformEventRecord F} {component : Address} {inputState : InputStateComponent}
    (hrun : InputRun inputType history system)
    (hstep : (system.updatePlatformInput record).step inputType component = some next)
    (hread : next.inputState? inputType = some inputState) :
    InputRun inputType
      (history ++ [⟨record, inputState, (system.ecs.getComponents inputType).isEmpty⟩]) next

/-- The one input component is what the records make of a new one. -/
structure Holds (inputType : T) (records : List (PlatformEventRecord F))
    (system : InputSystem T F) (entity : Entity) (component : Address) : Prop where
  sole : system.ecs.getComponentsWithEntities inputType = [(entity, component)]
  state : system.inputStates component = stateAfter records

theorem Holds.getComponents {inputType : T} {records : List (PlatformEventRecord F)}
    {system : InputSystem T F} {entity : Entity} {component : Address}
    (h : Holds inputType records system entity component) :
    system.ecs.getComponents inputType = [component] := by
  rw [Ecs.getComponents_eq, h.sole]
  rfl

theorem Holds.inputState? {inputType : T} {records : List (PlatformEventRecord F)}
    {system : InputSystem T F} {entity : Entity} {component : Address}
    (h : Holds inputType records system entity component) :
    system.inputState? inputType = some (stateAfter records) := by
  rw [InputSystem.inputState?, h.getComponents, ← h.state]
  rfl

theorem Holds.step {inputType : T} {records : List (PlatformEventRecord F)}
    {system : InputSystem T F} {entity : Entity} {component : Address}
    (h : Holds inputType records system entity component) (record : PlatformEventRecord F)
    (made : Address) :
    ∃ next, (system.updatePlatformInput record).step inputType made = some next ∧
      Holds inputType (records ++ [record]) next entity component := by
  have hget := InputSystem.getOrCreateInputState_existing
    (show (system.updatePlatformInput record).ecs.getComponents inputType = [component] from
      h.getComponents) made
  refine ⟨_, InputSystem.step_of_state hget, h.sole, ?_⟩
  show Function.update system.inputStates component _ component = _
  rw [Function.update_self, stateAfter_concat, ← h.state]
  rfl

theorem holds_first {inputType : T} {system : InputSystem T F}
    (hnone : system.ecs.getComponents inputType = []) (record : PlatformEventRecord F)
    (made : Address) :
    ∃ next, (system.updatePlatformInput record).step inputType made = some next ∧
      ∃ entity, Holds inputType [record] next entity made := by
  obtain ⟨ecs, hadded, hsole⟩ := Ecs.addComponent_addEntity hnone made
  have hget := InputSystem.getOrCreateInputState_new
    (show (system.updatePlatformInput record).ecs.getComponents inputType = [] from hnone) hadded
  refine ⟨_, InputSystem.step_of_state hget, system.ecs.addEntity.1, hsole, ?_⟩
  show Function.update (Function.update system.inputStates made {}) made
    ((Function.update system.inputStates made {} made).advance record) made = _
  rw [Function.update_self, Function.update_self]
  rfl

/-- Every frame showed what the records up to it make of a new component. -/
def Replayed (history : List (InputFrame F)) : Prop :=
  ∀ (n : Nat) (frame : InputFrame F), history[n]? = some frame →
    frame.inputState = stateAfter (recordsOf (history.take (n + 1)))

/-- A run holds no component before its first frame, and then the one its records make. -/
structure Replays (inputType : T) (history : List (InputFrame F)) (system : InputSystem T F) :
    Prop where
  fresh : history = [] → system.ecs.getComponents inputType = []
  held : history ≠ [] → ∃ entity component,
    Holds inputType (recordsOf history) system entity component
  states : Replayed history
  creations : history.countP (·.created) ≤ 1

theorem Replays.others {inputType : T} {history : List (InputFrame F)} {system : InputSystem T F}
    (h : Replays inputType history system) {operation : EcsOperation T}
    (hspares : system.ecs.Spares inputType operation) :
    Replays inputType history { system with ecs := system.ecs.apply operation } where
  fresh hnil := by
    have hnone := h.fresh hnil
    rw [Ecs.getComponents_eq] at hnone ⊢
    rw [hspares.getComponentsWithEntities]
    exact hnone
  held hframes := by
    obtain ⟨entity, component, hholds⟩ := h.held hframes
    exact ⟨entity, component, hspares.getComponentsWithEntities.trans hholds.sole, hholds.state⟩
  states := h.states
  creations := h.creations

theorem recordsOf_concat (history : List (InputFrame F)) (frame : InputFrame F) :
    recordsOf (history ++ [frame]) = recordsOf history ++ [frame.record] := by
  rw [recordsOf, List.map_append, List.map_singleton]
  rfl

theorem Replays.next {inputType : T} {history : List (InputFrame F)} {system : InputSystem T F}
    (h : Replays inputType history system) (record : PlatformEventRecord F) (made : Address) :
    ∃ next, (system.updatePlatformInput record).step inputType made = some next ∧
      ∃ entity component,
        Holds inputType (recordsOf history ++ [record]) next entity component := by
  by_cases hnil : history = []
  · obtain ⟨next, hstep, entity, hholds⟩ := holds_first (h.fresh hnil) record made
    rw [hnil]
    exact ⟨next, hstep, entity, made, hholds⟩
  · obtain ⟨entity, component, hholds⟩ := h.held hnil
    obtain ⟨next, hstep, hnext⟩ := hholds.step record made
    exact ⟨next, hstep, entity, component, hnext⟩

theorem Replayed.concat {history : List (InputFrame F)} {last : InputFrame F}
    (h : Replayed history)
    (hlast : last.inputState = stateAfter (recordsOf history ++ [last.record])) :
    Replayed (history ++ [last]) := by
  intro n frame hframe
  by_cases hn : n < history.length
  · rw [List.getElem?_append_left hn] at hframe
    rw [List.take_append_of_le_length hn]
    exact h n frame hframe
  · rw [List.getElem?_append_right (by omega), List.getElem?_singleton] at hframe
    have hend : n - history.length = 0 := by
      by_contra hne
      rw [if_neg hne] at hframe
      exact Option.some_ne_none frame hframe.symm
    rw [if_pos hend] at hframe
    rw [← Option.some_inj.mp hframe, hlast, List.take_of_length_le, recordsOf_concat]
    rw [List.length_append, List.length_singleton]
    omega

theorem InputRun.replays {inputType : T} {history : List (InputFrame F)}
    {system : InputSystem T F} (h : InputRun inputType history system) :
    Replays inputType history system := by
  induction h with
  | start hnone =>
    exact ⟨fun _ => hnone, fun hne => absurd rfl hne,
      fun n frame hframe => absurd hframe.symm (Option.some_ne_none frame),
      Nat.zero_le 1⟩
  | others _ hspares ih => exact ih.others hspares
  | @frame history system next record component inputState _ hstep hread ih =>
    obtain ⟨after, hafter, entity, held, hholds⟩ := ih.next record component
    have hsame := Option.some_inj.mp (hstep.symm.trans hafter)
    subst hsame
    have hstate := Option.some_inj.mp (hread.symm.trans hholds.inputState?)
    refine ⟨fun hnil => absurd hnil (List.append_ne_nil_of_right_ne_nil _ (List.cons_ne_nil _ _)),
      fun _ => ⟨entity, held, ?_⟩, ih.states.concat hstate, ?_⟩
    · rw [recordsOf_concat]
      exact hholds
    · rw [List.countP_append, List.countP_singleton]
      by_cases hnil : history = []
      · rw [hnil, List.countP_nil]
        split <;> omega
      · obtain ⟨_, old, hold⟩ := ih.held hnil
        rw [hold.getComponents]
        exact ih.creations

theorem exists_inputRun (inputType : T) (records : List (PlatformEventRecord F)) :
    ∃ history system, InputRun inputType history system ∧ recordsOf history = records := by
  induction records using List.reverseRecOn with
  | nil => exact ⟨[], {}, InputRun.start rfl, rfl⟩
  | append_singleton records record ih =>
    obtain ⟨history, system, hrun, rfl⟩ := ih
    obtain ⟨next, hstep, _, _, hholds⟩ := hrun.replays.next record 1
    exact ⟨_, next, hrun.frame hstep hholds.inputState?, recordsOf_concat _ _⟩

theorem exists_inputFrame (inputType : T) (record : PlatformEventRecord F) :
    ∃ frame system, InputRun inputType [frame] system ∧ frame.record = record := by
  obtain ⟨history, system, hrun, hrecords⟩ := exists_inputRun inputType [record]
  obtain ⟨frame, rfl, hrecord⟩ := List.map_eq_singleton_iff.mp hrecords
  exact ⟨frame, system, hrun, hrecord⟩

/-- The answer of `isPressed` at the end of the frame before the `n`-th. -/
def pressedBefore (code : InputCode) (history : List (InputFrame F)) : Nat → Bool
  | 0 => false
  | n + 1 => (history[n]?).any (·.inputState.isPressed code)

def edgeOf (code : InputCode) (frame : InputFrame F) : Option Edge :=
  if frame.inputState.wasPressedThisFrame code then some .rising
  else if frame.inputState.wasReleasedThisFrame code then some .falling
  else none

def edgesOf (code : InputCode) (history : List (InputFrame F)) : List Edge :=
  history.filterMap (edgeOf code)

def observed (code : InputCode) (frame : InputFrame F) : Bool × Bool × Bool :=
  (frame.inputState.isPressed code, frame.inputState.wasPressedThisFrame code,
    frame.inputState.wasReleasedThisFrame code)

section Frames
variable {history : List (InputFrame F)} (hstates : Replayed history) (code : InputCode)
include hstates

theorem pressedBefore_eq {n : Nat} (hn : n ≤ history.length) :
    pressedBefore code history n = (stateAfter (recordsOf (history.take n))).isPressed code := by
  cases n with
  | zero => rfl
  | succ n =>
    have hframe := List.getElem?_eq_getElem (show n < history.length from hn)
    rw [pressedBefore, hframe, Option.any_some, hstates n _ hframe]

theorem pressedBefore_iff {n : Nat} (hn : n ≤ history.length) :
    pressedBefore code history n ↔ EndsPressed code (eventsOf (recordsOf (history.take n))) := by
  rw [pressedBefore_eq hstates code hn]
  exact isPressed_stateAfter code _

theorem inputState_concat {n : Nat} {frame : InputFrame F} (hframe : history[n]? = some frame) :
    frame.inputState = stateAfter (recordsOf (history.take n) ++ [frame.record]) := by
  rw [hstates n frame hframe, List.take_add_one, hframe, Option.toList_some, recordsOf_concat]

omit hstates in
theorem isPressed_frame {n : Nat} {frame : InputFrame F} (hframe : history[n]? = some frame) :
    frame.inputState.isPressed code = pressedBefore code history (n + 1) := by
  rw [pressedBefore, hframe, Option.any_some]

theorem wasPressed_frame {n : Nat} {frame : InputFrame F} (hframe : history[n]? = some frame) :
    frame.inputState.wasPressedThisFrame code =
      (pressedBefore code history (n + 1) && !pressedBefore code history n) := by
  have hn := (List.getElem?_eq_some_iff.mp hframe).1
  rw [← isPressed_frame code hframe, pressedBefore_eq hstates code (Nat.le_of_lt hn),
    inputState_concat hstates hframe]
  exact wasPressedThisFrame_concat code _ _

theorem wasReleased_frame {n : Nat} {frame : InputFrame F} (hframe : history[n]? = some frame) :
    frame.inputState.wasReleasedThisFrame code =
      (!pressedBefore code history (n + 1) && pressedBefore code history n) := by
  have hn := (List.getElem?_eq_some_iff.mp hframe).1
  rw [← isPressed_frame code hframe, pressedBefore_eq hstates code (Nat.le_of_lt hn),
    inputState_concat hstates hframe]
  exact wasReleasedThisFrame_concat code _ _

theorem edgeOf_frame {n : Nat} {frame : InputFrame F} (hframe : history[n]? = some frame) :
    edgeOf code frame =
      edge (pressedBefore code history n) (pressedBefore code history (n + 1)) := by
  rw [edgeOf, wasPressed_frame hstates code hframe, wasReleased_frame hstates code hframe]
  cases pressedBefore code history n with
  | false =>
    cases pressedBefore code history (n + 1) with
    | false => rfl
    | true => rfl
  | true =>
    cases pressedBefore code history (n + 1) with
    | false => rfl
    | true => rfl

theorem tracks_edgesOf_take {n : Nat} (hn : n ≤ history.length) :
    Tracks (edgesOf code (history.take n)) (pressedBefore code history n) := by
  induction n with
  | zero => exact Tracks.nil
  | succ n ih =>
    have hframe := List.getElem?_eq_getElem (show n < history.length from hn)
    have hedge : (edgeOf code history[n]).toList = [history[n]].filterMap (edgeOf code) := by
      rw [List.filterMap_cons]
      cases edgeOf code history[n] <;> rfl
    rw [List.take_add_one, hframe, Option.toList_some, edgesOf, List.filterMap_append, ← hedge,
      edgeOf_frame hstates code hframe]
    exact (ih (Nat.le_of_succ_le hn)).step _

end Frames

theorem carrying_eventsOf (code : InputCode) (history : List (InputFrame F)) (n : Nat) :
    carrying code (eventsOf (recordsOf (history.take n))) =
      ((history.map fun frame => carrying code frame.record.events).take n).flatten := by
  rw [← List.map_take, eventsOf, recordsOf, List.flatMap_map, carrying, List.filter_flatMap,
    List.flatMap_def]
  rfl

theorem observed_congr {history other : List (InputFrame F)} (hstates : Replayed history)
    (hother : Replayed other) {code : InputCode}
    (hsame : (history.map fun frame => carrying code frame.record.events) =
      other.map fun frame => carrying code frame.record.events) :
    history.map (observed code) = other.map (observed code) := by
  have hlength : history.length = other.length := by
    have hlength := congrArg List.length hsame
    rw [List.length_map, List.length_map] at hlength
    exact hlength
  have hlevel : ∀ n ≤ history.length,
      pressedBefore code history n = pressedBefore code other n := by
    intro n hn
    rw [Bool.eq_iff_iff, pressedBefore_iff hstates code hn,
      pressedBefore_iff hother code (hlength ▸ hn), EndsPressed, EndsPressed, carrying_eventsOf,
      carrying_eventsOf, hsame]
  apply List.ext_getElem
  · rw [List.length_map, List.length_map, hlength]
  · intro n hn hn'
    rw [List.length_map] at hn hn'
    rw [List.getElem_map, List.getElem_map]
    have hframe := List.getElem?_eq_getElem hn
    have hframe' := List.getElem?_eq_getElem hn'
    rw [observed, observed, isPressed_frame code hframe, isPressed_frame code hframe',
      wasPressed_frame hstates code hframe, wasPressed_frame hother code hframe',
      wasReleased_frame hstates code hframe, wasReleased_frame hother code hframe',
      hlevel n (Nat.le_of_lt hn), hlevel (n + 1) hn]

structure EdgesPair (inputType : T) (code : InputCode) (history : List (InputFrame F))
    (system : InputSystem T F) : Prop where
  steps : ∀ (record : PlatformEventRecord F) (component : Address), ∃ next inputState,
    (system.updatePlatformInput record).step inputType component = some next ∧
      next.inputState? inputType = some inputState
  pressed : ∀ (n : Nat) (frame : InputFrame F), history[n]? = some frame →
    (frame.inputState.isPressed code ↔
      EndsPressed code (eventsOf (recordsOf (history.take (n + 1)))))
  exclusive : ∀ frame ∈ history, ¬ (frame.inputState.wasPressedThisFrame code ∧
    frame.inputState.wasReleasedThisFrame code)
  pressEdge : ∀ (n : Nat) (frame : InputFrame F), history[n]? = some frame →
    (frame.inputState.wasPressedThisFrame code ↔
      ¬ pressedBefore code history n ∧ frame.inputState.isPressed code)
  releaseEdge : ∀ (n : Nat) (frame : InputFrame F), history[n]? = some frame →
    (frame.inputState.wasReleasedThisFrame code ↔
      pressedBefore code history n ∧ ¬ frame.inputState.isPressed code)
  edges : Tracks (edgesOf code history) (pressedBefore code history history.length)
  unaffected : ∀ (other : List (InputFrame F)) (otherSystem : InputSystem T F),
    InputRun inputType other otherSystem →
    (other.map fun frame => carrying code frame.record.events) =
      (history.map fun frame => carrying code frame.record.events) →
    other.map (observed code) = history.map (observed code)
  creations : history.countP (·.created) ≤ 1
  components : (system.ecs.getComponents inputType).length ≤ 1

/-- In every run the edges of every code pair up and match the events that carry it. -/
theorem InputRun.edgesPair {inputType : T} {history : List (InputFrame F)}
    {system : InputSystem T F} (h : InputRun inputType history system) (code : InputCode) :
    EdgesPair inputType code history system := by
  have hreplays := h.replays
  refine ⟨?_, ?_, ?_, ?_, ?_, ?_, ?_, hreplays.creations, ?_⟩
  · intro record component
    obtain ⟨next, hstep, entity, held, hholds⟩ := hreplays.next record component
    exact ⟨next, _, hstep, hholds.inputState?⟩
  · intro n frame hframe
    rw [isPressed_frame code hframe]
    exact pressedBefore_iff hreplays.states code (List.getElem?_eq_some_iff.mp hframe).1
  · intro frame hmem
    obtain ⟨n, hframe⟩ := List.getElem?_of_mem hmem
    rw [wasPressed_frame hreplays.states code hframe,
      wasReleased_frame hreplays.states code hframe, Bool.and_eq_true, Bool.and_eq_true,
      Bool.not_eq_true', Bool.not_eq_true']
    intro hboth
    exact Bool.false_ne_true (hboth.2.1.symm.trans hboth.1.1)
  · intro n frame hframe
    rw [wasPressed_frame hreplays.states code hframe, isPressed_frame code hframe,
      Bool.and_eq_true, Bool.not_eq_true', Bool.not_eq_true]
    exact And.comm
  · intro n frame hframe
    rw [wasReleased_frame hreplays.states code hframe, isPressed_frame code hframe,
      Bool.and_eq_true, Bool.not_eq_true', Bool.not_eq_true]
    exact And.comm
  · have htracks := tracks_edgesOf_take hreplays.states code (Nat.le_refl history.length)
    rw [List.take_length] at htracks
    exact htracks
  · intro other otherSystem hother hsame
    exact observed_congr hother.replays.states hreplays.states hsame
  · by_cases hnil : history = []
    · rw [hreplays.fresh hnil]
      exact Nat.zero_le 1
    · obtain ⟨entity, component, hholds⟩ := hreplays.held hnil
      rw [hholds.getComponents]
      exact Nat.le_refl 1

def keyDown : PlatformEvent Int := { type := .keyPressed, code := ⟨23⟩ }

def keyUp : PlatformEvent Int := { type := .keyReleased, code := ⟨23⟩ }

def tapRecords : List (PlatformEventRecord Int) := [⟨[keyDown]⟩, ⟨[keyUp]⟩]

theorem edgesPair_tap : ∃ (history : List (InputFrame Int)) (system : InputSystem Nat Int),
    recordsOf history = tapRecords ∧ EdgesPair 0 ⟨23⟩ history system := by
  obtain ⟨history, system, hrun, hrecords⟩ := exists_inputRun 0 tapRecords
  exact ⟨history, system, hrecords, hrun.edgesPair ⟨23⟩⟩

end Runs

end PlaygroundEngine
