import PlaygroundEngine.Game.SpawnerLine
import PlaygroundEngine.MeshSync

/-!
# The spawner keeps in step with its line

Identifiers of the entities ascend in the order of their spawning, so each occurs once in the
queue. Forgetting late then shows nowhere, and no call breaks a contract of the store.
-/

namespace PlaygroundGame

open PlaygroundEngine Library Reflection
set_option autoImplicit false

variable {T F : Type} [LinearOrder T]

section Store

variable {ecs : Ecs T}

theorem isEntityAlive_addComponent (ecs : Ecs T) (t : T) (component : Address)
    (entity other : Entity) :
    (ecs.apply (.addComponentToEntity t component entity)).isEntityAlive other =
      ecs.isEntityAlive other := by
  cases halive : ecs.componentsPerEntity.find? entity.id with
  | none => rw [Ecs.apply, Ecs.addComponentToEntity_dead t component halive]
  | some components => exact Ecs.isEntityAlive_addComponent t component halive other

theorem addComponentToEntity_fst {entity : Entity} (halive : ecs.isEntityAlive entity = true)
    (t : T) (component : Address) :
    (ecs.addComponentToEntity t component entity).1 = some component := by
  rw [Ecs.isEntityAlive_iff] at halive
  obtain ⟨components, hfind⟩ := Option.isSome_iff_exists.mp halive
  rw [Ecs.addComponentToEntity, hfind]

theorem tryGetComponent_addComponent (ecs : Ecs T) {t t' : T} {entity other : Entity}
    (hne : t' = t → other.id ≠ entity.id) (component : Address) :
    (ecs.apply (.addComponentToEntity t component entity)).tryGetComponent t' other =
      ecs.tryGetComponent t' other := by
  cases halive : ecs.componentsPerEntity.find? entity.id with
  | none => rw [Ecs.apply, Ecs.addComponentToEntity_dead t component halive]
  | some components =>
    rw [Ecs.tryGetComponent, Ecs.tryGetComponent, Ecs.findComponent_eq, Ecs.findComponent_eq,
      Ecs.apply, Ecs.recordByType_addComponent t component halive, if_neg (fun h => hne h.1 h.2)]

section AddEntity

variable (hecs : Ecs.Consistent ecs) (hroom : ecs.lastEntityId < 2 ^ 31 - 1)
include hecs hroom

theorem addEntity_fst : ecs.addEntity.1 = ⟨ecs.lastEntityId + 1⟩ :=
  congrArg Entity.mk (Ecs.lastEntityId_addEntity hecs hroom)

theorem isEntityAlive_addEntity (other : Entity) :
    (ecs.apply .addEntity).isEntityAlive other =
      (decide (other = ecs.addEntity.1) || ecs.isEntityAlive other) := by
  have hfind := Ecs.find?_addEntity hecs hroom other.id
  have hsame : other = ecs.addEntity.1 ↔ other.id = ecs.lastEntityId + 1 := by
    rw [addEntity_fst hecs hroom]
    constructor
    · rintro rfl
      rfl
    · exact fun h => congrArg Entity.mk h
  rw [Bool.eq_iff_iff, Bool.or_eq_true, decide_eq_true_eq, hsame, Ecs.isEntityAlive_iff,
    Ecs.isEntityAlive_iff, Ecs.apply, hfind]
  split
  · rename_i hid
    simp [hid]
  · rename_i hid
    simp [hid]

theorem added_alive : (ecs.apply .addEntity).isEntityAlive ecs.addEntity.1 = true := by
  rw [isEntityAlive_addEntity hecs hroom, decide_eq_true rfl, Bool.true_or]

theorem tryGetComponent_addEntity (t : T) :
    (ecs.apply .addEntity).tryGetComponent t ecs.addEntity.1 = none := by
  have hcell := (Ecs.transposed_addEntity hecs.transposed) t (ecs.lastEntityId + 1)
  rw [Ecs.recordByEntity, Ecs.find?_addEntity hecs hroom, if_pos rfl] at hcell
  rw [Ecs.tryGetComponent, Ecs.findComponent_eq, addEntity_fst hecs hroom, Ecs.apply, hcell]
  rfl

end AddEntity

end Store

section Spawned

variable [FloatNumber F] [IntCast F] (types : ComponentTypes T) (objects : SpawnObjects)
  (ordinal : Nat) {scene : Scene T F}

def namedStore (ecs : Ecs T) : Ecs T :=
  (ecs.apply .addEntity).apply
    (.addComponentToEntity types.entityName objects.name ecs.addEntity.1)

def placedStore (ecs : Ecs T) : Ecs T :=
  (namedStore types objects ecs).apply
    (.addComponentToEntity types.transform objects.transform ecs.addEntity.1)

def spawnedCalls (ecs : Ecs T) : List (Ecs T × EcsOperation T) :=
  [(ecs, .addEntity),
    (ecs.apply .addEntity,
      .addComponentToEntity types.entityName objects.name ecs.addEntity.1),
    (namedStore types objects ecs,
      .addComponentToEntity types.transform objects.transform ecs.addEntity.1),
    (placedStore types objects ecs,
      .addComponentToEntity types.mesh objects.mesh ecs.addEntity.1)]

theorem spawned_calls (scene : Scene T F) :
    (scene.spawned types objects ordinal).calls =
      scene.calls ++ spawnedCalls types objects scene.ecs := by
  simp only [Scene.spawned, Scene.call, Scene.setName, Scene.setTransform, List.append_assoc]
  rfl

theorem spawned_ecs (scene : Scene T F) :
    (scene.spawned types objects ordinal).ecs =
      (placedStore types objects scene.ecs).apply
        (.addComponentToEntity types.mesh objects.mesh scene.ecs.addEntity.1) := rfl

theorem spawned_getComponents (scene : Scene T F) :
    (scene.spawned types objects ordinal).ecs.getComponentsWithEntities types.inputState =
      scene.ecs.getComponentsWithEntities types.inputState := by
  obtain ⟨hinput, _⟩ := List.nodup_cons.mp types.distinct
  have hother : ∀ (ecs : Ecs T) {t : T} (component : Address) (entity : Entity),
      t ∈ [types.entityName, types.transform, types.mesh] →
      (ecs.apply (.addComponentToEntity t component entity)).getComponentsWithEntities
        types.inputState = ecs.getComponentsWithEntities types.inputState := by
    intro ecs t component entity hmem
    have hspares : ecs.Spares types.inputState (.addComponentToEntity t component entity) :=
      fun heq => hinput (heq ▸ hmem)
    exact hspares.getComponentsWithEntities
  rw [spawned_ecs, hother _ _ _ (by simp), placedStore, hother _ _ _ (by simp), namedStore,
    hother _ _ _ (by simp)]
  rfl

variable (hecs : Ecs.Consistent scene.ecs) (hroom : scene.ecs.lastEntityId < 2 ^ 31 - 1)
include hecs hroom

theorem spawned_alive (other : Entity) :
    (scene.spawned types objects ordinal).ecs.isEntityAlive other =
      (decide (other = scene.ecs.addEntity.1) || scene.ecs.isEntityAlive other) := by
  rw [spawned_ecs, isEntityAlive_addComponent, placedStore, isEntityAlive_addComponent,
    namedStore, isEntityAlive_addComponent, isEntityAlive_addEntity hecs hroom]

theorem spawned_lastEntityId :
    (scene.spawned types objects ordinal).ecs.lastEntityId = scene.ecs.lastEntityId + 1 := by
  rw [spawned_ecs, Ecs.lastEntityId_apply _ (by simp), placedStore,
    Ecs.lastEntityId_apply _ (by simp), namedStore, Ecs.lastEntityId_apply _ (by simp)]
  exact Ecs.lastEntityId_addEntity hecs hroom

theorem spawned_consistent : Ecs.Consistent (scene.spawned types objects ordinal).ecs := by
  have hadded := Ecs.consistent_apply hecs .addEntity fun _ => hroom
  have hnamed := Ecs.consistent_apply hadded
    (.addComponentToEntity types.entityName objects.name scene.ecs.addEntity.1) (by simp)
  have hplaced := Ecs.consistent_apply hnamed
    (.addComponentToEntity types.transform objects.transform scene.ecs.addEntity.1) (by simp)
  exact Ecs.consistent_apply hplaced
    (.addComponentToEntity types.mesh objects.mesh scene.ecs.addEntity.1) (by simp)

omit [FloatNumber F] [IntCast F] in
theorem named_alive :
    (namedStore types objects scene.ecs).isEntityAlive scene.ecs.addEntity.1 = true := by
  rw [namedStore, isEntityAlive_addComponent]
  exact added_alive hecs hroom

omit [FloatNumber F] [IntCast F] in
theorem spawnedCalls_withinContract :
    ∀ call ∈ spawnedCalls types objects scene.ecs, WithinContract call.1 call.2 := by
  have hnone := tryGetComponent_addEntity hecs hroom
  obtain ⟨_, hdistinct⟩ := List.nodup_cons.mp types.distinct
  obtain ⟨hname, hdistinct⟩ := List.nodup_cons.mp hdistinct
  obtain ⟨htransform, _⟩ := List.nodup_cons.mp hdistinct
  have hnamed : ∀ t, t ∈ [types.transform, types.mesh] →
      (namedStore types objects scene.ecs).tryGetComponent t scene.ecs.addEntity.1 = none := by
    intro t hmem
    have hne : t ≠ types.entityName := fun heq => hname (heq ▸ hmem)
    rw [namedStore, tryGetComponent_addComponent _ (fun heq => absurd heq hne)]
    exact hnone t
  intro call hcall
  simp only [spawnedCalls, List.mem_cons, List.not_mem_nil, or_false] at hcall
  rcases hcall with rfl | rfl | rfl | rfl
  · trivial
  · exact ⟨added_alive hecs hroom, hnone types.entityName⟩
  · exact ⟨named_alive types objects hecs hroom, hnamed types.transform (by simp)⟩
  · refine ⟨?_, ?_⟩
    · rw [placedStore, isEntityAlive_addComponent]
      exact named_alive types objects hecs hroom
    · have hne : types.mesh ≠ types.transform := fun heq => htransform (by simp [heq])
      rw [placedStore, tryGetComponent_addComponent _ (fun heq => absurd heq hne)]
      exact hnamed types.mesh (by simp)

theorem spawnEntity_eq {system : EntitySpawnerSystem}
    (hcount : system.spawnCount = (ordinal : Int)) (hsmall : (ordinal : Int) < 2 ^ 31 - 1) :
    system.spawnEntity types objects scene =
      some ({
        spawnedEntities := system.spawnedEntities ++ [scene.ecs.addEntity.1]
        spawnCount := (ordinal + 1 : Nat) }, scene.spawned types objects (ordinal + 1)) := by
  have hwrap : Ecs.wrapInt32 (system.spawnCount + 1) = ((ordinal + 1 : Nat) : Int) := by
    rw [hcount, Ecs.wrapInt32_of_lt (by omega) (by omega)]
    rfl
  have hname := addComponentToEntity_fst (added_alive hecs hroom) types.entityName objects.name
  have htransform := addComponentToEntity_fst (named_alive types objects hecs hroom)
    types.transform objects.transform
  rw [namedStore] at htransform
  unfold EntitySpawnerSystem.spawnEntity
  simp only [Scene.addEntity, Scene.addComponentToEntity, Scene.call, Scene.setName, hwrap, hname,
    htransform]
  rfl

end Spawned

section Sound

variable [Zero F]

/-- The invariant of the line, whatever the spawner's queue looks like. -/
structure Sound (types : ComponentTypes T) (line : Line T F) : Prop where
  consistent : Ecs.Consistent line.scene.ecs
  counted : (line.spawned.length : Int) ≤ line.scene.ecs.lastEntityId
  ascending : line.spawned.Pairwise fun a b => a.id < b.id
  issued : ∀ entity ∈ line.spawned, 1 ≤ entity.id ∧ entity.id ≤ line.scene.ecs.lastEntityId
  fresh : line.records = [] → line.scene.ecs.getComponents types.inputState = []
  held : line.records ≠ [] → ∃ entity component, Holds types.inputState line.records
    ⟨line.scene.ecs, line.scene.inputStates, {}⟩ entity component
  apart : ∀ entity ∈ line.spawned,
    line.scene.ecs.tryGetComponent types.inputState entity = none
  contract : ∀ call ∈ line.scene.calls, WithinContract call.1 call.2
  own : ∀ call ∈ line.scene.calls, ∀ entity, target call.2 = some entity → entity ∈ line.spawned
  waits : line.waiting.Sublist line.spawned
  alive : ∀ entity ∈ line.waiting, line.scene.ecs.isEntityAlive entity = true

/-- The store at the start of the game has no input component, and the spawner has not run. -/
structure Begun (types : ComponentTypes T) (start : Scene T F) : Prop where
  consistent : Ecs.Consistent start.ecs
  noInput : start.ecs.getComponents types.inputState = []
  noCalls : start.calls = []

variable {types : ComponentTypes T}

theorem Begun.sound {start : Scene T F} (h : Begun types start) :
    Sound types ({ scene := start } : Line T F) where
  consistent := h.consistent
  counted := h.consistent.lastEntityId_nonneg
  ascending := List.Pairwise.nil
  issued _ hmem := absurd hmem List.not_mem_nil
  fresh _ := h.noInput
  held hne := absurd rfl hne
  apart _ hmem := absurd hmem List.not_mem_nil
  contract _ hcall := absurd (h.noCalls ▸ hcall) List.not_mem_nil
  own _ hcall := absurd (h.noCalls ▸ hcall) List.not_mem_nil
  waits := List.Sublist.refl []
  alive _ hmem := absurd hmem List.not_mem_nil

theorem step_ecs {inputType : T} {system next : InputSystem T F} {made : Address}
    (h : system.step inputType made = some next) :
    next.ecs = system.ecs ∨ next.ecs = (system.ecs.apply .addEntity).apply
      (.addComponentToEntity inputType made system.ecs.addEntity.1) := by
  cases hget : system.ecs.getComponents inputType with
  | nil =>
    obtain ⟨ecs, hadded, _⟩ := Ecs.addComponent_addEntity hget made
    rw [InputSystem.step_of_state (InputSystem.getOrCreateInputState_new hget hadded)] at h
    rw [← Option.some_inj.mp h]
    exact Or.inr (congrArg Prod.snd hadded).symm
  | cons existing rest =>
    rw [InputSystem.step_of_state (InputSystem.getOrCreateInputState_existing hget made)] at h
    rw [← Option.some_inj.mp h]
    exact Or.inl rfl

theorem getComponents_congr {before after : Ecs T} {t : T}
    (h : after.getComponentsWithEntities t = before.getComponentsWithEntities t) :
    after.getComponents t = before.getComponents t := by
  rw [Ecs.getComponents_eq, Ecs.getComponents_eq, h]

theorem tryGetComponent_none_congr {before after : Ecs T} {t : T}
    (h : after.getComponentsWithEntities t = before.getComponentsWithEntities t) {entity : Entity}
    (hnone : before.tryGetComponent t entity = none) :
    after.tryGetComponent t entity = none := by
  refine Option.eq_none_iff_forall_ne_some.mpr fun component hsome => ?_
  have hmem := (Ecs.mem_getComponentsWithEntities _ _ _ _).mpr hsome
  rw [h, Ecs.mem_getComponentsWithEntities, hnone] at hmem
  exact Option.some_ne_none component hmem.symm

/-- A new entity that is given one component leaves the others as they were. -/
structure Grows (before after : Ecs T) : Prop where
  consistent : Ecs.Consistent after
  lastEntityId : before.lastEntityId ≤ after.lastEntityId
  lastEntityId_le : after.lastEntityId ≤ before.lastEntityId + 1
  alive : ∀ entity, entity.id ≤ before.lastEntityId →
    after.isEntityAlive entity = before.isEntityAlive entity
  components : ∀ t entity, entity.id ≤ before.lastEntityId →
    after.tryGetComponent t entity = before.tryGetComponent t entity

theorem Grows.refl {ecs : Ecs T} (h : Ecs.Consistent ecs) : Grows ecs ecs :=
  ⟨h, Int.le_refl _, by omega, fun _ _ => rfl, fun _ _ _ => rfl⟩

theorem grows_addEntity {ecs : Ecs T} (hecs : Ecs.Consistent ecs)
    (hroom : ecs.lastEntityId < 2 ^ 31 - 1) (t : T) (component : Address) :
    Grows ecs ((ecs.apply .addEntity).apply
      (.addComponentToEntity t component ecs.addEntity.1)) := by
  have hlast : ((ecs.apply .addEntity).apply
      (.addComponentToEntity t component ecs.addEntity.1)).lastEntityId = ecs.lastEntityId + 1 := by
    rw [Ecs.lastEntityId_apply _ (by simp)]
    exact Ecs.lastEntityId_addEntity hecs hroom
  have hother : ∀ entity : Entity, entity.id ≤ ecs.lastEntityId → entity ≠ ecs.addEntity.1 := by
    rintro entity hissued rfl
    rw [addEntity_fst hecs hroom] at hissued
    simp only at hissued
    omega
  refine ⟨Ecs.consistent_apply (Ecs.consistent_apply hecs .addEntity fun _ => hroom) _ (by simp),
    by omega, by omega, ?_, ?_⟩
  · intro entity hissued
    rw [isEntityAlive_addComponent, isEntityAlive_addEntity hecs hroom,
      decide_eq_false (hother entity hissued), Bool.false_or]
  · intro t' entity hissued
    have hne : entity.id ≠ ecs.addEntity.1.id := fun heq =>
      hother entity hissued (congrArg Entity.mk heq)
    exact tryGetComponent_addComponent _ (fun _ => hne) component

theorem grows_step {ecs : Ecs T} {inputStates : Address → InputStateComponent}
    {record : PlatformEventRecord F} {inputType : T} {made : Address} {next : InputSystem T F}
    (hecs : Ecs.Consistent ecs) (hroom : ecs.lastEntityId < 2 ^ 31 - 1)
    (h : (InputSystem.mk ecs inputStates record).step inputType made = some next) :
    Grows ecs next.ecs := by
  rcases step_ecs h with hsame | hmade
  · rw [hsame]
    exact Grows.refl hecs
  · rw [hmade]
    exact grows_addEntity hecs hroom inputType made

theorem Sound.exists_step {line : Line T F} (h : Sound types line)
    (record : PlatformEventRecord F) (made : Address) :
    ∃ next, (InputSystem.mk line.scene.ecs line.scene.inputStates record).step types.inputState
        made = some next ∧
      ∃ entity component, Holds types.inputState (line.records ++ [record]) next entity
        component := by
  by_cases hnil : line.records = []
  · obtain ⟨next, hstep, entity, hholds⟩ := holds_first
      (show (InputSystem.mk line.scene.ecs line.scene.inputStates {}).ecs.getComponents
        types.inputState = [] from h.fresh hnil) record made
    rw [hnil]
    exact ⟨next, hstep, entity, made, hholds⟩
  · obtain ⟨entity, component, hholds⟩ := h.held hnil
    obtain ⟨next, hstep, hnext⟩ := hholds.step record made
    exact ⟨next, hstep, entity, component, hnext⟩

theorem Sound.read {line : Line T F} (h : Sound types line)
    (hroom : line.scene.ecs.lastEntityId < 2 ^ 31 - 1) (record : PlatformEventRecord F)
    (inputObject : Address) :
    ∃ scene, line.scene.input types inputObject record = some scene ∧
      Sound types { line with scene, records := line.records ++ [record] } ∧
      Grows line.scene.ecs scene.ecs ∧
      ∃ first, scene.ecs.getComponents types.inputState = [first] ∧
        scene.inputStates first = stateAfter (line.records ++ [record]) := by
  obtain ⟨next, hstep, entity, component, hholds⟩ := h.exists_step record inputObject
  have hgrows := grows_step h.consistent hroom hstep
  refine ⟨{ line.scene with ecs := next.ecs, inputStates := next.inputStates }, ?_, ?_, hgrows,
    component, hholds.getComponents, hholds.state⟩
  · exact congrArg (Option.map _) hstep
  · exact {
      consistent := hgrows.consistent
      counted := Int.le_trans h.counted hgrows.lastEntityId
      ascending := h.ascending
      issued := fun other hmem =>
        ⟨(h.issued other hmem).1, Int.le_trans (h.issued other hmem).2 hgrows.lastEntityId⟩
      fresh := fun hnil => absurd hnil (by simp)
      held := fun _ => ⟨entity, component, hholds.sole, hholds.state⟩
      apart := fun other hmem =>
        (hgrows.components _ other (h.issued other hmem).2).trans (h.apart other hmem)
      contract := h.contract
      own := h.own
      waits := h.waits
      alive := fun other hmem =>
        (hgrows.alive other (h.issued other (h.waits.subset hmem)).2).trans (h.alive other hmem) }

theorem Sound.spawn [FloatNumber F] [IntCast F] {line : Line T F} (h : Sound types line)
    (hroom : line.scene.ecs.lastEntityId < 2 ^ 31 - 1) (objects : SpawnObjects) :
    Sound types (line.spawn types objects) := by
  have hnew := addEntity_fst h.consistent hroom
  have hlast := spawned_lastEntityId types objects (line.spawned.length + 1) h.consistent hroom
  have halive := spawned_alive types objects (line.spawned.length + 1) h.consistent hroom
  have hcomponents := spawned_getComponents types objects (line.spawned.length + 1) line.scene
  have hlow := h.consistent.lastEntityId_nonneg
  have hcounted := h.counted
  have hcalls : (line.spawn types objects).scene.calls =
      line.scene.calls ++ spawnedCalls types objects line.scene.ecs :=
    spawned_calls types objects _ line.scene
  have hissued : ∀ entity ∈ line.spawned ++ [line.scene.ecs.addEntity.1], 1 ≤ entity.id ∧
      entity.id ≤ line.scene.ecs.lastEntityId + 1 := by
    intro entity hmem
    rcases List.mem_append.mp hmem with hold | hmade
    · have hbound := h.issued entity hold
      omega
    · rw [List.mem_singleton.mp hmade, hnew]
      simp only
      omega
  refine ⟨spawned_consistent types objects _ h.consistent hroom, ?_, ?_, ?_, ?_, ?_, ?_, ?_, ?_,
    h.waits.append (List.Sublist.refl _), ?_⟩
  · show ((line.spawned ++ [line.scene.ecs.addEntity.1]).length : Int) ≤
      (line.scene.spawned types objects _).ecs.lastEntityId
    rw [hlast, List.length_append, List.length_singleton]
    omega
  · refine List.pairwise_append.mpr ⟨h.ascending, List.pairwise_singleton _ _, ?_⟩
    intro a ha b hb
    have hbound := (h.issued a ha).2
    rw [List.mem_singleton.mp hb, hnew]
    simp only
    omega
  · intro entity hmem
    show _ ∧ entity.id ≤ (line.scene.spawned types objects _).ecs.lastEntityId
    rw [hlast]
    exact hissued entity hmem
  · exact fun hnil => (getComponents_congr hcomponents).trans (h.fresh hnil)
  · intro hne
    obtain ⟨entity, component, hholds⟩ := h.held hne
    exact ⟨entity, component, hcomponents.trans hholds.sole, hholds.state⟩
  · intro entity hmem
    refine tryGetComponent_none_congr hcomponents ?_
    rcases List.mem_append.mp hmem with hold | hmade
    · exact h.apart entity hold
    · rw [List.mem_singleton.mp hmade]
      exact tryGetComponent_addEntity h.consistent hroom types.inputState
  · intro call hcall
    rw [hcalls] at hcall
    rcases List.mem_append.mp hcall with hold | hnewCall
    · exact h.contract call hold
    · exact spawnedCalls_withinContract types objects h.consistent hroom call hnewCall
  · intro call hcall entity htarget
    rw [hcalls] at hcall
    rcases List.mem_append.mp hcall with hold | hnewCall
    · exact List.mem_append_left _ (h.own call hold entity htarget)
    · simp only [spawnedCalls, List.mem_cons, List.not_mem_nil, or_false] at hnewCall
      rcases hnewCall with rfl | rfl | rfl | rfl <;> cases htarget
  · intro entity hmem
    refine (halive entity).trans ?_
    rcases List.mem_append.mp hmem with hold | hmade
    · rw [h.alive entity hold, Bool.or_true]
    · rw [List.mem_singleton.mp hmade, decide_eq_true rfl, Bool.true_or]

theorem Sound.apply {line : Line T F} (h : Sound types line) {operation : EcsOperation T}
    (hspares : line.scene.ecs.Spares types.inputState operation)
    (hroom : operation = .addEntity → line.scene.ecs.lastEntityId < 2 ^ 31 - 1)
    {calls : List (Ecs T × EcsOperation T)} {waiting : List Entity}
    (hcontract : ∀ call ∈ calls, WithinContract call.1 call.2)
    (hown : ∀ call ∈ calls, ∀ entity, target call.2 = some entity → entity ∈ line.spawned)
    (hwaits : waiting.Sublist line.spawned)
    (halive : ∀ entity ∈ waiting, (line.scene.ecs.apply operation).isEntityAlive entity = true) :
    Sound types { line with
      scene := { line.scene with ecs := line.scene.ecs.apply operation, calls }, waiting } := by
  have hcomponents := hspares.getComponentsWithEntities
  have hlast : line.scene.ecs.lastEntityId ≤ (line.scene.ecs.apply operation).lastEntityId := by
    by_cases hadd : operation = .addEntity
    · have hnext := Ecs.lastEntityId_addEntity h.consistent (hroom hadd)
      rw [hadd, Ecs.apply, hnext]
      omega
    · exact Int.le_of_eq (Ecs.lastEntityId_apply operation hadd).symm
  exact {
    consistent := Ecs.consistent_apply h.consistent operation hroom
    counted := Int.le_trans h.counted hlast
    ascending := h.ascending
    issued := fun entity hmem =>
      ⟨(h.issued entity hmem).1, Int.le_trans (h.issued entity hmem).2 hlast⟩
    fresh := fun hnil => (getComponents_congr hcomponents).trans (h.fresh hnil)
    held := fun hne => by
      obtain ⟨entity, component, hholds⟩ := h.held hne
      exact ⟨entity, component, hcomponents.trans hholds.sole, hholds.state⟩
    apart := fun entity hmem => tryGetComponent_none_congr hcomponents (h.apart entity hmem)
    contract := hcontract
    own := hown
    waits := hwaits
    alive := halive }

/-- What the spawner does with the first in line. -/
structure Serves (types : ComponentTypes T) (operation : Entity → EcsOperation T) : Prop where
  spares : ∀ (ecs : Ecs T) entity, ecs.tryGetComponent types.inputState entity = none →
    ecs.Spares types.inputState (operation entity)
  adds_none : ∀ entity, operation entity ≠ .addEntity
  contract : ∀ (ecs : Ecs T) entity, ecs.isEntityAlive entity = true →
    WithinContract ecs (operation entity)
  target : ∀ entity, target (operation entity) = some entity
  alive : ∀ (ecs : Ecs T) entity other, other.id ≠ entity.id →
    (ecs.apply (operation entity)).isEntityAlive other = ecs.isEntityAlive other

theorem serves_destroyEntity (types : ComponentTypes T) : Serves types .destroyEntity where
  spares _ _ hnone := hnone
  adds_none _ heq := nomatch heq
  contract _ _ halive := halive
  target _ := rfl
  alive ecs entity other hne := by
    rw [Ecs.apply, Ecs.isEntityAlive_destroyEntity, decide_eq_true hne, Bool.and_true]

theorem serves_destroyName (types : ComponentTypes T) :
    Serves types (.destroyComponent types.entityName) where
  spares _ _ hnone _ := hnone
  adds_none _ heq := nomatch heq
  contract _ _ halive := halive
  target _ := rfl
  alive ecs entity other _ := Ecs.isEntityAlive_destroyComponent ecs types.entityName entity other

theorem Sound.waiting_ascending {line : Line T F} (h : Sound types line) :
    line.waiting.Pairwise fun a b => a.id < b.id :=
  h.ascending.sublist h.waits

theorem Sound.serve {line : Line T F} (h : Sound types line) {operation : Entity → EcsOperation T}
    (hserves : Serves types operation) : Sound types (line.serve operation) := by
  unfold Line.serve
  cases hwaiting : line.waiting with
  | nil => exact h
  | cons entity waiting =>
    have hmem : entity ∈ line.waiting := hwaiting ▸ List.mem_cons_self
    have hspawned := h.waits.subset hmem
    have hascending := h.waiting_ascending
    rw [hwaiting] at hascending
    have hlater := (List.pairwise_cons.mp hascending).1
    refine h.apply (hserves.spares _ entity (h.apart entity hspawned))
      (fun heq => absurd heq (hserves.adds_none entity)) ?_ ?_
      ((List.sublist_cons_self entity waiting).trans (hwaiting ▸ h.waits)) ?_
    · intro call hcall
      rcases List.mem_append.mp hcall with hold | hnew
      · exact h.contract call hold
      · rw [List.mem_singleton.mp hnew]
        exact hserves.contract _ entity (h.alive entity hmem)
    · intro call hcall other htarget
      rcases List.mem_append.mp hcall with hold | hnew
      · exact h.own call hold other htarget
      · rw [List.mem_singleton.mp hnew, hserves.target] at htarget
        exact Option.some_inj.mp htarget ▸ hspawned
    · intro other hother
      rw [hserves.alive _ _ _ (Int.ne_of_gt (hlater other hother))]
      exact h.alive other (hwaiting ▸ List.mem_cons_of_mem entity hother)

/-! ### The queue -/

theorem takeFirstSpawnedEntity_eq (ecs : Ecs T) (queue : List Entity) :
    EntitySpawnerSystem.takeFirstSpawnedEntity ecs queue =
      ((takeLive ecs.isEntityAlive queue).1.getD {}, (takeLive ecs.isEntityAlive queue).2) := by
  induction queue with
  | nil => rfl
  | cons entity rest ih =>
    unfold EntitySpawnerSystem.takeFirstSpawnedEntity takeLive
    split
    · rfl
    · exact ih

/-- The live part of the queue is the line. -/
structure Follows (system : EntitySpawnerSystem) (line : Line T F) : Prop where
  count : system.spawnCount = (line.spawned.length : Int)
  queued : system.spawnedEntities.Sublist line.spawned
  waiting : line.waiting = system.spawnedEntities.filter line.scene.ecs.isEntityAlive

theorem Follows.spawn [FloatNumber F] [IntCast F] {system : EntitySpawnerSystem} {line : Line T F}
    (h : Follows system line) (hsound : Sound types line)
    (hroom : line.scene.ecs.lastEntityId < 2 ^ 31 - 1) (objects : SpawnObjects) :
    ∃ next, system.spawnEntity types objects line.scene =
        some (next, (line.spawn types objects).scene) ∧
      Follows next (line.spawn types objects) := by
  have hcounted := hsound.counted
  have hnew := addEntity_fst hsound.consistent hroom
  have halive := spawned_alive types objects (line.spawned.length + 1) hsound.consistent hroom
  refine ⟨_, spawnEntity_eq types objects line.spawned.length hsound.consistent hroom h.count
    (by omega), ?_, h.queued.append (List.Sublist.refl _), ?_⟩
  · show ((line.spawned.length + 1 : Nat) : Int) =
      ((line.spawned ++ [line.scene.ecs.addEntity.1]).length : Int)
    rw [List.length_append, List.length_singleton]
  · show line.waiting ++ [line.scene.ecs.addEntity.1] =
      (system.spawnedEntities ++ [line.scene.ecs.addEntity.1]).filter
        (line.scene.spawned types objects _).ecs.isEntityAlive
    have hsame : system.spawnedEntities.filter
        (line.scene.spawned types objects (line.spawned.length + 1)).ecs.isEntityAlive =
        system.spawnedEntities.filter line.scene.ecs.isEntityAlive := by
      refine List.filter_congr fun entity hmem => ?_
      have hbound := (hsound.issued entity (h.queued.subset hmem)).2
      rw [halive, decide_eq_false, Bool.false_or]
      rintro rfl
      rw [hnew] at hbound
      simp only at hbound
      omega
    rw [List.filter_append, hsame, ← h.waiting, List.filter_cons_of_pos, List.filter_nil]
    rw [halive, decide_eq_true rfl, Bool.true_or]

theorem Follows.serve {system : EntitySpawnerSystem} {line : Line T F} (h : Follows system line)
    (hsound : Sound types line) {operation : Entity → EcsOperation T}
    (hserves : Serves types operation) :
    ∃ next, system.serveFirst operation line.scene = (next, (line.serve operation).scene) ∧
      Follows next (line.serve operation) := by
  have hfirst := takeLive_fst line.scene.ecs.isEntityAlive system.spawnedEntities
  have hrest := filter_takeLive_snd line.scene.ecs.isEntityAlive system.spawnedEntities
  have hsublist := takeLive_sublist line.scene.ecs.isEntityAlive system.spawnedEntities
  rw [← h.waiting] at hfirst hrest
  unfold EntitySpawnerSystem.serveFirst Line.serve
  rw [takeFirstSpawnedEntity_eq]
  cases hwaiting : line.waiting with
  | nil =>
    rw [hwaiting] at hfirst hrest
    rw [hfirst] at hsublist ⊢
    exact ⟨_, rfl, h.count, hsublist.trans h.queued, hwaiting.trans hrest.symm⟩
  | cons entity waiting =>
    rw [hwaiting] at hfirst hrest
    rw [hfirst] at hsublist ⊢
    have hascending := (hsound.ascending.sublist h.queued).sublist hsublist
    have hlater := (List.pairwise_cons.mp hascending).1
    have hvalid : entity.id ≠ Entity.invalidId := by
      have hbound := (hsound.issued entity
        (h.queued.subset (hsublist.subset List.mem_cons_self))).1
      rw [Entity.invalidId]
      omega
    refine ⟨_, Prod.ext rfl (if_pos hvalid), h.count,
      ((List.sublist_cons_self entity _).trans hsublist).trans h.queued, ?_⟩
    show waiting = (takeLive line.scene.ecs.isEntityAlive system.spawnedEntities).2.filter
      (line.scene.ecs.apply (operation entity)).isEntityAlive
    rw [show waiting = _ from hrest.symm]
    refine List.filter_congr fun other hother => ?_
    exact (hserves.alive _ entity other (Int.ne_of_gt (hlater other hother))).symm

section Turns

variable [FloatNumber F] [IntCast F]

/-- The spawner with the line it follows. -/
structure InStep (types : ComponentTypes T) (system : EntitySpawnerSystem) (line : Line T F) :
    Prop where
  sound : Sound types line
  follows : Follows system line

theorem InStep.spawnIf {system : EntitySpawnerSystem} {line : Line T F}
    (h : InStep types system line) (hroom : line.scene.ecs.lastEntityId < 2 ^ 31 - 1)
    (objects : SpawnObjects) (pressed : Bool) :
    ∃ next, (if pressed then system.spawnEntity types objects line.scene
        else some (system, line.scene)) =
        some (next, (if pressed then line.spawn types objects else line).scene) ∧
      InStep types next (if pressed then line.spawn types objects else line) := by
  cases pressed with
  | false => exact ⟨system, rfl, h⟩
  | true =>
    obtain ⟨next, hspawn, hfollows⟩ := h.follows.spawn h.sound hroom objects
    exact ⟨next, hspawn, h.sound.spawn hroom objects, hfollows⟩

omit [FloatNumber F] [IntCast F] in
theorem InStep.serveIf {system : EntitySpawnerSystem} {line : Line T F}
    (h : InStep types system line) {operation : Entity → EcsOperation T}
    (hserves : Serves types operation) (pressed : Bool) :
    ∃ next, (if pressed then system.serveFirst operation line.scene else (system, line.scene)) =
        (next, (if pressed then line.serve operation else line).scene) ∧
      InStep types next (if pressed then line.serve operation else line) := by
  cases pressed with
  | false => exact ⟨system, rfl, h⟩
  | true =>
    obtain ⟨next, hserve, hfollows⟩ := h.follows.serve h.sound hserves
    exact ⟨next, hserve, h.sound.serve hserves, hfollows⟩

theorem InStep.step {system : EntitySpawnerSystem} {line : Line T F}
    {past : List (PlatformEventRecord F)} {record : PlatformEventRecord F} {first : Address}
    (h : InStep types system line) (hroom : line.scene.ecs.lastEntityId < 2 ^ 31 - 1)
    (objects : SpawnObjects)
    (hget : line.scene.ecs.getComponents types.inputState = [first])
    (hstate : line.scene.inputStates first = stateAfter (past ++ [record])) :
    let presses := rises past record
    let spawned := if presses keyP then line.spawn types objects else line
    let served := if presses keyL then spawned.serve .destroyEntity else spawned
    let stripped :=
      if presses keyM then served.serve (.destroyComponent types.entityName) else served
    ∃ next, system.step types objects line.scene = some (next, stripped.scene) ∧
      InStep types next stripped := by
  intro presses spawned served stripped
  obtain ⟨system₁, hspawn, h₁⟩ := h.spawnIf hroom objects (presses keyP)
  obtain ⟨system₂, hserve, h₂⟩ := h₁.serveIf (serves_destroyEntity types) (presses keyL)
  obtain ⟨system₃, hstrip, h₃⟩ := h₂.serveIf (serves_destroyName types) (presses keyM)
  refine ⟨system₃, ?_, h₃⟩
  unfold EntitySpawnerSystem.step
  rw [hget]
  simp only [hstate, wasPressedThisFrame_eq_rises]
  rw [show (if rises past record keyP = true then _ else _) = _ from hspawn, Option.map_some]
  simp only [EntitySpawnerSystem.destroyFirstSpawnedEntity,
    EntitySpawnerSystem.destroyFirstSpawnedEntityName]
  rw [show (if rises past record keyL = true then _ else _) = _ from hserve]
  exact congrArg some hstrip

theorem InStep.frame {game : Game T F} {line : Line T F} (h : InStep types game.spawner line)
    (hscene : game.scene = line.scene) (hroom : game.HasRoom) (record : PlatformEventRecord F)
    (inputObject : Address) (objects : SpawnObjects) :
    ∃ next, game.frame types inputObject objects record = some next ∧
      next.scene = (line.turn types (.frame record inputObject objects)).scene ∧
      InStep types next.spawner (line.turn types (.frame record inputObject objects)) := by
  unfold Game.HasRoom at hroom
  rw [hscene] at hroom
  obtain ⟨scene, hinput, hsound, hgrows, first, hget, hstate⟩ :=
    h.sound.read (by omega) record inputObject
  have hwaiting : line.waiting = game.spawner.spawnedEntities.filter scene.ecs.isEntityAlive := by
    rw [h.follows.waiting]
    refine List.filter_congr fun entity hmem => (hgrows.alive entity ?_).symm
    exact (h.sound.issued entity (h.follows.queued.subset hmem)).2
  have hread : InStep types game.spawner
      { line with scene, records := line.records ++ [record] } :=
    ⟨hsound, ⟨h.follows.count, h.follows.queued, hwaiting⟩⟩
  have hgrown : scene.ecs.lastEntityId < 2 ^ 31 - 1 := by
    have hle := hgrows.lastEntityId_le
    omega
  obtain ⟨next, hstep, hnext⟩ := hread.step hgrown objects hget hstate
  unfold Line.turn
  simp only [hinput, Option.getD_some]
  refine ⟨⟨_, next⟩, ?_, rfl, hnext⟩
  unfold Game.frame
  rw [hscene, hinput]
  simp only [Option.bind_eq_bind, Option.bind_some]
  rw [hstep]
  rfl

theorem InStep.others {system : EntitySpawnerSystem} {line : Line T F}
    (h : InStep types system line) {operation : EcsOperation T}
    (hroom : operation = .addEntity → line.scene.ecs.lastEntityId < 2 ^ 31 - 1)
    (hspares : line.scene.ecs.Spares types.inputState operation) :
    InStep types system (line.turn types (.others operation)) := by
  have hdies : ∀ entity ∈ system.spawnedEntities,
      (line.scene.ecs.apply operation).isEntityAlive entity = true →
      line.scene.ecs.isEntityAlive entity = true := by
    intro entity hmem
    exact Ecs.alive_apply h.sound.consistent operation hroom
      (h.sound.issued entity (h.follows.queued.subset hmem)).2
  refine ⟨h.sound.apply hspares hroom h.sound.contract h.sound.own
    (List.filter_sublist.trans h.sound.waits) fun _ hmem => (List.mem_filter.mp hmem).2,
    ⟨h.follows.count, h.follows.queued, ?_⟩⟩
  show line.waiting.filter _ = _
  rw [h.follows.waiting]
  exact (filter_of_dies hdies).symm

theorem InStep.writes {system : EntitySpawnerSystem} {line : Line T F}
    (h : InStep types system line) (names : Address → String)
    (transforms : Address → Transform F) :
    InStep types system (line.turn types (.writes names transforms)) :=
  ⟨{ h.sound with }, { h.follows with }⟩

theorem GameRun.inStep {start : Scene T F} {turns : List (Turn T F)} {game : Game T F}
    (h : GameRun types start turns game) (hstart : Begun types start) :
    game.scene = (Line.run types start turns).scene ∧
      InStep types game.spawner (Line.run types start turns) := by
  induction h with
  | start => exact ⟨rfl, hstart.sound, ⟨rfl, List.Sublist.refl [], rfl⟩⟩
  | @frame turns game next record inputObject objects _ hroom hframe ih =>
    obtain ⟨hscene, hstep⟩ := ih
    obtain ⟨after, hafter, hsame, hnext⟩ := hstep.frame hscene hroom record inputObject objects
    rw [Line.run_concat, Option.some_inj.mp (hframe.symm.trans hafter)]
    exact ⟨hsame, hnext⟩
  | @others turns game operation _ hspares hroom ih =>
    obtain ⟨hscene, hstep⟩ := ih
    have hleft : operation = .addEntity →
        (Line.run types start turns).scene.ecs.lastEntityId < 2 ^ 31 - 1 := by
      intro hadd
      have hbound := hroom hadd
      unfold Game.HasRoom at hbound
      rw [hscene] at hbound
      omega
    rw [Line.run_concat]
    rw [hscene] at hspares ⊢
    exact ⟨rfl, hstep.others hleft hspares⟩
  | @writes turns game names transforms _ ih =>
    obtain ⟨hscene, hstep⟩ := ih
    rw [Line.run_concat]
    rw [hscene]
    exact ⟨rfl, hstep.writes names transforms⟩

structure ServesInOrder (types : ComponentTypes T) (game : Game T F) (line : Line T F) :
    Prop where
  scene : game.scene = line.scene
  count : game.spawner.spawnCount = (line.spawned.length : Int)
  waiting : line.waiting = game.spawner.spawnedEntities.filter game.scene.ecs.isEntityAlive
  inOrder : line.waiting.Sublist line.spawned
  ascending : line.spawned.Pairwise fun a b => a.id < b.id
  contract : ∀ call ∈ game.scene.calls, WithinContract call.1 call.2
  own : ∀ call ∈ game.scene.calls, ∀ entity, target call.2 = some entity → entity ∈ line.spawned
  continues : game.HasRoom → ∀ record inputObject objects,
    ∃ next, game.frame types inputObject objects record = some next

/-- Over any run, the spawner does what the line does that knows at once when an entity is gone and
reads the keys from the events. No call breaks a contract or takes from an entity of others. -/
theorem spawner_serves_in_order {start : Scene T F} {turns : List (Turn T F)} {game : Game T F}
    (h : GameRun types start turns game) (hstart : Begun types start) :
    ServesInOrder types game (Line.run types start turns) := by
  obtain ⟨hscene, hstep⟩ := h.inStep hstart
  refine ⟨hscene, hstep.follows.count, hscene ▸ hstep.follows.waiting, hstep.sound.waits,
    hstep.sound.ascending, hscene ▸ hstep.sound.contract, hscene ▸ hstep.sound.own, ?_⟩
  intro hroom record inputObject objects
  obtain ⟨next, hnext, _⟩ := hstep.frame hscene hroom record inputObject objects
  exact ⟨next, hnext⟩

end Turns

end Sound

def exampleTypes : ComponentTypes Nat := ⟨0, 1, 2, 3, by decide⟩

def exampleScene : Scene Nat Rat where
  ecs := {}
  inputStates _ := {}
  names _ := ""
  transforms _ := ⟨⟨0, 0, 0⟩, ⟨0, 0, 0, 1⟩, ⟨1, 1, 1⟩⟩
  calls := []

def presses (code : InputCode) : PlatformEventRecord Rat := ⟨[{ type := .keyPressed, code }]⟩

def exampleTurns : List (Turn Nat Rat) :=
  [.frame (presses keyP) 1 ⟨2, 3, 4⟩, .others .addEntity, .frame (presses keyL) 5 ⟨6, 7, 8⟩]

/-- An entity is spawned, others add one, and the first in line is destroyed. -/
theorem spawner_serves_in_order_pressed : ∃ game : Game Nat Rat,
    ServesInOrder exampleTypes game (Line.run exampleTypes exampleScene exampleTurns) := by
  have hbegun : Begun exampleTypes exampleScene := ⟨Ecs.consistent_empty, rfl, rfl⟩
  have hempty : ({ scene := exampleScene } : Game Nat Rat).HasRoom := by
    unfold Game.HasRoom
    decide
  have hstart : GameRun exampleTypes exampleScene [] { scene := exampleScene } := .start
  obtain ⟨first, hfirst⟩ := (spawner_serves_in_order hstart hbegun).continues hempty
    (presses keyP) 1 ⟨2, 3, 4⟩
  have hlast : (({ scene := exampleScene } : Game Nat Rat).frame exampleTypes 1 ⟨2, 3, 4⟩
      (presses keyP)).all (fun game => decide (game.scene.ecs.lastEntityId < 2 ^ 31 - 2) &&
        decide ((game.scene.ecs.apply .addEntity).lastEntityId < 2 ^ 31 - 2)) = true := by
    decide +kernel
  rw [hfirst, Option.all_some, Bool.and_eq_true, decide_eq_true_eq, decide_eq_true_eq] at hlast
  have hspawned := hstart.frame hempty hfirst
  have hspares : first.scene.ecs.Spares exampleTypes.inputState .addEntity := trivial
  have hothers := hspawned.others hspares fun _ => hlast.1
  obtain ⟨game, hgame⟩ := (spawner_serves_in_order hothers hbegun).continues hlast.2
    (presses keyL) 5 ⟨6, 7, 8⟩
  exact ⟨game, spawner_serves_in_order (hothers.frame hlast.2 hgame) hbegun⟩

end PlaygroundGame
