import PlaygroundEngine.Game.EntitySpawner
import PlaygroundEngine.Library.LazyQueue

/-!
# What the spawner is for

The entities that wait to be acted on form a line, in the order in which they came. A line knows at
once when one of its entities is gone, and it reads the keys from the events. The spawner keeps in
step with it over any run of the game.
-/

namespace PlaygroundGame

open PlaygroundEngine Library Reflection
set_option autoImplicit false

variable {T F : Type} [LinearOrder T]

structure Line (T F : Type) [LinearOrder T] [Zero F] where
  scene : Scene T F
  records : List (PlatformEventRecord F) := []
  /-- All that were ever added. -/
  spawned : List Entity := []
  /-- Those of them that live and were not acted on, the oldest first. -/
  waiting : List Entity := []

section Rises

variable [Zero F]

open Classical in
/-- The events up to the record end with the key down, and those before it did not. -/
noncomputable def rises (past : List (PlatformEventRecord F)) (record : PlatformEventRecord F)
    (code : InputCode) : Bool :=
  decide (EndsPressed code (eventsOf (past ++ [record])) ∧ ¬ EndsPressed code (eventsOf past))

theorem wasPressedThisFrame_eq_rises (past : List (PlatformEventRecord F))
    (record : PlatformEventRecord F) (code : InputCode) :
    (stateAfter (past ++ [record])).wasPressedThisFrame code = rises past record code := by
  rw [wasPressedThisFrame_concat, Bool.eq_iff_iff, Bool.and_eq_true, Bool.not_eq_true',
    ← Bool.not_eq_true, isPressed_stateAfter, isPressed_stateAfter]
  simp only [rises, decide_eq_true_eq]

end Rises

/-- The scene with one more entity, which has its three components. -/
def Scene.spawned [FloatNumber F] [IntCast F] (types : ComponentTypes T) (objects : SpawnObjects)
    (ordinal : Nat) (scene : Scene T F) : Scene T F :=
  let entity := scene.ecs.addEntity.1
  let named := (scene.call .addEntity).call
    (.addComponentToEntity types.entityName objects.name entity)
  let placed := (named.setName objects.name (spawnName ordinal)).call
    (.addComponentToEntity types.transform objects.transform entity)
  (placed.setTransform objects.transform (spawnTransform ordinal)).call
    (.addComponentToEntity types.mesh objects.mesh entity)

namespace Line

variable [Zero F]

def spawn [FloatNumber F] [IntCast F] (types : ComponentTypes T) (objects : SpawnObjects)
    (line : Line T F) : Line T F :=
  { line with
    scene := line.scene.spawned types objects (line.spawned.length + 1)
    spawned := line.spawned ++ [line.scene.ecs.addEntity.1]
    waiting := line.waiting ++ [line.scene.ecs.addEntity.1] }

def serve (operation : Entity → EcsOperation T) (line : Line T F) : Line T F :=
  match line.waiting with
  | [] => line
  | entity :: waiting => { line with scene := line.scene.call (operation entity), waiting }

noncomputable def turn [FloatNumber F] [IntCast F] (types : ComponentTypes T) (line : Line T F) :
    Turn T F → Line T F
  | .frame record inputObject objects =>
    let read : Line T F := { line with
      scene := (line.scene.input types inputObject record).getD line.scene
      records := line.records ++ [record] }
    let presses := rises line.records record
    let spawned := if presses keyP then read.spawn types objects else read
    let served := if presses keyL then spawned.serve .destroyEntity else spawned
    if presses keyM then served.serve (.destroyComponent types.entityName) else served
  | .others operation =>
    let ecs := line.scene.ecs.apply operation
    { line with
      scene := { line.scene with ecs }
      waiting := line.waiting.filter ecs.isEntityAlive }
  | .writes names transforms => { line with scene := { line.scene with names, transforms } }

noncomputable def run [FloatNumber F] [IntCast F] (types : ComponentTypes T) (start : Scene T F)
    (turns : List (Turn T F)) : Line T F :=
  turns.foldl (turn types) { scene := start }

theorem run_concat [FloatNumber F] [IntCast F] (types : ComponentTypes T) (start : Scene T F)
    (turns : List (Turn T F)) (last : Turn T F) :
    run types start (turns ++ [last]) = (run types start turns).turn types last :=
  List.foldl_concat ..

end Line

def WithinContract (ecs : Ecs T) : EcsOperation T → Prop
  | .addEntity => True
  | .addComponentToEntity componentType _ entity =>
    ecs.isEntityAlive entity = true ∧ ecs.tryGetComponent componentType entity = none
  | .destroyComponent _ entity => ecs.isEntityAlive entity = true
  | .destroyEntity entity => ecs.isEntityAlive entity = true

def target : EcsOperation T → Option Entity
  | .destroyComponent _ entity => some entity
  | .destroyEntity entity => some entity
  | _ => none

end PlaygroundGame
