import PlaygroundEngine.Ecs.InputEdges
import PlaygroundEngine.RenderExtraction

/-!
# The game's spawner

`EntitySpawnerSystem` answers three keys: it adds an entity, destroys the oldest one it has added,
or takes that one's name. The entities it has not acted on stand in a queue, which keeps those that
others destroyed until it comes upon them.
-/

namespace PlaygroundGame

open PlaygroundEngine Library Reflection
set_option autoImplicit false

def keyL : InputCode := ⟨12⟩
def keyM : InputCode := ⟨13⟩
def keyP : InputCode := ⟨16⟩

/-- The types of the components that a turn deals with. -/
structure ComponentTypes (T : Type) where
  inputState : T
  entityName : T
  transform : T
  mesh : T
  distinct : [inputState, entityName, transform, mesh].Nodup

structure SpawnObjects where
  name : Address
  transform : Address
  mesh : Address

/-- The store, what its components hold, and the spawner's calls, each with the store that it
met. -/
structure Scene (T F : Type) [LinearOrder T] where
  ecs : Ecs T
  inputStates : Address → InputStateComponent
  names : Address → String
  transforms : Address → Transform F
  calls : List (Ecs T × EcsOperation T)

structure EntitySpawnerSystem where
  spawnedEntities : List Entity := []
  spawnCount : Int := 0

variable {T F : Type} [LinearOrder T]

namespace Scene

def call (scene : Scene T F) (operation : EcsOperation T) : Scene T F :=
  { scene with
    ecs := scene.ecs.apply operation
    calls := scene.calls ++ [(scene.ecs, operation)] }

def addEntity (scene : Scene T F) : Entity × Scene T F :=
  (scene.ecs.addEntity.1, scene.call .addEntity)

def addComponentToEntity (componentType : T) (component : Address) (entity : Entity)
    (scene : Scene T F) : Option Address × Scene T F :=
  ((scene.ecs.addComponentToEntity componentType component entity).1,
    scene.call (.addComponentToEntity componentType component entity))

def setName (component : Address) (name : String) (scene : Scene T F) : Scene T F :=
  { scene with names := Function.update scene.names component name }

def setTransform (component : Address) (transform : Transform F) (scene : Scene T F) :
    Scene T F :=
  { scene with transforms := Function.update scene.transforms component transform }

end Scene

section Systems

variable [FloatNumber F] [IntCast F]

def spawnSpacingMeters : F := 1.5

def spawnTransform (spawnOrdinal : Int) : Transform F where
  position := ⟨0.0, (spawnOrdinal : F) * spawnSpacingMeters, 0.0⟩
  rotation := ⟨0.0, 0.0, 0.0, 1.0⟩
  scale := ⟨1.0, 1.0, 1.0⟩

def spawnName (spawnOrdinal : Int) : String := s!"PlaygroundGame {spawnOrdinal}"

namespace EntitySpawnerSystem

/-- `none` is the use of a null component. -/
def spawnEntity (types : ComponentTypes T) (objects : SpawnObjects) (system : EntitySpawnerSystem)
    (scene : Scene T F) : Option (EntitySpawnerSystem × Scene T F) := do
  let (entity, scene) := scene.addEntity
  let spawnOrdinal := Ecs.wrapInt32 (system.spawnCount + 1)
  let (name, scene) := scene.addComponentToEntity types.entityName objects.name entity
  let scene := scene.setName (← name) (spawnName spawnOrdinal)
  let (transform, scene) := scene.addComponentToEntity types.transform objects.transform entity
  let scene := scene.setTransform (← transform) (spawnTransform spawnOrdinal)
  let (_, scene) := scene.addComponentToEntity types.mesh objects.mesh entity
  return ({ spawnedEntities := system.spawnedEntities ++ [entity], spawnCount := spawnOrdinal },
    scene)

/-- The loop that drops the entities that are gone. -/
def takeFirstSpawnedEntity (ecs : Ecs T) : List Entity → Entity × List Entity
  | [] => ({}, [])
  | entity :: spawnedEntities =>
    if ecs.isEntityAlive entity then (entity, spawnedEntities)
    else takeFirstSpawnedEntity ecs spawnedEntities

/-- What `DestroyFirstSpawnedEntity` and `DestroyFirstSpawnedEntityName` share. -/
def serveFirst (operation : Entity → EcsOperation T) (system : EntitySpawnerSystem)
    (scene : Scene T F) : EntitySpawnerSystem × Scene T F :=
  let (entity, spawnedEntities) := takeFirstSpawnedEntity scene.ecs system.spawnedEntities
  ({ system with spawnedEntities },
    if entity.id ≠ Entity.invalidId then scene.call (operation entity) else scene)

def destroyFirstSpawnedEntity (system : EntitySpawnerSystem) (scene : Scene T F) :
    EntitySpawnerSystem × Scene T F :=
  serveFirst .destroyEntity system scene

def destroyFirstSpawnedEntityName (types : ComponentTypes T) (system : EntitySpawnerSystem)
    (scene : Scene T F) : EntitySpawnerSystem × Scene T F :=
  serveFirst (.destroyComponent types.entityName) system scene

def step (types : ComponentTypes T) (objects : SpawnObjects) (system : EntitySpawnerSystem)
    (scene : Scene T F) : Option (EntitySpawnerSystem × Scene T F) :=
  match scene.ecs.getComponents types.inputState with
  | [] => some (system, scene)
  | first :: _ =>
    let inputState := scene.inputStates first
    let spawned :=
      if inputState.wasPressedThisFrame keyP then spawnEntity types objects system scene
      else some (system, scene)
    spawned.map fun (system, scene) =>
      let (system, scene) :=
        if inputState.wasPressedThisFrame keyL then destroyFirstSpawnedEntity system scene
        else (system, scene)
      if inputState.wasPressedThisFrame keyM then
        destroyFirstSpawnedEntityName types system scene
      else (system, scene)

end EntitySpawnerSystem

structure Game (T F : Type) [LinearOrder T] where
  scene : Scene T F
  spawner : EntitySpawnerSystem := {}

variable [Zero F]

def Scene.input (types : ComponentTypes T) (inputObject : Address)
    (record : PlatformEventRecord F) (scene : Scene T F) : Option (Scene T F) :=
  let system : InputSystem T F := ⟨scene.ecs, scene.inputStates, {}⟩
  ((system.updatePlatformInput record).step types.inputState inputObject).map fun next =>
    { scene with ecs := next.ecs, inputStates := next.inputStates }

/-- `OnStep`, and the steps of the first two systems. -/
def Game.frame (types : ComponentTypes T) (inputObject : Address) (objects : SpawnObjects)
    (record : PlatformEventRecord F) (game : Game T F) : Option (Game T F) := do
  let scene ← game.scene.input types inputObject record
  let (spawner, scene) ← game.spawner.step types objects scene
  return { scene, spawner }

inductive Turn (T F : Type) [Zero F] where
  | frame (record : PlatformEventRecord F) (inputObject : Address) (objects : SpawnObjects)
  /-- A call of another part of the game on the store. -/
  | others (operation : EcsOperation T)
  /-- Whatever the others wrote into names and transforms. -/
  | writes (names : Address → String) (transforms : Address → Transform F)

/-- A frame takes two identifiers at most, one for the input component and one for a spawned
entity. -/
def Game.HasRoom (game : Game T F) : Prop := game.scene.ecs.lastEntityId < 2 ^ 31 - 2

/-- The others leave the input component alone, and no one asks the store for an identifier that it
has not left. -/
inductive GameRun (types : ComponentTypes T) (start : Scene T F) :
    List (Turn T F) → Game T F → Prop where
  | start : GameRun types start [] { scene := start }
  | frame {turns : List (Turn T F)} {game next : Game T F} {record : PlatformEventRecord F}
    {inputObject : Address} {objects : SpawnObjects} : GameRun types start turns game →
    game.HasRoom → game.frame types inputObject objects record = some next →
    GameRun types start (turns ++ [.frame record inputObject objects]) next
  | others {turns : List (Turn T F)} {game : Game T F} {operation : EcsOperation T} :
    GameRun types start turns game → game.scene.ecs.Spares types.inputState operation →
    (operation = .addEntity → game.HasRoom) →
    GameRun types start (turns ++ [.others operation])
      { game with scene := { game.scene with ecs := game.scene.ecs.apply operation } }
  | writes {turns : List (Turn T F)} {game : Game T F} (names : Address → String)
    (transforms : Address → Transform F) : GameRun types start turns game →
    GameRun types start (turns ++ [.writes names transforms])
      { game with scene := { game.scene with names, transforms } }

end Systems

end PlaygroundGame
