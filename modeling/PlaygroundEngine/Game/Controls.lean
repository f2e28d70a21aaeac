import PlaygroundEngine.Ecs.InputSystem
import PlaygroundEngine.Math.EulerAngles
import PlaygroundEngine.Math.Transform

/-!
# The systems that the keys drive

`MovementSystem` walks the player over the ground, `CameraControlSystem` turns and flies whatever
looks freely. Each goes over the entities with its component and writes their transforms.
-/

namespace PlaygroundGame

open PlaygroundEngine Reflection
set_option autoImplicit false

def keyA : InputCode := ⟨1⟩
def keyD : InputCode := ⟨4⟩
def keyS : InputCode := ⟨19⟩
def keyW : InputCode := ⟨23⟩
def keyRight : InputCode := ⟨57⟩
def keyLeft : InputCode := ⟨58⟩
def keyDown : InputCode := ⟨59⟩
def keyUp : InputCode := ⟨60⟩

structure PlayerControlledComponent (F : Type) where
  moveSpeedMetersPerSecond : F

structure FreeLookComponent (F : Type) where
  turnSpeedRadiansPerSecond : F
  moveSpeedMetersPerSecond : F

structure ControlTypes (T : Type) where
  inputState : T
  transform : T
  playerControlled : T
  freeLook : T

structure Stage (T F : Type) [LinearOrder T] where
  ecs : Ecs T
  inputStates : Address → InputStateComponent
  transforms : Address → Transform F
  playerControlleds : Address → PlayerControlledComponent F
  freeLooks : Address → FreeLookComponent F

variable {T F : Type} [LinearOrder T]

namespace Stage

def inputState (types : ControlTypes T) (stage : Stage T F) : Option InputStateComponent :=
  (stage.ecs.getComponents types.inputState).head?.map stage.inputStates

def setTransform (component : Address) (transform : Transform F) (stage : Stage T F) :
    Stage T F :=
  { stage with transforms := Function.update stage.transforms component transform }

def updateTransform (types : ControlTypes T) (update : Address → Transform F → Transform F)
    (stage : Stage T F) (entity : Entity) (component : Address) : Stage T F :=
  match stage.ecs.tryGetComponent types.transform entity with
  | none => stage
  | some transform =>
    stage.setTransform transform (update component (stage.transforms transform))

def updateEach (types : ControlTypes T) (componentType : T)
    (update : Address → Transform F → Transform F) (stage : Stage T F) : Stage T F :=
  (stage.ecs.getComponentsWithEntities componentType).foldl
    (fun stage (entity, component) => stage.updateTransform types update entity component) stage

end Stage

variable [Field F] [LinearOrder F] (math : MathFunctions F)

namespace MovementSystem

def readMoveDirection (inputState : Option InputStateComponent) : Vector3 F :=
  match inputState with
  | none => .zero
  | some inputState =>
    let direction : Vector3 F := .zero
    let direction := if inputState.isPressed keyW then direction + .forward else direction
    let direction := if inputState.isPressed keyS then direction - .forward else direction
    let direction := if inputState.isPressed keyD then direction + .right else direction
    let direction := if inputState.isPressed keyA then direction - .right else direction
    if direction = .zero then direction else direction.normalize math.sqrt

def move (moveDirection : Vector3 F) (deltaTimeSeconds : F)
    (playerControlled : PlayerControlledComponent F) (transform : Transform F) : Transform F :=
  { transform with
    position := transform.position +
      moveDirection * playerControlled.moveSpeedMetersPerSecond * deltaTimeSeconds }

def step (types : ControlTypes T) (deltaTimeSeconds : F) (stage : Stage T F) : Stage T F :=
  let moveDirection := readMoveDirection math (stage.inputState types)
  if moveDirection = .zero then stage
  else
    stage.updateEach types types.playerControlled fun component =>
      move moveDirection deltaTimeSeconds (stage.playerControlleds component)

end MovementSystem

structure LookInput (F : Type) where
  turn : F
  pitch : F
  forward : F
  strafe : F

namespace CameraControlSystem

def pitchLimitRadians : F := 1.5

def readAxis (inputState : InputStateComponent) (positive negative : InputCode) : F :=
  let value : F := if inputState.isPressed positive then 0 + 1 else 0
  if inputState.isPressed negative then value - 1 else value

def readLookInput (inputState : Option InputStateComponent) : LookInput F :=
  match inputState with
  | none => ⟨0, 0, 0, 0⟩
  | some inputState =>
    { turn := readAxis inputState keyLeft keyRight
      pitch := readAxis inputState keyUp keyDown
      forward := readAxis inputState keyW keyS
      strafe := readAxis inputState keyD keyA }

def turn (input : LookInput F) (radiansPerSecond deltaTimeSeconds : F) (transform : Transform F) :
    Transform F :=
  if input.turn = 0 ∧ input.pitch = 0 then transform
  else
    let angles := transform.rotation.toEulerAngles math
    let yaw := angles.yaw + input.turn * radiansPerSecond * deltaTimeSeconds
    let pitch := clamp (angles.pitch + input.pitch * radiansPerSecond * deltaTimeSeconds)
      (-pitchLimitRadians) pitchLimitRadians
    { transform with rotation := .fromEulerAngles math { pitch, yaw, roll := 0 } }

def move (input : LookInput F) (metersPerSecond deltaTimeSeconds : F) (transform : Transform F) :
    Transform F :=
  let movement := transform.getForward * input.forward + transform.getRight * input.strafe
  if movement.lengthSquared = 0 then transform
  else
    { transform with
      position := transform.position +
        movement.normalize math.sqrt * metersPerSecond * deltaTimeSeconds }

def steer (input : LookInput F) (deltaTimeSeconds : F) (freeLook : FreeLookComponent F)
    (transform : Transform F) : Transform F :=
  move math input freeLook.moveSpeedMetersPerSecond deltaTimeSeconds
    (turn math input freeLook.turnSpeedRadiansPerSecond deltaTimeSeconds transform)

def step (types : ControlTypes T) (deltaTimeSeconds : F) (stage : Stage T F) : Stage T F :=
  let input := readLookInput (stage.inputState types)
  stage.updateEach types types.freeLook fun component =>
    steer math input deltaTimeSeconds (stage.freeLooks component)

end CameraControlSystem

/-- The two systems in the order in which the game adds them. -/
def Stage.frame (types : ControlTypes T) (deltaTimeSeconds : F) (stage : Stage T F) : Stage T F :=
  CameraControlSystem.step math types deltaTimeSeconds
    (MovementSystem.step math types deltaTimeSeconds stage)

end PlaygroundGame
