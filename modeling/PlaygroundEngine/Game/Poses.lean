import PlaygroundEngine.Game.Controls

/-!
# Where the player and the camera should stand

A pose keeps yaw and pitch as two numbers and moves by a speed over a time; the rotation is only
what another part last wrote.
-/

namespace PlaygroundGame

open PlaygroundEngine
set_option autoImplicit false

inductive Aim where
  /-- As another part of the game wrote it. -/
  | authored (rotation : PlaygroundEngine.Quaternion ℝ)
  /-- As the keys have turned it since. -/
  | heading (yaw pitch : ℝ)

structure Pose where
  position : Vector3 ℝ
  aim : Aim
  scale : Vector3 ℝ

/-- What a frame reads for one entity; `none` is a component that is not there. -/
structure Controls where
  inputState : Option InputStateComponent
  playerControlled : Option (PlayerControlledComponent ℝ)
  freeLook : Option (FreeLookComponent ℝ)
  deltaTimeSeconds : ℝ

inductive Deed where
  | authored (transform : Transform ℝ)
  | frame (controls : Controls)

/-- 1, 0 or -1: the keys that pull against each other cancel. -/
def pull (inputState : Option InputStateComponent) (positive negative : InputCode) : Int :=
  match inputState with
  | none => 0
  | some inputState =>
    (inputState.isPressed positive).toNat - (inputState.isPressed negative).toNat

noncomputable section

def pitchLimit : ℝ := 1.5

namespace Aim

def yaw : Aim → ℝ
  | authored rotation => (rotation.toEulerAngles exactFunctions).yaw
  | heading yaw _ => yaw

def pitch : Aim → ℝ
  | authored rotation => (rotation.toEulerAngles exactFunctions).pitch
  | heading _ pitch => pitch

def forward : Aim → Vector3 ℝ
  | authored rotation => rotation * (.forward : Vector3 ℝ)
  | heading yaw pitch =>
    ⟨-(Real.cos pitch * Real.sin yaw), Real.cos pitch * Real.cos yaw, Real.sin pitch⟩

def right : Aim → Vector3 ℝ
  | authored rotation => rotation * (.right : Vector3 ℝ)
  | heading yaw _ => ⟨Real.cos yaw, Real.sin yaw, 0⟩

/-- Turning takes a heading from what was authored; the pitch stays within its limit. -/
def turn (yawPull pitchPull : Int) (angle : ℝ) (aim : Aim) : Aim :=
  if yawPull = 0 ∧ pitchPull = 0 then aim
  else
    heading (aim.yaw + yawPull * angle)
      (max (-pitchLimit) (min pitchLimit (aim.pitch + pitchPull * angle)))

end Aim

/-- A step of the given length, whatever the number of keys it is made of. -/
def stride (forward right : Vector3 ℝ) (forwardPull rightPull : Int) (distance : ℝ) :
    Vector3 ℝ :=
  if forwardPull = 0 ∧ rightPull = 0 then ⟨0, 0, 0⟩
  else
    (forward * (forwardPull : ℝ) + right * (rightPull : ℝ)) *
      (distance / Real.sqrt ((forwardPull : ℝ) ^ 2 + (rightPull : ℝ) ^ 2))

namespace Pose

/-- Over the ground, whatever the aim. -/
def walk (controls : Controls) (speed : ℝ) (pose : Pose) : Pose :=
  { pose with
    position := pose.position + stride .forward .right (pull controls.inputState keyW keyS)
      (pull controls.inputState keyD keyA) (speed * controls.deltaTimeSeconds) }

def look (controls : Controls) (freeLook : FreeLookComponent ℝ) (pose : Pose) : Pose :=
  let aim := pose.aim.turn (pull controls.inputState keyLeft keyRight)
    (pull controls.inputState keyUp keyDown)
    (freeLook.turnSpeedRadiansPerSecond * controls.deltaTimeSeconds)
  { pose with
    position := pose.position + stride aim.forward aim.right
      (pull controls.inputState keyW keyS) (pull controls.inputState keyD keyA)
      (freeLook.moveSpeedMetersPerSecond * controls.deltaTimeSeconds)
    aim }

def deed (pose : Pose) : Deed → Pose
  | .authored transform => ⟨transform.position, .authored transform.rotation, transform.scale⟩
  | .frame controls =>
    let pose := match controls.playerControlled with
      | none => pose
      | some component => pose.walk controls component.moveSpeedMetersPerSecond
    match controls.freeLook with
    | none => pose
    | some component => pose.look controls component

def run (start : Transform ℝ) (deeds : List Deed) : Pose :=
  deeds.foldl deed ⟨start.position, .authored start.rotation, start.scale⟩

end Pose

end

end PlaygroundGame
