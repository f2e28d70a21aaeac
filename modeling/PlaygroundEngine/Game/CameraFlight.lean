import PlaygroundEngine.Ecs.Consistency
import PlaygroundEngine.Game.Poses
import PlaygroundEngine.Library.SlotLoops
import Mathlib.Analysis.Real.Pi.Bounds
import Mathlib.Analysis.SpecialFunctions.Trigonometric.Bounds

/-!
# The transforms keep their poses

The quaternion is taken apart into angles and put together again in every frame that turns. In
exact arithmetic nothing is lost by it: each transform stands as its pose does.
-/

namespace PlaygroundGame

open PlaygroundEngine Library Reflection
set_option autoImplicit false

section Passes

variable {T F : Type} [LinearOrder T]

/-- No other entity's record points at the object. -/
def Sole (types : ControlTypes T) (ecs : Ecs T) (entity : Entity) (object : Address) : Prop :=
  ∀ other, ecs.tryGetComponent types.transform other = some object ↔ other = entity

namespace Stage

theorem updateTransform_frame (types : ControlTypes T)
    (update : Address → Transform F → Transform F) (stage : Stage T F) (entity : Entity)
    (component : Address) :
    ∃ transforms, stage.updateTransform types update entity component =
      { stage with transforms } := by
  unfold updateTransform
  split
  · exact ⟨_, rfl⟩
  · exact ⟨_, rfl⟩

theorem updateEach_frame (types : ControlTypes T) (componentType : T)
    (update : Address → Transform F → Transform F) (stage : Stage T F) :
    ∃ transforms, stage.updateEach types componentType update = { stage with transforms } := by
  unfold updateEach
  generalize stage.ecs.getComponentsWithEntities componentType = pairs
  induction pairs generalizing stage with
  | nil => exact ⟨_, rfl⟩
  | cons pair pairs ih =>
    obtain ⟨entity, component⟩ := pair
    obtain ⟨first, hfirst⟩ := updateTransform_frame types update stage entity component
    obtain ⟨rest, hrest⟩ := ih { stage with transforms := first }
    refine ⟨rest, ?_⟩
    simp only [List.foldl_cons, hfirst, hrest]

theorem writesOwn_updateTransform (types : ControlTypes T)
    (update : Address → Transform F → Transform F) {ecs : Ecs T} {entity : Entity}
    {object : Address} (hsole : Sole types ecs entity object) :
    WritesOwn
      (fun stage (pair : Entity × Address) => stage.updateTransform types update pair.1 pair.2)
      (fun stage : Stage T F => stage.transforms object) (fun pair => update pair.2)
      (fun pair => pair.1 = entity) (fun stage => stage.ecs = ecs) where
  keeps := by
    intro stage pair hgood
    obtain ⟨transforms, hframe⟩ := updateTransform_frame types update stage pair.1 pair.2
    rw [hframe]
    exact hgood
  own := by
    intro stage pair hgood hpair
    have hcomponent : stage.ecs.tryGetComponent types.transform pair.1 = some object := by
      rw [hgood]
      exact (hsole pair.1).mpr hpair
    simp only [updateTransform, hcomponent]
    exact Function.update_self ..
  other := by
    intro stage pair hgood hpair
    unfold updateTransform
    split
    · rfl
    · rename_i transform hcomponent
      have hne : object ≠ transform := by
        rintro rfl
        rw [hgood] at hcomponent
        exact hpair ((hsole pair.1).mp hcomponent)
      exact Function.update_of_ne hne ..

theorem transforms_updateEach (types : ControlTypes T) (componentType : T)
    (update : Address → Transform F → Transform F) (stage : Stage T F) {entity : Entity}
    {object : Address} (hsole : Sole types stage.ecs entity object) :
    (stage.updateEach types componentType update).transforms object =
      match stage.ecs.tryGetComponent componentType entity with
      | none => stage.transforms object
      | some component => update component (stage.transforms object) := by
  have hloop := writesOwn_updateTransform types update hsole
  have hdistinct := stage.ecs.getComponentsWithEntities_ascending componentType
  cases hcomponent : stage.ecs.tryGetComponent componentType entity with
  | none =>
    refine hloop.foldl_other rfl fun pair hpair hown => ?_
    rw [← hown, (Ecs.mem_getComponentsWithEntities _ _ _ _).mp hpair] at hcomponent
    cases hcomponent
  | some component =>
    have hmem := (Ecs.mem_getComponentsWithEntities _ _ _ _).mpr hcomponent
    obtain ⟨before, after, hsplit⟩ := List.append_of_mem hmem
    rw [hsplit, List.pairwise_append, List.pairwise_cons] at hdistinct
    obtain ⟨_, ⟨hafter, _⟩, hbefore⟩ := hdistinct
    unfold updateEach
    rw [hsplit]
    refine hloop.foldl_own rfl ?_ rfl ?_
    · rintro other hother rfl
      exact absurd (hbefore other hother _ List.mem_cons_self) (lt_irrefl _)
    · rintro other hother rfl
      exact absurd (hafter other hother) (lt_irrefl _)

end Stage

end Passes

section Frame

variable {T : Type} [LinearOrder T]

def Stage.controls (types : ControlTypes T) (deltaTimeSeconds : ℝ) (entity : Entity)
    (stage : Stage T ℝ) : Controls where
  inputState := stage.inputState types
  playerControlled :=
    (stage.ecs.tryGetComponent types.playerControlled entity).map stage.playerControlleds
  freeLook := (stage.ecs.tryGetComponent types.freeLook entity).map stage.freeLooks
  deltaTimeSeconds

noncomputable def walked (controls : Controls) (transform : Transform ℝ) : Transform ℝ :=
  match controls.playerControlled with
  | none => transform
  | some component =>
    let moveDirection := MovementSystem.readMoveDirection exactFunctions controls.inputState
    if moveDirection = .zero then transform
    else MovementSystem.move moveDirection controls.deltaTimeSeconds component transform

noncomputable def steered (controls : Controls) (transform : Transform ℝ) : Transform ℝ :=
  match controls.freeLook with
  | none => transform
  | some component =>
    CameraControlSystem.steer exactFunctions
      (CameraControlSystem.readLookInput controls.inputState) controls.deltaTimeSeconds component
      transform

theorem transforms_movement (types : ControlTypes T) (deltaTimeSeconds : ℝ) (stage : Stage T ℝ)
    {entity : Entity} {object : Address} (hsole : Sole types stage.ecs entity object) :
    (MovementSystem.step exactFunctions types deltaTimeSeconds stage).transforms object =
      walked (stage.controls types deltaTimeSeconds entity) (stage.transforms object) := by
  simp only [MovementSystem.step, walked, Stage.controls]
  by_cases hzero : MovementSystem.readMoveDirection exactFunctions (stage.inputState types) = .zero
  · rw [if_pos hzero]
    cases stage.ecs.tryGetComponent types.playerControlled entity with
    | none => rfl
    | some component => exact (if_pos hzero).symm
  · rw [if_neg hzero, Stage.transforms_updateEach types _ _ stage hsole]
    cases stage.ecs.tryGetComponent types.playerControlled entity with
    | none => rfl
    | some component => exact (if_neg hzero).symm

theorem transforms_cameraControl (types : ControlTypes T) (deltaTimeSeconds : ℝ)
    (stage : Stage T ℝ) {entity : Entity} {object : Address}
    (hsole : Sole types stage.ecs entity object) :
    (CameraControlSystem.step exactFunctions types deltaTimeSeconds stage).transforms object =
      steered (stage.controls types deltaTimeSeconds entity) (stage.transforms object) := by
  simp only [CameraControlSystem.step, steered, Stage.controls]
  rw [Stage.transforms_updateEach types _ _ stage hsole]
  cases stage.ecs.tryGetComponent types.freeLook entity with
  | none => rfl
  | some component => rfl

theorem movement_frame (types : ControlTypes T) (deltaTimeSeconds : ℝ) (stage : Stage T ℝ) :
    ∃ transforms, MovementSystem.step exactFunctions types deltaTimeSeconds stage =
      { stage with transforms } := by
  simp only [MovementSystem.step]
  split_ifs
  · exact ⟨_, rfl⟩
  · exact Stage.updateEach_frame types _ _ stage

theorem transforms_frame (types : ControlTypes T) (deltaTimeSeconds : ℝ) (stage : Stage T ℝ)
    {entity : Entity} {object : Address} (hsole : Sole types stage.ecs entity object) :
    (stage.frame exactFunctions types deltaTimeSeconds).transforms object =
      steered (stage.controls types deltaTimeSeconds entity)
        (walked (stage.controls types deltaTimeSeconds entity) (stage.transforms object)) := by
  rw [← transforms_movement types deltaTimeSeconds stage hsole]
  obtain ⟨transforms, hmoved⟩ := movement_frame types deltaTimeSeconds stage
  rw [Stage.frame, hmoved]
  exact transforms_cameraControl types deltaTimeSeconds { stage with transforms } hsole

end Frame

theorem readAxis_eq_pull (inputState : InputStateComponent) (positive negative : InputCode) :
    CameraControlSystem.readAxis inputState positive negative =
      (pull (some inputState) positive negative : ℝ) := by
  simp only [CameraControlSystem.readAxis, pull]
  cases inputState.isPressed positive <;> cases inputState.isPressed negative <;> simp

theorem readLookInput_eq (inputState : Option InputStateComponent) :
    CameraControlSystem.readLookInput inputState =
      { turn := (pull inputState keyLeft keyRight : ℝ)
        pitch := (pull inputState keyUp keyDown : ℝ)
        forward := (pull inputState keyW keyS : ℝ)
        strafe := (pull inputState keyD keyA : ℝ) } := by
  cases inputState with
  | none => simp [CameraControlSystem.readLookInput, pull]
  | some inputState => simp only [CameraControlSystem.readLookInput, readAxis_eq_pull]

theorem normalize_zero : Vector3.normalize Real.sqrt ⟨0, 0, 0⟩ = ⟨0, 0, 0⟩ := by
  simp [Vector3.normalize, Vector3.length, Vector3.lengthSquared, Vector3.dot, Vector3.zero]

theorem readMoveDirection_eq (inputState : Option InputStateComponent) :
    MovementSystem.readMoveDirection exactFunctions inputState =
      (⟨pull inputState keyD keyA, pull inputState keyW keyS, 0⟩ : Vector3 ℝ).normalize
        Real.sqrt := by
  cases inputState with
  | none =>
    simp only [MovementSystem.readMoveDirection, pull, Int.cast_zero, normalize_zero]
    rfl
  | some inputState =>
    simp only [MovementSystem.readMoveDirection, pull, exactFunctions]
    cases inputState.isPressed keyW <;> cases inputState.isPressed keyS <;>
      cases inputState.isPressed keyD <;> cases inputState.isPressed keyA <;>
      simp [Vector3.zero, Vector3.forward, Vector3.right, normalize_zero]

theorem lengthSquared_stride {forward right : Vector3 ℝ} (hforward : forward.lengthSquared = 1)
    (hright : right.lengthSquared = 1) (hdot : Vector3.dot right forward = 0) (f r : ℝ) :
    (forward * f + right * r).lengthSquared = f ^ 2 + r ^ 2 := by
  simp only [Vector3.lengthSquared, Vector3.dot] at *
  simp only [vector3_add_eq, vector3_mul_scalar_eq]
  linear_combination f ^ 2 * hforward + r ^ 2 * hright + 2 * f * r * hdot

theorem squares_eq_zero (f r : Int) : (f : ℝ) ^ 2 + (r : ℝ) ^ 2 = 0 ↔ f = 0 ∧ r = 0 := by
  constructor
  · intro h
    have hf : (f : ℝ) = 0 := by nlinarith [sq_nonneg (f : ℝ), sq_nonneg (r : ℝ)]
    have hr : (r : ℝ) = 0 := by nlinarith [sq_nonneg (f : ℝ), sq_nonneg (r : ℝ)]
    exact ⟨Int.cast_eq_zero.mp hf, Int.cast_eq_zero.mp hr⟩
  · rintro ⟨rfl, rfl⟩
    norm_num

theorem normalize_stride {forward right : Vector3 ℝ} (hforward : forward.lengthSquared = 1)
    (hright : right.lengthSquared = 1) (hdot : Vector3.dot right forward = 0) (f r : Int)
    (speed deltaTimeSeconds : ℝ) :
    (forward * (f : ℝ) + right * (r : ℝ)).normalize Real.sqrt * speed * deltaTimeSeconds =
      stride forward right f r (speed * deltaTimeSeconds) := by
  have hlength : (forward * (f : ℝ) + right * (r : ℝ)).length Real.sqrt =
      Real.sqrt ((f : ℝ) ^ 2 + (r : ℝ) ^ 2) := by
    rw [Vector3.length, lengthSquared_stride hforward hright hdot]
  have hzero : Real.sqrt ((f : ℝ) ^ 2 + (r : ℝ) ^ 2) = 0 ↔ f = 0 ∧ r = 0 := by
    rw [Real.sqrt_eq_zero (by positivity), squares_eq_zero]
  simp only [Vector3.normalize, hlength, hzero, stride]
  split_ifs with h
  · simp [Vector3.zero]
  · simp only [vector3_div_scalar_eq, vector3_mul_scalar_eq]
    ext <;> ring

theorem sin_le_of_limit {pitch : ℝ} (h : |pitch| ≤ pitchLimit) :
    |Real.sin pitch| ≤ gimbalLockThreshold := by
  have hlow := Real.pi_gt_d2
  have hhigh := Real.pi_lt_d2
  unfold pitchLimit at h
  have habs := abs_nonneg pitch
  have hpi : |pitch| ≤ Real.pi := by linarith
  have hgap : abs (Real.pi / 2 - |pitch|) ≤ Real.pi := abs_le.mpr ⟨by linarith, by linarith⟩
  have hbound := Real.cos_le_one_sub_mul_cos_sq hgap
  rw [Real.cos_pi_div_two_sub] at hbound
  rw [Real.abs_sin_eq_sin_abs_of_abs_le_pi hpi]
  have hcurve : 1 / 5 ≤ 2 / Real.pi ^ 2 := by
    rw [div_le_div_iff₀ (by norm_num) (by positivity)]
    nlinarith
  have hsquare : (7 / 100 : ℝ) ^ 2 ≤ (Real.pi / 2 - |pitch|) ^ 2 := by
    apply pow_le_pow_left₀ (by norm_num)
    linarith
  calc Real.sin |pitch| ≤ 1 - 2 / Real.pi ^ 2 * (Real.pi / 2 - |pitch|) ^ 2 := hbound
    _ ≤ 1 - 1 / 5 * (7 / 100) ^ 2 := by
      have hproduct := mul_le_mul hcurve hsquare (by norm_num) (by positivity)
      linarith
    _ ≤ gimbalLockThreshold := by norm_num [gimbalLockThreshold]

/-- The rotation is the authored one, or turns every vector as the heading does. -/
def ShownBy (aim : Aim) (rotation : PlaygroundEngine.Quaternion ℝ) : Prop :=
  match aim with
  | .authored authored => rotation = authored
  | .heading yaw pitch => |pitch| ≤ pitchLimit ∧
    rotation.SameRotation (.fromEulerAngles exactFunctions { pitch, yaw, roll := 0 })

namespace ShownBy

variable {aim : Aim} {rotation : PlaygroundEngine.Quaternion ℝ}

theorem forward (h : ShownBy aim rotation) : rotation * (.forward : Vector3 ℝ) = aim.forward := by
  cases aim with
  | authored authored => rw [show rotation = authored from h]; rfl
  | heading yaw pitch => rw [h.2, fromEulerAngles_forward]; rfl

theorem right (h : ShownBy aim rotation) : rotation * (.right : Vector3 ℝ) = aim.right := by
  cases aim with
  | authored authored => rw [show rotation = authored from h]; rfl
  | heading yaw pitch =>
    rw [h.2, fromEulerAngles_right]
    simp [EulerAngles.rightAxis, Aim.right]

end ShownBy

theorem toEulerAngles_congr {q r : PlaygroundEngine.Quaternion ℝ} (h : q.SameRotation r) :
    q.toEulerAngles exactFunctions = r.toEulerAngles exactFunctions := by
  simp only [Quaternion.toEulerAngles, h _]

theorem pitchLimit_le : pitchLimit ≤ Real.pi / 2 := by
  have hlow := Real.pi_gt_d2
  unfold pitchLimit
  linarith

theorem toEulerAngles_heading {yaw pitch : ℝ} (h : |pitch| ≤ pitchLimit) :
    let angles := Quaternion.toEulerAngles exactFunctions
      (.fromEulerAngles exactFunctions { pitch, yaw, roll := 0 })
    angles.pitch = pitch ∧ Real.cos angles.yaw = Real.cos yaw ∧
      Real.sin angles.yaw = Real.sin yaw := by
  have hsin := sin_le_of_limit h
  have hrange := h.trans pitchLimit_le
  have hcos := cos_pos_of_sin hrange hsin
  have hforward := fromEulerAngles_forward { pitch, yaw, roll := 0 }
  have hclear : (Quaternion.fromEulerAngles exactFunctions
      { pitch, yaw, roll := 0 }).Clear := by
    rw [Quaternion.Clear, hforward]
    exact hsin
  have hangles := toEulerAngles_clear (unit_fromEulerAngles _) hclear
  rw [hforward] at hangles
  simp only [EulerAngles.forwardAxis, neg_neg] at hangles
  have hcircle := Real.sin_sq_add_cos_sq yaw
  obtain ⟨hx, hy⟩ := polar_atan2 (x := Real.cos pitch * Real.cos yaw)
    (y := Real.cos pitch * Real.sin yaw) hcos.le
    (by linear_combination Real.cos pitch ^ 2 * hcircle)
  obtain ⟨hlow, hhigh⟩ := abs_le.mp hrange
  rw [hangles]
  exact ⟨Real.arcsin_sin hlow hhigh, mul_left_cancel₀ hcos.ne' hx, mul_left_cancel₀ hcos.ne' hy⟩

theorem sameRotation_yaw {pitch yaw other : ℝ} (hcos : Real.cos yaw = Real.cos other)
    (hsin : Real.sin yaw = Real.sin other) (angle : ℝ) :
    Quaternion.SameRotation
      (.fromEulerAngles exactFunctions { pitch, yaw := yaw + angle, roll := 0 })
      (.fromEulerAngles exactFunctions { pitch, yaw := other + angle, roll := 0 }) := by
  apply sameRotation_of_axes (unit_fromEulerAngles _) (unit_fromEulerAngles _)
  · rw [fromEulerAngles_right, fromEulerAngles_right]
    simp only [EulerAngles.rightAxis, Real.cos_add, Real.sin_add, hcos, hsin]
  · rw [fromEulerAngles_forward, fromEulerAngles_forward]
    simp only [EulerAngles.forwardAxis, Real.cos_add, Real.sin_add, hcos, hsin]

theorem clamp_eq_max_min (value : ℝ) :
    clamp value (-CameraControlSystem.pitchLimitRadians) CameraControlSystem.pitchLimitRadians =
      max (-pitchLimit) (min pitchLimit value) := by
  have hlimit : (CameraControlSystem.pitchLimitRadians : ℝ) = pitchLimit := by
    norm_num [CameraControlSystem.pitchLimitRadians, pitchLimit]
  rw [hlimit, clamp]
  have hpos : -pitchLimit ≤ pitchLimit := by norm_num [pitchLimit]
  split_ifs with hbelow habove
  · rw [min_eq_right (by linarith), max_eq_left hbelow.le]
  · rw [min_eq_left habove.le, max_eq_right hpos]
  · rw [min_eq_right (not_lt.mp habove), max_eq_right (not_lt.mp hbelow)]

theorem abs_clamped_le (value : ℝ) : |max (-pitchLimit) (min pitchLimit value)| ≤ pitchLimit := by
  have hpos : -pitchLimit ≤ pitchLimit := by norm_num [pitchLimit]
  exact abs_le.mpr ⟨le_max_left .., max_le hpos (min_le_left ..)⟩

theorem ShownBy.angles {aim : Aim} {rotation : PlaygroundEngine.Quaternion ℝ}
    (h : ShownBy aim rotation) :
    (rotation.toEulerAngles exactFunctions).pitch = aim.pitch ∧
      Real.cos (rotation.toEulerAngles exactFunctions).yaw = Real.cos aim.yaw ∧
      Real.sin (rotation.toEulerAngles exactFunctions).yaw = Real.sin aim.yaw := by
  cases aim with
  | authored authored =>
    rw [show rotation = authored from h]
    exact ⟨rfl, rfl, rfl⟩
  | heading yaw pitch =>
    rw [toEulerAngles_congr h.2]
    exact toEulerAngles_heading h.1

theorem rotation_turn {yawPull pitchPull : Int} (h : ¬ (yawPull = 0 ∧ pitchPull = 0))
    (forward strafe speed deltaTimeSeconds : ℝ) (transform : Transform ℝ) :
    (CameraControlSystem.turn exactFunctions ⟨yawPull, pitchPull, forward, strafe⟩ speed
        deltaTimeSeconds transform).rotation =
      .fromEulerAngles exactFunctions
        { pitch := max (-pitchLimit) (min pitchLimit
            ((transform.rotation.toEulerAngles exactFunctions).pitch +
              pitchPull * (speed * deltaTimeSeconds)))
          yaw := (transform.rotation.toEulerAngles exactFunctions).yaw +
            yawPull * (speed * deltaTimeSeconds)
          roll := 0 } := by
  have hcast : ¬ ((yawPull : ℝ) = 0 ∧ (pitchPull : ℝ) = 0) := by
    rw [Int.cast_eq_zero, Int.cast_eq_zero]
    exact h
  simp only [CameraControlSystem.turn]
  rw [if_neg hcast, clamp_eq_max_min, mul_assoc, mul_assoc]

theorem aim_turn {yawPull pitchPull : Int} (h : ¬ (yawPull = 0 ∧ pitchPull = 0)) (angle : ℝ)
    (aim : Aim) :
    aim.turn yawPull pitchPull angle =
      .heading (aim.yaw + yawPull * angle)
        (max (-pitchLimit) (min pitchLimit (aim.pitch + pitchPull * angle))) :=
  if_neg h

theorem turn_still (forward strafe speed deltaTimeSeconds : ℝ) (transform : Transform ℝ) :
    CameraControlSystem.turn exactFunctions ⟨0, 0, forward, strafe⟩ speed deltaTimeSeconds
      transform = transform :=
  if_pos ⟨rfl, rfl⟩

theorem ShownBy.turn {aim : Aim} {transform : Transform ℝ} (h : ShownBy aim transform.rotation)
    (yawPull pitchPull : Int) (forward strafe speed deltaTimeSeconds : ℝ) :
    ShownBy (aim.turn yawPull pitchPull (speed * deltaTimeSeconds))
      (CameraControlSystem.turn exactFunctions ⟨yawPull, pitchPull, forward, strafe⟩ speed
        deltaTimeSeconds transform).rotation := by
  by_cases hstill : yawPull = 0 ∧ pitchPull = 0
  · obtain ⟨rfl, rfl⟩ := hstill
    rw [Int.cast_zero, turn_still]
    exact h
  · obtain ⟨hpitch, hcos, hsin⟩ := h.angles
    rw [rotation_turn hstill, hpitch, aim_turn hstill]
    exact ⟨abs_clamped_le _, sameRotation_yaw hcos hsin _⟩

theorem unit_turn {transform : Transform ℝ} (h : transform.rotation.lengthSquared = 1)
    (input : LookInput ℝ) (speed deltaTimeSeconds : ℝ) :
    (CameraControlSystem.turn exactFunctions input speed
      deltaTimeSeconds transform).rotation.lengthSquared = 1 := by
  unfold CameraControlSystem.turn
  split_ifs
  · exact h
  · exact unit_fromEulerAngles _

theorem turn_frame (input : LookInput ℝ) (speed deltaTimeSeconds : ℝ) (transform : Transform ℝ) :
    (CameraControlSystem.turn exactFunctions input speed deltaTimeSeconds transform).position =
        transform.position ∧
      (CameraControlSystem.turn exactFunctions input speed deltaTimeSeconds transform).scale =
        transform.scale := by
  unfold CameraControlSystem.turn
  split_ifs
  · exact ⟨rfl, rfl⟩
  · exact ⟨rfl, rfl⟩

/-! ### Frames and runs -/

/-- The transform stands as the pose does. -/
structure Shows (pose : Pose) (transform : Transform ℝ) : Prop where
  position : transform.position = pose.position
  aim : ShownBy pose.aim transform.rotation
  unit : transform.rotation.lengthSquared = 1
  scale : transform.scale = pose.scale

theorem position_move {transform : Transform ℝ} (hunit : transform.rotation.lengthSquared = 1)
    (turn pitch : ℝ) (forwardPull rightPull : Int) (speed deltaTimeSeconds : ℝ) :
    CameraControlSystem.move exactFunctions ⟨turn, pitch, forwardPull, rightPull⟩ speed
        deltaTimeSeconds transform =
      { transform with
        position := transform.position +
          stride (transform.rotation * (.forward : Vector3 ℝ))
            (transform.rotation * (.right : Vector3 ℝ)) forwardPull rightPull
            (speed * deltaTimeSeconds) } := by
  have hforward := lengthSquared_rotate hunit unit_forward
  have hright := lengthSquared_rotate hunit unit_right
  have hdot := right_dot_forward hunit
  have hstride := normalize_stride hforward hright hdot forwardPull rightPull speed deltaTimeSeconds
  have hzero : (transform.rotation * (.forward : Vector3 ℝ) * (forwardPull : ℝ) +
      transform.rotation * (.right : Vector3 ℝ) * (rightPull : ℝ)).lengthSquared = 0 ↔
        forwardPull = 0 ∧ rightPull = 0 := by
    rw [lengthSquared_stride hforward hright hdot, squares_eq_zero]
  by_cases hstill : forwardPull = 0 ∧ rightPull = 0
  · rw [stride, if_pos hstill]
    refine (if_pos (hzero.mpr hstill)).trans ?_
    simp
  · rw [← hstride]
    exact if_neg (mt hzero.mp hstill)

theorem Shows.walked {pose : Pose} {transform : Transform ℝ} (h : Shows pose transform)
    {controls : Controls} {component : PlayerControlledComponent ℝ}
    (hcomponent : controls.playerControlled = some component) :
    Shows (pose.walk controls component.moveSpeedMetersPerSecond)
      (walked controls transform) := by
  have haxes : (⟨pull controls.inputState keyD keyA, pull controls.inputState keyW keyS, 0⟩ :
      Vector3 ℝ) = (.forward : Vector3 ℝ) * (pull controls.inputState keyW keyS : ℝ) +
        (.right : Vector3 ℝ) * (pull controls.inputState keyD keyA : ℝ) := by
    simp [Vector3.forward, Vector3.right]
  have hdot : Vector3.dot (.right : Vector3 ℝ) .forward = 0 := by
    simp [Vector3.dot, Vector3.right, Vector3.forward]
  have hstride := normalize_stride unit_forward unit_right hdot
    (pull controls.inputState keyW keyS) (pull controls.inputState keyD keyA)
    component.moveSpeedMetersPerSecond controls.deltaTimeSeconds
  simp only [PlaygroundGame.walked, hcomponent]
  rw [readMoveDirection_eq, haxes]
  split_ifs with hzero
  · refine ⟨?_, h.aim, h.unit, h.scale⟩
    rw [Pose.walk, ← hstride, hzero, h.position]
    simp [Vector3.zero]
  · refine ⟨?_, h.aim, h.unit, h.scale⟩
    rw [Pose.walk, ← hstride, ← h.position]
    rfl

theorem Shows.steered {pose : Pose} {transform : Transform ℝ} (h : Shows pose transform)
    {controls : Controls} {component : FreeLookComponent ℝ}
    (hcomponent : controls.freeLook = some component) :
    Shows (pose.look controls component) (steered controls transform) := by
  simp only [PlaygroundGame.steered, hcomponent, CameraControlSystem.steer]
  rw [readLookInput_eq]
  set turned := CameraControlSystem.turn exactFunctions
    ⟨pull controls.inputState keyLeft keyRight, pull controls.inputState keyUp keyDown,
      pull controls.inputState keyW keyS, pull controls.inputState keyD keyA⟩
    component.turnSpeedRadiansPerSecond controls.deltaTimeSeconds transform with hturned
  have hunit : turned.rotation.lengthSquared = 1 := unit_turn h.unit ..
  have haim := h.aim.turn (pull controls.inputState keyLeft keyRight)
    (pull controls.inputState keyUp keyDown) (pull controls.inputState keyW keyS)
    (pull controls.inputState keyD keyA) component.turnSpeedRadiansPerSecond
    controls.deltaTimeSeconds
  rw [← hturned] at haim
  obtain ⟨hposition, hscale⟩ := turn_frame
    ⟨pull controls.inputState keyLeft keyRight, pull controls.inputState keyUp keyDown,
      pull controls.inputState keyW keyS, pull controls.inputState keyD keyA⟩
    component.turnSpeedRadiansPerSecond controls.deltaTimeSeconds transform
  rw [← hturned] at hposition hscale
  rw [position_move hunit]
  refine ⟨?_, haim, hunit, hscale.trans h.scale⟩
  simp only [Pose.look]
  rw [hposition, h.position, haim.forward, haim.right]

theorem Shows.frame {pose : Pose} {transform : Transform ℝ} (h : Shows pose transform)
    (controls : Controls) :
    Shows (pose.deed (.frame controls))
      (PlaygroundGame.steered controls (PlaygroundGame.walked controls transform)) := by
  have hwalked : Shows
      (match controls.playerControlled with
        | none => pose
        | some component => pose.walk controls component.moveSpeedMetersPerSecond)
      (PlaygroundGame.walked controls transform) := by
    cases hcomponent : controls.playerControlled with
    | none =>
      simp only [PlaygroundGame.walked, hcomponent]
      exact h
    | some component => exact h.walked hcomponent
  simp only [Pose.deed]
  cases hcomponent : controls.freeLook with
  | none =>
    simp only [PlaygroundGame.steered, hcomponent]
    exact hwalked
  | some component => exact hwalked.steered hcomponent

/-- The transform object of an entity over a run: frames of the game, and what other parts write
into it between them. -/
inductive Flown {T : Type} [LinearOrder T] (types : ControlTypes T) (entity : Entity)
    (object : Address) (start : Transform ℝ) : List Deed → Transform ℝ → Prop where
  | start : Flown types entity object start [] start
  | authored {deeds : List Deed} {transform next : Transform ℝ} :
    Flown types entity object start deeds transform → next.rotation.lengthSquared = 1 →
    Flown types entity object start (deeds ++ [.authored next]) next
  | frame {deeds : List Deed} {stage : Stage T ℝ} {deltaTimeSeconds : ℝ} :
    Flown types entity object start deeds (stage.transforms object) →
    Sole types stage.ecs entity object →
    Flown types entity object start
      (deeds ++ [.frame (stage.controls types deltaTimeSeconds entity)])
      ((stage.frame exactFunctions types deltaTimeSeconds).transforms object)

structure Level (transform : Transform ℝ) : Prop where
  right : transform.getRight.z = 0
  up : 0 < transform.getUp.z

theorem ShownBy.level {yaw pitch : ℝ} {transform : Transform ℝ}
    (h : ShownBy (.heading yaw pitch) transform.rotation) : Level transform := by
  obtain ⟨hpitch, hsame⟩ := h
  have hcos := cos_pos_of_sin (hpitch.trans pitchLimit_le) (sin_le_of_limit hpitch)
  constructor
  · rw [Transform.getRight, hsame, fromEulerAngles_right]
    simp [EulerAngles.rightAxis]
  · rw [Transform.getUp, hsame, fromEulerAngles_up]
    simpa [EulerAngles.upAxis] using hcos

theorem run_concat (start : Transform ℝ) (deeds : List Deed) (deed : Deed) :
    Pose.run start (deeds ++ [deed]) = (Pose.run start deeds).deed deed := by
  rw [Pose.run, List.foldl_append]
  rfl

theorem shows_run {T : Type} [LinearOrder T] {types : ControlTypes T} {entity : Entity}
    {object : Address} {start transform : Transform ℝ} {deeds : List Deed}
    (hstart : start.rotation.lengthSquared = 1)
    (h : Flown types entity object start deeds transform) :
    Shows (Pose.run start deeds) transform := by
  induction h with
  | start => exact ⟨rfl, rfl, hstart, rfl⟩
  | authored _ hunit _ =>
    rw [run_concat]
    exact ⟨rfl, rfl, hunit, rfl⟩
  | frame _ hsole ih =>
    rw [run_concat, transforms_frame _ _ _ hsole]
    exact ih.frame _

/-- After any run an entity's transform stands as its pose: where the strides along its own axes
have led, turned as the keys have turned the two numbers since another part last wrote it. From the
first such turn on its horizon is level. -/
theorem transforms_keep_poses {T : Type} [LinearOrder T] {types : ControlTypes T} {entity : Entity}
    {object : Address} {start transform : Transform ℝ} {deeds : List Deed}
    (hstart : start.rotation.lengthSquared = 1)
    (h : Flown types entity object start deeds transform) :
    Shows (Pose.run start deeds) transform ∧
      ∀ yaw pitch, (Pose.run start deeds).aim = .heading yaw pitch → Level transform := by
  have hshows := shows_run hstart h
  refine ⟨hshows, fun yaw pitch haim => ?_⟩
  have hshown := hshows.aim
  rw [haim] at hshown
  exact hshown.level

noncomputable def turningStage : Stage Nat ℝ where
  ecs := Ecs.run [.addEntity, .addComponentToEntity 1 5 ⟨1⟩, .addComponentToEntity 3 6 ⟨1⟩,
    .addEntity, .addComponentToEntity 0 7 ⟨2⟩]
  inputStates _ := { currentInputMap := AList.insert keyLeft .pressed ∅ }
  transforms _ := ⟨⟨0, 0, 0⟩, ⟨0, 0, 0, 1⟩, ⟨1, 1, 1⟩⟩
  playerControlleds _ := ⟨3⟩
  freeLooks _ := ⟨1.5, 1.5⟩

theorem sole_turningStage : Sole ⟨0, 1, 2, 3⟩ turningStage.ecs ⟨1⟩ 5 := by
  intro other
  rw [← Ecs.mem_getComponentsWithEntities]
  have hentities : turningStage.ecs.getComponentsWithEntities 1 = [(⟨1⟩, 5)] := by decide +kernel
  rw [hentities]
  simp

theorem transforms_keep_poses_turning :
    Level ((turningStage.frame exactFunctions ⟨0, 1, 2, 3⟩ 1).transforms 5) := by
  have hflown : Flown ⟨0, 1, 2, 3⟩ ⟨1⟩ 5 (turningStage.transforms 5)
      ([] ++ [.frame (turningStage.controls ⟨0, 1, 2, 3⟩ 1 ⟨1⟩)])
      ((turningStage.frame exactFunctions ⟨0, 1, 2, 3⟩ 1).transforms 5) :=
    Flown.start.frame sole_turningStage
  have hunit : (turningStage.transforms 5).rotation.lengthSquared = 1 := by
    norm_num [turningStage, Quaternion.lengthSquared]
  have hpull : ¬ (pull (turningStage.inputState ⟨0, 1, 2, 3⟩) keyLeft keyRight = 0 ∧
      pull (turningStage.inputState ⟨0, 1, 2, 3⟩) keyUp keyDown = 0) := by
    decide +kernel
  exact (transforms_keep_poses hunit hflown).2 _ _ (aim_turn hpull _ _)

end PlaygroundGame
