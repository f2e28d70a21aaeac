import Mathlib.Analysis.Complex.Trigonometric
import Mathlib.Analysis.SpecialFunctions.Complex.Arg
import Mathlib.Analysis.SpecialFunctions.Trigonometric.Inverse
import PlaygroundEngine.Math.Types

/-!
# Rotations from angles and back

`FromEulerAngles` and `ToEulerAngles` over any functions of `<cmath>`; their laws are those of
the exact ones.
-/

namespace PlaygroundEngine

set_option autoImplicit false

structure EulerAngles (F : Type) where
  pitch : F
  yaw : F
  roll : F
  deriving DecidableEq

/-- What `<cmath>` and `<numbers>` supply. -/
structure MathFunctions (F : Type) where
  sqrt : F → F
  sin : F → F
  cos : F → F
  asin : F → F
  atan2 : F → F → F
  copysign : F → F → F
  pi : F

section Conversions

variable {F : Type} [Field F]

def Vector3.zero : Vector3 F := ⟨0, 0, 0⟩

instance vector3DivScalar : HDiv (Vector3 F) F (Vector3 F) :=
  ⟨fun vector scalar => ⟨vector.x / scalar, vector.y / scalar, vector.z / scalar⟩⟩

@[simp] theorem vector3_div_scalar_eq (v : Vector3 F) (s : F) :
    v / s = ⟨v.x / s, v.y / s, v.z / s⟩ := rfl

variable [LinearOrder F]

def Vector3.normalize (sqrt : F → F) (value : Vector3 F) : Vector3 F :=
  let length := value.length sqrt
  if length = 0 then .zero else value / length

def clamp (value low high : F) : F :=
  if value < low then low else if high < value then high else value

variable (math : MathFunctions F)

def Quaternion.fromAxisAngle (axis : Vector3 F) (angleRadians : F) : Quaternion F :=
  let unitAxis := axis.normalize math.sqrt
  let halfAngle := angleRadians * 0.5
  let sine := math.sin halfAngle
  ⟨unitAxis.x * sine, unitAxis.y * sine, unitAxis.z * sine, math.cos halfAngle⟩

def Quaternion.fromEulerAngles (angles : EulerAngles F) : Quaternion F :=
  fromAxisAngle math .up angles.yaw * fromAxisAngle math .right angles.pitch *
    fromAxisAngle math .forward angles.roll

def gimbalLockThreshold : F := 0.999999

def Quaternion.toEulerAngles (rotation : Quaternion F) : EulerAngles F :=
  let right := rotation * (.right : Vector3 F)
  let forward := rotation * (.forward : Vector3 F)
  let up := rotation * (.up : Vector3 F)
  let sinPitch := clamp forward.z (-1) 1
  if gimbalLockThreshold < |sinPitch| then
    { pitch := math.copysign (math.pi / 2.0) sinPitch
      yaw := math.atan2 right.y right.x
      roll := 0 }
  else
    { pitch := math.asin sinPitch
      yaw := math.atan2 (-forward.x) forward.y
      roll := math.atan2 (-right.z) up.z }

end Conversions

section Frames

variable {F : Type} [Field F]

def Quaternion.SameRotation (q r : Quaternion F) : Prop := ∀ v : Vector3 F, q * v = r * v

theorem rotate_axes (q : Quaternion F) (v : Vector3 F) :
    q * v = (q * (.right : Vector3 F)) * v.x + (q * (.forward : Vector3 F)) * v.y +
      (q * (.up : Vector3 F)) * v.z := by
  simp only [rotate_eq]
  ext <;> simp [Vector3.right, Vector3.forward, Vector3.up, Vector3.cross] <;> ring

theorem cross_right_forward : Vector3.cross (.right : Vector3 F) .forward = .up := by
  simp [Vector3.cross, Vector3.right, Vector3.forward, Vector3.up]

theorem sameRotation_of_axes {q r : Quaternion F} (hq : q.lengthSquared = 1)
    (hr : r.lengthSquared = 1) (hright : q * (.right : Vector3 F) = r * (.right : Vector3 F))
    (hforward : q * (.forward : Vector3 F) = r * (.forward : Vector3 F)) : q.SameRotation r := by
  have hup : q * (.up : Vector3 F) = r * (.up : Vector3 F) := by
    rw [← cross_right_forward, ← cross_rotate hq, ← cross_rotate hr, hright, hforward]
  intro v
  rw [rotate_axes q, rotate_axes r, hright, hforward, hup]

end Frames

section Exact

noncomputable def exactFunctions : MathFunctions ℝ where
  sqrt := Real.sqrt
  sin := Real.sin
  cos := Real.cos
  asin := Real.arcsin
  atan2 y x := Complex.arg ⟨x, y⟩
  copysign magnitude sign := if sign < 0 then -|magnitude| else |magnitude|
  pi := Real.pi

theorem atan2_polar {c θ : ℝ} (hc : 0 < c) (hlow : -Real.pi < θ) (hhigh : θ ≤ Real.pi) :
    exactFunctions.atan2 (c * Real.sin θ) (c * Real.cos θ) = θ := by
  have hpoint : (⟨c * Real.cos θ, c * Real.sin θ⟩ : ℂ) =
      c * (Complex.cos θ + Complex.sin θ * Complex.I) := by
    apply Complex.ext <;> simp [Complex.cos_ofReal_re, Complex.sin_ofReal_re,
      Complex.cos_ofReal_im, Complex.sin_ofReal_im]
  change Complex.arg ⟨c * Real.cos θ, c * Real.sin θ⟩ = θ
  rw [hpoint]
  exact Complex.arg_mul_cos_add_sin_mul_I hc ⟨hlow, hhigh⟩

theorem polar_atan2 {x y c : ℝ} (hc : 0 ≤ c) (h : x * x + y * y = c * c) :
    c * Real.cos (exactFunctions.atan2 y x) = x ∧ c * Real.sin (exactFunctions.atan2 y x) = y := by
  have hnorm : ‖(⟨x, y⟩ : ℂ)‖ = c := by
    rw [Complex.norm_def, Complex.normSq_mk, h, Real.sqrt_mul_self hc]
  have hcos := Complex.norm_mul_cos_arg (⟨x, y⟩ : ℂ)
  have hsin := Complex.norm_mul_sin_arg (⟨x, y⟩ : ℂ)
  rw [hnorm] at hcos hsin
  exact ⟨hcos, hsin⟩

theorem normalize_of_unit {v : Vector3 ℝ} (h : v.lengthSquared = 1) :
    v.normalize Real.sqrt = v := by
  have hlength : v.length Real.sqrt = 1 := by rw [Vector3.length, h, Real.sqrt_one]
  rw [Vector3.normalize, hlength, if_neg one_ne_zero]
  exact Vector3.ext (div_one _) (div_one _) (div_one _)

theorem fromAxisAngle_of_unit {axis : Vector3 ℝ} (h : axis.lengthSquared = 1) (angle : ℝ) :
    Quaternion.fromAxisAngle exactFunctions axis angle =
      ⟨axis.x * Real.sin (angle / 2), axis.y * Real.sin (angle / 2),
        axis.z * Real.sin (angle / 2), Real.cos (angle / 2)⟩ := by
  have hnormal : axis.normalize exactFunctions.sqrt = axis := normalize_of_unit h
  have hhalf : angle * 0.5 = angle / 2 := by ring
  simp only [Quaternion.fromAxisAngle, hnormal, hhalf]
  rfl

theorem unit_fromAxisAngle {axis : Vector3 ℝ} (h : axis.lengthSquared = 1) (angle : ℝ) :
    (Quaternion.fromAxisAngle exactFunctions axis angle).lengthSquared = 1 := by
  rw [fromAxisAngle_of_unit h]
  simp only [Quaternion.lengthSquared, Vector3.lengthSquared, Vector3.dot] at h ⊢
  linear_combination Real.sin (angle / 2) ^ 2 * h + Real.sin_sq_add_cos_sq (angle / 2)

theorem sin_eq_half (angle : ℝ) :
    Real.sin angle = 2 * Real.sin (angle / 2) * Real.cos (angle / 2) := by
  rw [← Real.sin_two_mul, mul_div_cancel₀ angle two_ne_zero]

theorem cos_eq_half (angle : ℝ) : Real.cos angle = 1 - 2 * Real.sin (angle / 2) ^ 2 := by
  have hdouble := Real.cos_two_mul (angle / 2)
  rw [mul_div_cancel₀ angle two_ne_zero, Real.cos_sq'] at hdouble
  linear_combination hdouble

/-- The turn about an axis splits a vector into its part along the axis and the rest. -/
theorem fromAxisAngle_rotate {axis : Vector3 ℝ} (h : axis.lengthSquared = 1) (angle : ℝ)
    (v : Vector3 ℝ) :
    Quaternion.fromAxisAngle exactFunctions axis angle * v =
      v * Real.cos angle + Vector3.cross axis v * Real.sin angle +
        axis * (Vector3.dot axis v * (1 - Real.cos angle)) := by
  have hsquare : axis.x ^ 2 + axis.y ^ 2 + axis.z ^ 2 = 1 := by
    rw [← h]
    simp only [Vector3.lengthSquared, Vector3.dot]
    ring
  rw [fromAxisAngle_of_unit h, rotate_eq, sin_eq_half angle, cos_eq_half angle]
  ext
  · simp [Vector3.cross, Vector3.dot]
    linear_combination (-2 * Real.sin (angle / 2) ^ 2 * v.x) * hsquare
  · simp [Vector3.cross, Vector3.dot]
    linear_combination (-2 * Real.sin (angle / 2) ^ 2 * v.y) * hsquare
  · simp [Vector3.cross, Vector3.dot]
    linear_combination (-2 * Real.sin (angle / 2) ^ 2 * v.z) * hsquare

theorem unit_up : (Vector3.up : Vector3 ℝ).lengthSquared = 1 := by
  simp [Vector3.lengthSquared, Vector3.dot, Vector3.up]

theorem unit_right : (Vector3.right : Vector3 ℝ).lengthSquared = 1 := by
  simp [Vector3.lengthSquared, Vector3.dot, Vector3.right]

theorem unit_forward : (Vector3.forward : Vector3 ℝ).lengthSquared = 1 := by
  simp [Vector3.lengthSquared, Vector3.dot, Vector3.forward]

theorem yaw_rotate (angle : ℝ) (v : Vector3 ℝ) :
    Quaternion.fromAxisAngle exactFunctions .up angle * v =
      ⟨v.x * Real.cos angle - v.y * Real.sin angle, v.x * Real.sin angle + v.y * Real.cos angle,
        v.z⟩ := by
  rw [fromAxisAngle_rotate unit_up]
  ext <;> simp [Vector3.up, Vector3.cross, Vector3.dot] <;> ring

theorem pitch_rotate (angle : ℝ) (v : Vector3 ℝ) :
    Quaternion.fromAxisAngle exactFunctions .right angle * v =
      ⟨v.x, v.y * Real.cos angle - v.z * Real.sin angle,
        v.y * Real.sin angle + v.z * Real.cos angle⟩ := by
  rw [fromAxisAngle_rotate unit_right]
  ext <;> simp [Vector3.right, Vector3.cross, Vector3.dot] <;> ring

theorem roll_rotate (angle : ℝ) (v : Vector3 ℝ) :
    Quaternion.fromAxisAngle exactFunctions .forward angle * v =
      ⟨v.x * Real.cos angle + v.z * Real.sin angle, v.y,
        v.z * Real.cos angle - v.x * Real.sin angle⟩ := by
  rw [fromAxisAngle_rotate unit_forward]
  ext <;> simp [Vector3.forward, Vector3.cross, Vector3.dot] <;> ring

namespace EulerAngles

noncomputable def rightAxis (angles : EulerAngles ℝ) : Vector3 ℝ where
  x := Real.cos angles.yaw * Real.cos angles.roll -
    Real.sin angles.yaw * Real.sin angles.pitch * Real.sin angles.roll
  y := Real.sin angles.yaw * Real.cos angles.roll +
    Real.cos angles.yaw * Real.sin angles.pitch * Real.sin angles.roll
  z := -(Real.cos angles.pitch * Real.sin angles.roll)

noncomputable def forwardAxis (angles : EulerAngles ℝ) : Vector3 ℝ where
  x := -(Real.cos angles.pitch * Real.sin angles.yaw)
  y := Real.cos angles.pitch * Real.cos angles.yaw
  z := Real.sin angles.pitch

noncomputable def upAxis (angles : EulerAngles ℝ) : Vector3 ℝ where
  x := Real.cos angles.yaw * Real.sin angles.roll +
    Real.sin angles.yaw * Real.sin angles.pitch * Real.cos angles.roll
  y := Real.sin angles.yaw * Real.sin angles.roll -
    Real.cos angles.yaw * Real.sin angles.pitch * Real.cos angles.roll
  z := Real.cos angles.pitch * Real.cos angles.roll

end EulerAngles

theorem unit_fromEulerAngles (angles : EulerAngles ℝ) :
    (Quaternion.fromEulerAngles exactFunctions angles).lengthSquared = 1 :=
  unit_mul (unit_mul (unit_fromAxisAngle unit_up _) (unit_fromAxisAngle unit_right _))
    (unit_fromAxisAngle unit_forward _)

theorem fromEulerAngles_rotate (angles : EulerAngles ℝ) (v : Vector3 ℝ) :
    Quaternion.fromEulerAngles exactFunctions angles * v =
      Quaternion.fromAxisAngle exactFunctions .up angles.yaw *
        (Quaternion.fromAxisAngle exactFunctions .right angles.pitch *
          (Quaternion.fromAxisAngle exactFunctions .forward angles.roll * v)) := by
  have hyaw := unit_fromAxisAngle unit_up angles.yaw
  have hpitch := unit_fromAxisAngle unit_right angles.pitch
  have hroll := unit_fromAxisAngle unit_forward angles.roll
  rw [Quaternion.fromEulerAngles, mul_rotate (unit_mul hyaw hpitch) hroll, mul_rotate hyaw hpitch]

theorem fromEulerAngles_right (angles : EulerAngles ℝ) :
    Quaternion.fromEulerAngles exactFunctions angles * (.right : Vector3 ℝ) =
      angles.rightAxis := by
  rw [fromEulerAngles_rotate, roll_rotate, pitch_rotate, yaw_rotate]
  ext <;> simp [Vector3.right, EulerAngles.rightAxis] <;> ring

theorem fromEulerAngles_forward (angles : EulerAngles ℝ) :
    Quaternion.fromEulerAngles exactFunctions angles * (.forward : Vector3 ℝ) =
      angles.forwardAxis := by
  rw [fromEulerAngles_rotate, roll_rotate, pitch_rotate, yaw_rotate]
  ext <;> simp [Vector3.forward, EulerAngles.forwardAxis]

theorem fromEulerAngles_up (angles : EulerAngles ℝ) :
    Quaternion.fromEulerAngles exactFunctions angles * (.up : Vector3 ℝ) = angles.upAxis := by
  rw [fromEulerAngles_rotate, roll_rotate, pitch_rotate, yaw_rotate]
  ext <;> simp [Vector3.up, EulerAngles.upAxis] <;> ring

/-! ### Reading the angles -/

theorem axes_heights {q : Quaternion ℝ} (hq : q.lengthSquared = 1) :
    (q * (.right : Vector3 ℝ)).z ^ 2 + (q * (.forward : Vector3 ℝ)).z ^ 2 +
      (q * (.up : Vector3 ℝ)).z ^ 2 = 1 := by
  simp only [Quaternion.lengthSquared] at hq
  simp only [rotate_eq]
  simp [Vector3.right, Vector3.forward, Vector3.up, Vector3.cross]
  linear_combination 4 * (q.x ^ 2 + q.y ^ 2) * hq

theorem unit_axis {q : Quaternion ℝ} (hq : q.lengthSquared = 1) {axis : Vector3 ℝ}
    (h : axis.lengthSquared = 1) :
    (q * axis).x ^ 2 + (q * axis).y ^ 2 + (q * axis).z ^ 2 = 1 := by
  have hdot := dot_rotate hq axis axis
  rw [← Vector3.lengthSquared, ← Vector3.lengthSquared, h] at hdot
  rw [← hdot]
  simp only [Vector3.lengthSquared, Vector3.dot]
  ring

theorem right_dot_forward {q : Quaternion ℝ} (hq : q.lengthSquared = 1) :
    Vector3.dot (q * (.right : Vector3 ℝ)) (q * (.forward : Vector3 ℝ)) = 0 := by
  rw [dot_rotate hq]
  simp [Vector3.dot, Vector3.right, Vector3.forward]

theorem up_eq_cross {q : Quaternion ℝ} (hq : q.lengthSquared = 1) :
    q * (.up : Vector3 ℝ) =
      Vector3.cross (q * (.right : Vector3 ℝ)) (q * (.forward : Vector3 ℝ)) := by
  rw [cross_rotate hq, cross_right_forward]

theorem abs_forward_z_le {q : Quaternion ℝ} (hq : q.lengthSquared = 1) :
    |(q * (.forward : Vector3 ℝ)).z| ≤ 1 := by
  have hunit := unit_axis hq unit_forward
  apply abs_le_of_sq_le_sq _ zero_le_one
  nlinarith [sq_nonneg (q * (.forward : Vector3 ℝ)).x, sq_nonneg (q * (.forward : Vector3 ℝ)).y]

theorem clamp_of_abs_le {value : ℝ} (h : |value| ≤ 1) : clamp value (-1) 1 = value := by
  obtain ⟨hlow, hhigh⟩ := abs_le.mp h
  rw [clamp, if_neg (not_lt.mpr hlow), if_neg (not_lt.mpr hhigh)]

def Quaternion.Clear (rotation : Quaternion ℝ) : Prop :=
  |(rotation * (.forward : Vector3 ℝ)).z| ≤ gimbalLockThreshold

theorem toEulerAngles_clear {q : Quaternion ℝ} (hq : q.lengthSquared = 1) (hclear : q.Clear) :
    q.toEulerAngles exactFunctions =
      { pitch := Real.arcsin (q * (.forward : Vector3 ℝ)).z
        yaw := exactFunctions.atan2 (-(q * (.forward : Vector3 ℝ)).x)
          (q * (.forward : Vector3 ℝ)).y
        roll := exactFunctions.atan2 (-(q * (.right : Vector3 ℝ)).z)
          (q * (.up : Vector3 ℝ)).z } := by
  simp only [Quaternion.toEulerAngles]
  rw [clamp_of_abs_le (abs_forward_z_le hq), if_neg (not_lt.mpr hclear)]
  rfl

theorem toEulerAngles_locked {q : Quaternion ℝ} (hq : q.lengthSquared = 1)
    (hlocked : ¬ q.Clear) :
    q.toEulerAngles exactFunctions =
      { pitch := if (q * (.forward : Vector3 ℝ)).z < 0 then -(Real.pi / 2) else Real.pi / 2
        yaw := exactFunctions.atan2 (q * (.right : Vector3 ℝ)).y (q * (.right : Vector3 ℝ)).x
        roll := 0 } := by
  have hhalf : Real.pi / 2.0 = Real.pi / 2 := by norm_num
  have hpi : |Real.pi / 2| = Real.pi / 2 := abs_of_pos (by positivity)
  simp only [Quaternion.toEulerAngles]
  rw [clamp_of_abs_le (abs_forward_z_le hq), if_pos (not_le.mp hlocked)]
  simp only [exactFunctions, hhalf, hpi]

theorem gimbalLockThreshold_lt_one : (gimbalLockThreshold : ℝ) < 1 := by
  norm_num [gimbalLockThreshold]

theorem right_of_heading {q : Quaternion ℝ} (hq : q.lengthSquared = 1) {c yaw roll : ℝ}
    (hc : 0 < c) (hx : c * Real.sin yaw = -(q * (.forward : Vector3 ℝ)).x)
    (hy : c * Real.cos yaw = (q * (.forward : Vector3 ℝ)).y)
    (hright : c * Real.sin roll = -(q * (.right : Vector3 ℝ)).z)
    (hup : c * Real.cos roll = (q * (.up : Vector3 ℝ)).z) :
    Real.cos yaw * Real.cos roll -
        Real.sin yaw * (q * (.forward : Vector3 ℝ)).z * Real.sin roll =
      (q * (.right : Vector3 ℝ)).x ∧
    Real.sin yaw * Real.cos roll +
        Real.cos yaw * (q * (.forward : Vector3 ℝ)).z * Real.sin roll =
      (q * (.right : Vector3 ℝ)).y := by
  have hcross := congrArg Vector3.z (up_eq_cross hq)
  have hdot := right_dot_forward hq
  simp only [Vector3.cross] at hcross
  simp only [Vector3.dot] at hdot
  have hcircle := Real.sin_sq_add_cos_sq yaw
  have hroll : Real.cos roll = (q * (.right : Vector3 ℝ)).x * Real.cos yaw +
      (q * (.right : Vector3 ℝ)).y * Real.sin yaw := by
    apply mul_left_cancel₀ hc.ne'
    linear_combination hup + hcross - (q * (.right : Vector3 ℝ)).x * hy -
      (q * (.right : Vector3 ℝ)).y * hx
  have hlean : (q * (.forward : Vector3 ℝ)).z * Real.sin roll =
      (q * (.right : Vector3 ℝ)).y * Real.cos yaw -
        (q * (.right : Vector3 ℝ)).x * Real.sin yaw := by
    apply mul_left_cancel₀ hc.ne'
    linear_combination (q * (.forward : Vector3 ℝ)).z * hright - hdot -
      (q * (.right : Vector3 ℝ)).y * hy + (q * (.right : Vector3 ℝ)).x * hx
  constructor
  · linear_combination Real.cos yaw * hroll - Real.sin yaw * hlean +
      (q * (.right : Vector3 ℝ)).x * hcircle
  · linear_combination Real.sin yaw * hroll + Real.cos yaw * hlean +
      (q * (.right : Vector3 ℝ)).y * hcircle

/-- Away from the vertical the angles name the rotation they were read from. -/
theorem fromEulerAngles_toEulerAngles {q : Quaternion ℝ} (hq : q.lengthSquared = 1)
    (hclear : q.Clear) :
    (Quaternion.fromEulerAngles exactFunctions (q.toEulerAngles exactFunctions)).SameRotation
      q := by
  have hbound := abs_le.mp (abs_forward_z_le hq)
  have hheight := hclear.trans_lt gimbalLockThreshold_lt_one
  have hsquare : (q * (.forward : Vector3 ℝ)).z ^ 2 < 1 := (sq_lt_one_iff_abs_lt_one _).mpr hheight
  set c := Real.sqrt (1 - (q * (.forward : Vector3 ℝ)).z ^ 2) with hcdef
  have hc : 0 < c := Real.sqrt_pos.mpr (by linarith)
  have hcc : c * c = 1 - (q * (.forward : Vector3 ℝ)).z ^ 2 :=
    Real.mul_self_sqrt (by linarith)
  obtain ⟨hyawCos, hyawSin⟩ := polar_atan2 (x := (q * (.forward : Vector3 ℝ)).y)
    (y := -(q * (.forward : Vector3 ℝ)).x) hc.le (by linarith [unit_axis hq unit_forward])
  obtain ⟨hrollCos, hrollSin⟩ := polar_atan2 (x := (q * (.up : Vector3 ℝ)).z)
    (y := -(q * (.right : Vector3 ℝ)).z) hc.le (by linarith [axes_heights hq])
  have hangles := toEulerAngles_clear hq hclear
  have hsin : Real.sin (Real.arcsin (q * (.forward : Vector3 ℝ)).z) =
      (q * (.forward : Vector3 ℝ)).z := Real.sin_arcsin hbound.1 hbound.2
  have hcos : Real.cos (Real.arcsin (q * (.forward : Vector3 ℝ)).z) = c := Real.cos_arcsin _
  obtain ⟨hrightX, hrightY⟩ := right_of_heading hq hc hyawSin hyawCos hrollSin hrollCos
  apply sameRotation_of_axes (unit_fromEulerAngles _) hq
  · rw [fromEulerAngles_right, hangles]
    apply Vector3.ext
    · simp only [EulerAngles.rightAxis, hsin]
      exact hrightX
    · simp only [EulerAngles.rightAxis, hsin]
      exact hrightY
    · simp only [EulerAngles.rightAxis, hcos]
      linarith
  · rw [fromEulerAngles_forward, hangles]
    apply Vector3.ext
    · simp only [EulerAngles.forwardAxis, hcos]
      linarith
    · simp only [EulerAngles.forwardAxis, hcos]
      exact hyawCos
    · exact hsin

theorem cos_pos_of_sin {pitch : ℝ} (hpitch : |pitch| ≤ Real.pi / 2)
    (hclear : |Real.sin pitch| ≤ gimbalLockThreshold) : 0 < Real.cos pitch := by
  obtain ⟨hlow, hhigh⟩ := abs_le.mp hpitch
  have hsquare : Real.sin pitch ^ 2 < 1 :=
    (sq_lt_one_iff_abs_lt_one _).mpr (hclear.trans_lt gimbalLockThreshold_lt_one)
  have hcircle := Real.sin_sq_add_cos_sq pitch
  apply (Real.cos_nonneg_of_neg_pi_div_two_le_of_le hlow hhigh).lt_of_ne
  intro hzero
  rw [← hzero] at hcircle
  linarith

/-- Angles that no other triple of such angles shares its rotation with. -/
structure EulerAngles.Proper (angles : EulerAngles ℝ) : Prop where
  pitch : |angles.pitch| ≤ Real.pi / 2
  clear : |Real.sin angles.pitch| ≤ gimbalLockThreshold
  yaw : -Real.pi < angles.yaw ∧ angles.yaw ≤ Real.pi
  roll : -Real.pi < angles.roll ∧ angles.roll ≤ Real.pi

theorem toEulerAngles_fromEulerAngles {angles : EulerAngles ℝ} (h : angles.Proper) :
    (Quaternion.fromEulerAngles exactFunctions angles).toEulerAngles exactFunctions = angles := by
  have hcos := cos_pos_of_sin h.pitch h.clear
  obtain ⟨hlow, hhigh⟩ := abs_le.mp h.pitch
  have hforward := fromEulerAngles_forward angles
  have hclear' : (Quaternion.fromEulerAngles exactFunctions angles).Clear := by
    rw [Quaternion.Clear, hforward]
    exact h.clear
  rw [toEulerAngles_clear (unit_fromEulerAngles angles) hclear', hforward,
    fromEulerAngles_right, fromEulerAngles_up]
  simp only [EulerAngles.forwardAxis, EulerAngles.rightAxis, EulerAngles.upAxis, neg_neg]
  rw [Real.arcsin_sin hlow hhigh, atan2_polar hcos h.yaw.1 h.yaw.2,
    atan2_polar hcos h.roll.1 h.roll.2]

theorem sign_mul_abs (value : ℝ) : (if value < 0 then -1 else 1) * value = |value| := by
  split_ifs with h
  · rw [abs_of_neg h, neg_one_mul]
  · rw [abs_of_nonneg (not_lt.mp h), one_mul]

theorem sub_lengthSquared {u v : Vector3 ℝ} (hu : u.lengthSquared = 1)
    (hv : v.lengthSquared = 1) : (u - v).lengthSquared = 2 * (1 - Vector3.dot u v) := by
  simp only [Vector3.lengthSquared, Vector3.dot, vector3_sub_eq] at *
  linear_combination hu + hv

theorem lengthSquared_rotate {q : Quaternion ℝ} (hq : q.lengthSquared = 1) {axis : Vector3 ℝ}
    (h : axis.lengthSquared = 1) : (q * axis).lengthSquared = 1 :=
  (dot_rotate hq axis axis).trans h

theorem right_level {q : Quaternion ℝ} (hq : q.lengthSquared = 1) {ρ : ℝ} (hρ : 0 ≤ ρ)
    (h : (q * (.right : Vector3 ℝ)).x * (q * (.right : Vector3 ℝ)).x +
      (q * (.right : Vector3 ℝ)).y * (q * (.right : Vector3 ℝ)).y = ρ * ρ) :
    |(q * (.forward : Vector3 ℝ)).z| ≤ ρ ∧ ρ ≤ 1 := by
  have hright := unit_axis hq unit_right
  have hheights := axes_heights hq
  constructor
  · apply abs_le_of_sq_le_sq _ hρ
    nlinarith [sq_nonneg (q * (.up : Vector3 ℝ)).z]
  · nlinarith [sq_nonneg (q * (.right : Vector3 ℝ)).z]

/-- Next to the vertical the angles name a rotation whose axes all lie close to those of the
one they were read from. -/
theorem fromEulerAngles_locked {q : Quaternion ℝ} (hq : q.lengthSquared = 1)
    (hlocked : ¬ q.Clear) {axis : Vector3 ℝ}
    (haxis : axis ∈ [(.right : Vector3 ℝ), .forward, .up]) :
    (Quaternion.fromEulerAngles exactFunctions (q.toEulerAngles exactFunctions) * axis -
        q * axis).lengthSquared ≤ 2 * (1 - |(q * (.forward : Vector3 ℝ)).z|) := by
  have hangles := toEulerAngles_locked hq hlocked
  have hhigh : 0 < |(q * (.forward : Vector3 ℝ)).z| :=
    lt_trans (by norm_num [gimbalLockThreshold]) (not_le.mp hlocked)
  set ρ := Real.sqrt ((q * (.right : Vector3 ℝ)).x * (q * (.right : Vector3 ℝ)).x +
    (q * (.right : Vector3 ℝ)).y * (q * (.right : Vector3 ℝ)).y) with hρdef
  have hρρ : (q * (.right : Vector3 ℝ)).x * (q * (.right : Vector3 ℝ)).x +
      (q * (.right : Vector3 ℝ)).y * (q * (.right : Vector3 ℝ)).y = ρ * ρ :=
    (Real.mul_self_sqrt (add_nonneg (mul_self_nonneg _) (mul_self_nonneg _))).symm
  obtain ⟨hlevel, hone⟩ := right_level hq (Real.sqrt_nonneg _) hρρ
  obtain ⟨hcos, hsin⟩ := polar_atan2 (Real.sqrt_nonneg _) hρρ
  set yaw := exactFunctions.atan2 (q * (.right : Vector3 ℝ)).y (q * (.right : Vector3 ℝ)).x
  have hsign := sign_mul_abs (q * (.forward : Vector3 ℝ)).z
  have hpitchSin : Real.sin (if (q * (.forward : Vector3 ℝ)).z < 0 then -(Real.pi / 2)
      else Real.pi / 2) = if (q * (.forward : Vector3 ℝ)).z < 0 then -1 else 1 := by
    split_ifs <;> simp
  have hpitchCos : Real.cos (if (q * (.forward : Vector3 ℝ)).z < 0 then -(Real.pi / 2)
      else Real.pi / 2) = 0 := by
    split_ifs <;> simp
  have hclose : ∀ axis : Vector3 ℝ, axis.lengthSquared = 1 →
      |(q * (.forward : Vector3 ℝ)).z| ≤ Vector3.dot
        (Quaternion.fromEulerAngles exactFunctions (q.toEulerAngles exactFunctions) * axis)
        (q * axis) →
      (Quaternion.fromEulerAngles exactFunctions (q.toEulerAngles exactFunctions) * axis -
        q * axis).lengthSquared ≤ 2 * (1 - |(q * (.forward : Vector3 ℝ)).z|) := by
    intro axis haxis hdot
    rw [sub_lengthSquared (lengthSquared_rotate (unit_fromEulerAngles _) haxis)
      (lengthSquared_rotate hq haxis)]
    linarith
  simp only [List.mem_cons, List.not_mem_nil, or_false] at haxis
  rcases haxis with rfl | rfl | rfl
  · apply hclose _ unit_right
    rw [fromEulerAngles_right, hangles]
    simp only [EulerAngles.rightAxis, hpitchSin, hpitchCos, Vector3.dot, Real.cos_zero,
      Real.sin_zero]
    have hcircle := Real.sin_sq_add_cos_sq yaw
    calc |(q * (.forward : Vector3 ℝ)).z| ≤ ρ := hlevel
      _ = _ := by linear_combination Real.cos yaw * hcos + Real.sin yaw * hsin - ρ * hcircle
  · apply hclose _ unit_forward
    rw [fromEulerAngles_forward, hangles]
    simp only [EulerAngles.forwardAxis, hpitchSin, hpitchCos, Vector3.dot]
    linarith
  · apply hclose _ unit_up
    rw [fromEulerAngles_up, hangles]
    simp only [EulerAngles.upAxis, hpitchSin, hpitchCos, Vector3.dot, Real.cos_zero,
      Real.sin_zero]
    apply le_of_mul_le_mul_left _ (hhigh.trans_le hlevel)
    calc ρ * |(q * (.forward : Vector3 ℝ)).z|
        ≤ 1 * |(q * (.forward : Vector3 ℝ)).z| := mul_le_mul_of_nonneg_right hone hhigh.le
      _ = _ := by
        have hcross := up_eq_cross hq
        have hdot := right_dot_forward hq
        have hright := unit_axis hq unit_right
        simp only [Vector3.dot] at hdot
        rw [hcross, ← hsign]
        simp only [Vector3.cross]
        set σ : ℝ := if (q * (.forward : Vector3 ℝ)).z < 0 then -1 else 1
        set r := q * (.right : Vector3 ℝ)
        set f := q * (.forward : Vector3 ℝ)
        linear_combination (-σ * (r.y * f.z - r.z * f.y)) * hsin +
          σ * (r.z * f.x - r.x * f.z) * hcos - σ * f.z * hright + σ * r.z * hdot

/-- What becomes of a rotation that is read as angles and written back. -/
structure WrittenBack (rotation written : Quaternion ℝ) : Prop where
  unit : written.lengthSquared = 1
  clear : rotation.Clear → written.SameRotation rotation
  locked : ¬ rotation.Clear → ∀ axis ∈ [(.right : Vector3 ℝ), .forward, .up],
    (written * axis - rotation * axis).lengthSquared ≤
      2 * (1 - |(rotation * (.forward : Vector3 ℝ)).z|)

/-- Proper angles survive the rotation they name. A rotation survives its angles away from the
vertical and at it; next to it each axis moves by less than the gap to the vertical explains. -/
theorem euler_angles_round_trip :
    (∀ angles : EulerAngles ℝ, angles.Proper →
      (Quaternion.fromEulerAngles exactFunctions angles).toEulerAngles exactFunctions =
        angles) ∧
    ∀ rotation : Quaternion ℝ, rotation.lengthSquared = 1 →
      WrittenBack rotation (Quaternion.fromEulerAngles exactFunctions
        (rotation.toEulerAngles exactFunctions)) := by
  refine ⟨fun angles h => toEulerAngles_fromEulerAngles h, fun rotation hunit => ⟨?_, ?_, ?_⟩⟩
  · exact unit_fromEulerAngles _
  · exact fromEulerAngles_toEulerAngles hunit
  · exact fun hlocked axis haxis => fromEulerAngles_locked hunit hlocked haxis

/-- A quarter turn of yaw, the identity, and a pitch next to the vertical. -/
theorem euler_angles_round_trip_quarter :
    let written (rotation : Quaternion ℝ) :=
      Quaternion.fromEulerAngles exactFunctions (rotation.toEulerAngles exactFunctions)
    let steep : Quaternion ℝ := ⟨4059 / 5741, 0, 0, 4060 / 5741⟩
    (Quaternion.fromEulerAngles exactFunctions ⟨0, Real.pi / 2, 0⟩).toEulerAngles exactFunctions =
        ⟨0, Real.pi / 2, 0⟩ ∧
      (written ⟨0, 0, 0, 1⟩).SameRotation ⟨0, 0, 0, 1⟩ ∧
      (written steep * (.up : Vector3 ℝ) - steep * (.up : Vector3 ℝ)).lengthSquared ≤
        2 / 32959081 := by
  have hpi := Real.pi_pos
  have hproper : (⟨0, Real.pi / 2, 0⟩ : EulerAngles ℝ).Proper := by
    refine ⟨?_, ?_, ⟨by linarith, by linarith⟩, ⟨by linarith, hpi.le⟩⟩
    · rw [abs_zero]
      positivity
    · norm_num [gimbalLockThreshold]
  have hidentity := euler_angles_round_trip.2 ⟨0, 0, 0, 1⟩ (by norm_num [Quaternion.lengthSquared])
  have hsteep := euler_angles_round_trip.2 ⟨4059 / 5741, 0, 0, 4060 / 5741⟩
    (by norm_num [Quaternion.lengthSquared])
  have hforward : ((⟨4059 / 5741, 0, 0, 4060 / 5741⟩ : Quaternion ℝ) * (.forward : Vector3 ℝ)).z =
      32959080 / 32959081 := by
    norm_num [rotate_eq, Vector3.forward, Vector3.cross]
  have hclear : (⟨0, 0, 0, 1⟩ : Quaternion ℝ).Clear := by
    norm_num [Quaternion.Clear, rotate_eq, Vector3.forward, Vector3.cross, gimbalLockThreshold]
  have hlocked : ¬ (⟨4059 / 5741, 0, 0, 4060 / 5741⟩ : Quaternion ℝ).Clear := by
    rw [Quaternion.Clear, hforward]
    norm_num [gimbalLockThreshold]
  refine ⟨euler_angles_round_trip.1 _ hproper, hidentity.clear hclear, ?_⟩
  have hup := hsteep.locked hlocked .up (by simp)
  rw [hforward] at hup
  norm_num at hup ⊢
  exact hup

end Exact

end PlaygroundEngine
