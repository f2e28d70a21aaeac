import Mathlib.Algebra.Order.Field.Basic
import Mathlib.Analysis.SpecialFunctions.Trigonometric.Basic
import Mathlib.Tactic.FieldSimp
import Mathlib.Tactic.Linarith
import PlaygroundEngine.Math.Transform

/-!
# The camera's matrices

View space looks along -Z with Y up; the clip axis of Vulkan points down. The depth laws need
the order of the field.
-/

namespace PlaygroundEngine

set_option autoImplicit false

section Matrices

variable {F : Type} [Field F]

/-- The rotation is orthonormal, so the transposed basis is its inverse. -/
def makeWorldToViewMatrix (position : Vector3 F) (rotation : Quaternion F) : Matrix4x4 F :=
  let right := rotation * (.right : Vector3 F)
  let up := rotation * (.up : Vector3 F)
  let backward := -(rotation * (.forward : Vector3 F))
  ⟨![⟨right.x, up.x, backward.x, 0⟩,
    ⟨right.y, up.y, backward.y, 0⟩,
    ⟨right.z, up.z, backward.z, 0⟩,
    ⟨-Vector3.dot right position, -Vector3.dot up position, -Vector3.dot backward position, 1⟩]⟩

/-- `std::tan` is a parameter. -/
def makePerspectiveProjectionMatrix (tan : F → F) (verticalFieldOfViewRadians aspectRatio
    nearPlaneDistance farPlaneDistance : F) : Matrix4x4 F :=
  let focalLength := 1 / tan (verticalFieldOfViewRadians * 0.5)
  let depthRange := nearPlaneDistance - farPlaneDistance
  ⟨![⟨focalLength / aspectRatio, 0, 0, 0⟩,
    ⟨0, -focalLength, 0, 0⟩,
    ⟨0, 0, farPlaneDistance / depthRange, -1⟩,
    ⟨0, 0, nearPlaneDistance * farPlaneDistance / depthRange, 0⟩]⟩

def normalizedDepth (clip : Vector4 F) : F := clip.z / clip.w

/-- Z-up world axes to view space, as a homogeneous point. -/
def Vector3.swizzleToView (v : Vector3 F) : Vector4 F := ⟨v.x, v.z, -v.y, 1⟩

theorem dot_add_sub (u v w : Vector3 F) :
    Vector3.dot u (v + w) - Vector3.dot u v = Vector3.dot u w := by
  simp [Vector3.dot]
  ring

/-- Each row of the matrix is a rotated axis, so it reads the coordinate along that axis. -/
theorem worldToView_placement (position : Vector3 F) {rotation : Quaternion F}
    (hunit : rotation.lengthSquared = 1) (v : Vector3 F) :
    let point := position + rotation * v
    makeWorldToViewMatrix position rotation * (⟨point.x, point.y, point.z, 1⟩ : Vector4 F) =
      v.swizzleToView := by
  intro point
  have hrow (axis : Vector3 F) : Vector3.dot (rotation * axis) point -
      Vector3.dot (rotation * axis) position = Vector3.dot axis v := by
    rw [dot_add_sub, dot_rotate hunit]
  have hright := hrow .right
  have hup := hrow .up
  have hforward := hrow .forward
  rw [matrix_mul_vector_eq]
  ext
  · simp [makeWorldToViewMatrix, Vector3.swizzleToView, Vector3.dot, Vector3.right] at hright ⊢
    linear_combination hright
  · simp [makeWorldToViewMatrix, Vector3.swizzleToView, Vector3.dot, Vector3.up] at hup ⊢
    linear_combination hup
  · simp [makeWorldToViewMatrix, Vector3.swizzleToView, Vector3.dot, Vector3.forward] at hforward ⊢
    linear_combination -hforward
  · simp [makeWorldToViewMatrix, Vector3.swizzleToView]

end Matrices

section Depth

variable {F : Type} [Field F] (tan : F → F)

/-- A view point in front of the camera, at depth `d`. -/
def viewPoint (x y d : F) : Vector4 F := ⟨x, y, -d, 1⟩

theorem projection_viewPoint (fieldOfView aspectRatio : F) {near far : F} (hne : near ≠ far)
    (x y d : F) :
    makePerspectiveProjectionMatrix tan fieldOfView aspectRatio near far * viewPoint x y d =
      { x := 1 / tan (fieldOfView * 0.5) / aspectRatio * x
        y := -(1 / tan (fieldOfView * 0.5)) * y
        z := far * (d - near) / (far - near)
        w := d } := by
  have hdown : near - far ≠ 0 := sub_ne_zero.mpr hne
  have hup : far - near ≠ 0 := sub_ne_zero.mpr hne.symm
  rw [matrix_mul_vector_eq]
  ext
  · simp [makePerspectiveProjectionMatrix, viewPoint]
  · simp [makePerspectiveProjectionMatrix, viewPoint]
  · simp [makePerspectiveProjectionMatrix, viewPoint]
    field_simp
    ring
  · simp [makePerspectiveProjectionMatrix, viewPoint]

theorem normalizedDepth_viewPoint (fieldOfView aspectRatio : F) {near far : F} (hne : near ≠ far)
    (x y : F) {d : F} (hd : d ≠ 0) :
    normalizedDepth (makePerspectiveProjectionMatrix tan fieldOfView aspectRatio near far *
      viewPoint x y d) = far / (far - near) * (1 - near / d) := by
  have hup : far - near ≠ 0 := sub_ne_zero.mpr hne.symm
  rw [projection_viewPoint tan fieldOfView aspectRatio hne]
  simp only [normalizedDepth]
  field_simp

variable [LinearOrder F] [IsStrictOrderedRing F] {near far : F}

theorem depth_strictMono (hnear : 0 < near) (hfar : near < far) {d e : F} (hd : 0 < d)
    (hde : d < e) :
    far / (far - near) * (1 - near / d) < far / (far - near) * (1 - near / e) := by
  have hscale : 0 < far / (far - near) := div_pos (hnear.trans hfar) (sub_pos.mpr hfar)
  have hdiv : near / e < near / d := div_lt_div_of_pos_left hnear hd hde
  apply mul_lt_mul_of_pos_left _ hscale
  linarith

omit [IsStrictOrderedRing F] in
theorem depth_near (hnear : 0 < near) : far / (far - near) * (1 - near / near) = 0 := by
  rw [div_self hnear.ne', sub_self, mul_zero]

theorem depth_far (hnear : 0 < near) (hfar : near < far) :
    far / (far - near) * (1 - near / far) = 1 := by
  have hpos : far ≠ 0 := (hnear.trans hfar).ne'
  have hup : far - near ≠ 0 := (sub_pos.mpr hfar).ne'
  field_simp

/-- The range is exact because the depth increases through 0 at near and 1 at far. -/
theorem depth_mem_unit_iff (hnear : 0 < near) (hfar : near < far) {d : F} (hd : 0 < d) :
    (0 ≤ far / (far - near) * (1 - near / d) ∧ far / (far - near) * (1 - near / d) ≤ 1) ↔
      near ≤ d ∧ d ≤ far := by
  have hmono : ∀ a b : F, 0 < a → 0 < b →
      (far / (far - near) * (1 - near / a) ≤ far / (far - near) * (1 - near / b) ↔ a ≤ b) := by
    intro a b ha hb
    constructor
    · intro h
      by_contra hlt
      exact absurd (depth_strictMono hnear hfar hb (not_le.mp hlt)) (not_lt.mpr h)
    · intro hab
      rcases hab.eq_or_lt with rfl | hlt
      · exact le_rfl
      · exact (depth_strictMono hnear hfar ha hlt).le
  have hlow := hmono near d hnear hd
  have hhigh := hmono d far hd (hnear.trans hfar)
  rw [depth_near hnear] at hlow
  rw [depth_far hnear hfar] at hhigh
  exact and_congr hlow hhigh

/-- The world-to-view matrix undoes the camera's placement and swizzles the axes; the
projection sends the depth range onto the unit interval and turns Y over. -/
theorem view_and_projection_laws :
    (∀ (position : Vector3 F) (rotation : Quaternion F), rotation.lengthSquared = 1 →
      ∀ a b c : F,
        let point := position + rotation * (⟨a, b, c⟩ : Vector3 F)
        makeWorldToViewMatrix position rotation * (⟨point.x, point.y, point.z, 1⟩ : Vector4 F) =
          ⟨a, c, -b, 1⟩) ∧
    ∀ fieldOfView aspectRatio near far : F, 0 < 1 / tan (fieldOfView * 0.5) → 0 < aspectRatio →
      0 < near → near < far →
      let clip x y d :=
        makePerspectiveProjectionMatrix tan fieldOfView aspectRatio near far * viewPoint x y d
      (∀ x y d, 0 < d → (clip x y d).w = d) ∧
      (∀ x y x' y' d e, 0 < d → d < e →
        normalizedDepth (clip x y d) < normalizedDepth (clip x' y' e)) ∧
      (∀ x y, normalizedDepth (clip x y near) = 0 ∧ normalizedDepth (clip x y far) = 1) ∧
      (∀ x y d, 0 < d → (0 ≤ normalizedDepth (clip x y d) ∧ normalizedDepth (clip x y d) ≤ 1 ↔
        near ≤ d ∧ d ≤ far)) ∧
      ∀ x y d, 0 < d → 0 < y → (clip x y d).y < 0 := by
  constructor
  · intro position rotation hunit a b c
    exact worldToView_placement position hunit ⟨a, b, c⟩
  · intro fieldOfView aspectRatio near far hfocal _ hnear hfar clip
    have hclip (x y d : F) := projection_viewPoint tan fieldOfView aspectRatio hfar.ne x y d
    have hdepth (x y d : F) (hd : 0 < d) :=
      normalizedDepth_viewPoint tan fieldOfView aspectRatio hfar.ne x y hd.ne'
    refine ⟨?_, ?_, ?_, ?_, ?_⟩
    · intro x y d _
      simp only [clip, hclip]
    · intro x y x' y' d e hd hde
      simp only [clip]
      rw [hdepth x y d hd, hdepth x' y' e (hd.trans hde)]
      exact depth_strictMono hnear hfar hd hde
    · intro x y
      simp only [clip]
      rw [hdepth x y near hnear, hdepth x y far (hnear.trans hfar)]
      exact ⟨depth_near hnear, depth_far hnear hfar⟩
    · intro x y d hd
      simp only [clip]
      rw [hdepth x y d hd]
      exact depth_mem_unit_iff hnear hfar hd
    · intro x y d _ hy
      simp only [clip, hclip]
      have hprod := mul_pos hfocal hy
      linarith

end Depth

/-- A square view of a right angle, from 1 to 100, by a camera that has turned. -/
theorem view_and_projection_laws_square :
    let clip d := makePerspectiveProjectionMatrix Real.tan (Real.pi / 2) 1 1 100 *
      (viewPoint 0 0 d : Vector4 ℝ)
    let turn : Quaternion ℝ := ⟨0, 0, 0.6, 0.8⟩
    let ahead : Vector3 ℝ := ⟨1, 2, 3⟩ + turn * (⟨0, 5, 0⟩ : Vector3 ℝ)
    normalizedDepth (clip 1) = 0 ∧ normalizedDepth (clip 100) = 1 ∧
      makeWorldToViewMatrix ⟨1, 2, 3⟩ turn * (⟨ahead.x, ahead.y, ahead.z, 1⟩ : Vector4 ℝ) =
        ⟨0, 0, -5, 1⟩ := by
  have hangle : Real.pi / 2 * 0.5 = Real.pi / 4 := by
    ring
  have hfocal : 0 < 1 / Real.tan (Real.pi / 2 * 0.5) := by
    rw [hangle, Real.tan_pi_div_four]
    norm_num
  have hunit : (⟨0, 0, 0.6, 0.8⟩ : Quaternion ℝ).lengthSquared = 1 := by
    norm_num [Quaternion.lengthSquared]
  obtain ⟨hview, hprojection⟩ := view_and_projection_laws Real.tan
  obtain ⟨_, _, hrange, _⟩ :=
    hprojection (Real.pi / 2) 1 1 100 hfocal one_pos one_pos (by norm_num)
  exact ⟨(hrange 0 0).1, (hrange 0 0).2, hview ⟨1, 2, 3⟩ _ hunit 0 5 0⟩

end PlaygroundEngine
