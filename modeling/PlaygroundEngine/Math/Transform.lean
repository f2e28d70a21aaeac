import PlaygroundEngine.Math.Types

/-!
# Transforms

Scale is applied in the object's own frame, then rotation, then translation.
-/

namespace PlaygroundEngine

set_option autoImplicit false

structure Transform (F : Type) where
  position : Vector3 F
  rotation : Quaternion F
  scale : Vector3 F
  deriving DecidableEq

namespace Transform

variable {F : Type} [Field F]

def transformPoint (transform : Transform F) (point : Vector3 F) : Vector3 F :=
  transform.position + transform.rotation * (transform.scale * point)

def transformDirection (transform : Transform F) (direction : Vector3 F) : Vector3 F :=
  transform.rotation * direction

/-- The three preconditions of the source ask for a scale without a zero component. -/
def inverseTransformPoint (transform : Transform F) (point : Vector3 F) : Vector3 F :=
  transform.rotation.conjugate * (point - transform.position) / transform.scale

def inverseTransformDirection (transform : Transform F) (direction : Vector3 F) : Vector3 F :=
  transform.rotation.conjugate * direction

def getRight (transform : Transform F) : Vector3 F := transform.rotation * (.right : Vector3 F)
def getForward (transform : Transform F) : Vector3 F := transform.rotation * (.forward : Vector3 F)
def getUp (transform : Transform F) : Vector3 F := transform.rotation * (.up : Vector3 F)

def toMatrix (transform : Transform F) : Matrix4x4 F :=
  let rotatedRight := transform.getRight * transform.scale.x
  let rotatedForward := transform.getForward * transform.scale.y
  let rotatedUp := transform.getUp * transform.scale.z
  ⟨![⟨rotatedRight.x, rotatedRight.y, rotatedRight.z, 0⟩,
    ⟨rotatedForward.x, rotatedForward.y, rotatedForward.z, 0⟩,
    ⟨rotatedUp.x, rotatedUp.y, rotatedUp.z, 0⟩,
    ⟨transform.position.x, transform.position.y, transform.position.z, 1⟩]⟩

end Transform

section Laws

variable {F : Type} [Field F]

def Transform.ScaleNonzero (transform : Transform F) : Prop :=
  transform.scale.x ≠ 0 ∧ transform.scale.y ≠ 0 ∧ transform.scale.z ≠ 0

theorem vector3_add_sub_cancel (u v : Vector3 F) : u + v - u = v := by
  ext <;> simp

theorem vector3_add_sub (u v : Vector3 F) : u + (v - u) = v := by
  ext <;> simp

theorem scale_mul_div {s : Vector3 F} (hs : s.x ≠ 0 ∧ s.y ≠ 0 ∧ s.z ≠ 0) (v : Vector3 F) :
    s * v / s = v := by
  obtain ⟨hx, hy, hz⟩ := hs
  ext <;> simp [mul_div_cancel_left₀, hx, hy, hz]

theorem scale_mul_div' {s : Vector3 F} (hs : s.x ≠ 0 ∧ s.y ≠ 0 ∧ s.z ≠ 0) (v : Vector3 F) :
    s * (v / s) = v := by
  obtain ⟨hx, hy, hz⟩ := hs
  ext <;> simp [mul_div_cancel₀, hx, hy, hz]

theorem inverse_transformPoint {T : Transform F} (hq : T.rotation.lengthSquared = 1)
    (hs : T.ScaleNonzero) (point : Vector3 F) :
    T.inverseTransformPoint (T.transformPoint point) = point := by
  unfold Transform.inverseTransformPoint Transform.transformPoint
  rw [vector3_add_sub_cancel, conjugate_rotate hq, scale_mul_div hs]

theorem transform_inversePoint {T : Transform F} (hq : T.rotation.lengthSquared = 1)
    (hs : T.ScaleNonzero) (point : Vector3 F) :
    T.transformPoint (T.inverseTransformPoint point) = point := by
  unfold Transform.inverseTransformPoint Transform.transformPoint
  rw [scale_mul_div' hs, rotate_conjugate hq, vector3_add_sub]

/-- A rotation is linear, so it is determined by the axes that the matrix's columns hold; the
norm of the quaternion plays no part. -/
theorem toMatrix_transformPoint (T : Transform F) (point : Vector3 F) :
    T.toMatrix * (⟨point.x, point.y, point.z, 1⟩ : Vector4 F) =
      ⟨(T.transformPoint point).x, (T.transformPoint point).y, (T.transformPoint point).z, 1⟩ := by
  rw [matrix_mul_vector_eq]
  ext <;> simp [Transform.toMatrix, Transform.transformPoint, Transform.getRight,
    Transform.getForward, Transform.getUp, Vector3.right, Vector3.forward, Vector3.up,
    Vector3.cross, rotate_eq] <;> ring

/-- In exact arithmetic unit quaternions act on vectors as a group of isometries, a transform
acts as its matrix and is undone by its inverse operations, and matrices act in order. -/
theorem rotation_transform_matrix_laws (sqrt : F → F) :
    (∀ p q : Quaternion F, p.lengthSquared = 1 → q.lengthSquared = 1 →
      (p * q).lengthSquared = 1 ∧ ∀ v : Vector3 F, (p * q) * v = p * (q * v)) ∧
    (∀ q : Quaternion F, q.lengthSquared = 1 → ∀ u v : Vector3 F,
      (q * v).lengthSquared = v.lengthSquared ∧ (q * v).length sqrt = v.length sqrt ∧
        Vector3.dot (q * u) (q * v) = Vector3.dot u v ∧ q.conjugate * (q * v) = v) ∧
    (∀ (T : Transform F) (point : Vector3 F),
      T.toMatrix * (⟨point.x, point.y, point.z, 1⟩ : Vector4 F) =
        ⟨(T.transformPoint point).x, (T.transformPoint point).y, (T.transformPoint point).z, 1⟩) ∧
    (∀ T : Transform F, T.rotation.lengthSquared = 1 → T.ScaleNonzero →
      (∀ point, T.inverseTransformPoint (T.transformPoint point) = point) ∧
        (∀ point, T.transformPoint (T.inverseTransformPoint point) = point) ∧
        (∀ direction, T.inverseTransformDirection (T.transformDirection direction) = direction) ∧
        ∀ direction, T.transformDirection (T.inverseTransformDirection direction) = direction) ∧
    ∀ (A B : Matrix4x4 F) (v : Vector4 F), (A * B) * v = A * (B * v) := by
  refine ⟨?_, ?_, toMatrix_transformPoint, ?_, matrix_mul_mul_vector⟩
  · intro p q hp hq
    exact ⟨unit_mul hp hq, mul_rotate hp hq⟩
  · intro q hq u v
    exact ⟨dot_rotate hq v v, length_rotate sqrt hq v, dot_rotate hq u v, conjugate_rotate hq v⟩
  · intro T hq hs
    exact ⟨inverse_transformPoint hq hs, transform_inversePoint hq hs, conjugate_rotate hq,
      rotate_conjugate hq⟩

end Laws

/-- A turn whose sine and cosine are decimals. -/
theorem rotation_transform_matrix_laws_turned :
    let turn : Quaternion Rat := ⟨0, 0, 0.6, 0.8⟩
    let placement : Transform Rat := ⟨⟨1, 2, 3⟩, turn, ⟨2, 2, 0.5⟩⟩
    (turn * turn).lengthSquared = 1 ∧ (turn * (⟨1, 2, 3⟩ : Vector3 Rat)).lengthSquared = 14 ∧
      placement.inverseTransformPoint (placement.transformPoint ⟨4, 5, 6⟩) = ⟨4, 5, 6⟩ := by
  intro turn placement
  have hunit : turn.lengthSquared = 1 := by
    norm_num [turn, Quaternion.lengthSquared]
  have hscale : placement.ScaleNonzero := by
    norm_num [placement, Transform.ScaleNonzero]
  obtain ⟨hproduct, hrotation, _, hinverse, _⟩ :=
    rotation_transform_matrix_laws fun radicand : Rat => radicand
  refine ⟨(hproduct turn turn hunit hunit).1, ?_, (hinverse placement hunit hscale).1 _⟩
  rw [(hrotation turn hunit ⟨1, 2, 3⟩ ⟨1, 2, 3⟩).1]
  norm_num [Vector3.lengthSquared, Vector3.dot]

end PlaygroundEngine
