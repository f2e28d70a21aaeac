import Mathlib.Algebra.Quaternion
import Mathlib.Data.Fin.VecNotation
import Mathlib.Tactic.LinearCombination

/-!
# Vectors, rotations and matrices

The components are those of an arbitrary field, where `float` rounds. A rotation is compared
with the Hamilton product of its quaternion, the vector and the conjugate.
-/

namespace PlaygroundEngine

open scoped Quaternion
set_option autoImplicit false

structure Vector3 (F : Type) where
  x : F
  y : F
  z : F
  deriving DecidableEq

structure Vector4 (F : Type) where
  x : F
  y : F
  z : F
  w : F
  deriving DecidableEq

structure Quaternion (F : Type) where
  x : F
  y : F
  z : F
  w : F
  deriving DecidableEq

/-- Column-major; the last column is the translation. -/
structure Matrix4x4 (F : Type) where
  columns : Fin 4 → Vector4 F
  deriving DecidableEq

attribute [ext] Vector3 Vector4 Quaternion Matrix4x4

section Operations

variable {F : Type} [Field F]

def Vector3.right : Vector3 F := ⟨1, 0, 0⟩
def Vector3.forward : Vector3 F := ⟨0, 1, 0⟩
def Vector3.up : Vector3 F := ⟨0, 0, 1⟩

instance vector3Neg : Neg (Vector3 F) := ⟨fun value => ⟨-value.x, -value.y, -value.z⟩⟩

instance vector3Add : Add (Vector3 F) :=
  ⟨fun left right => ⟨left.x + right.x, left.y + right.y, left.z + right.z⟩⟩

instance vector3Sub : Sub (Vector3 F) :=
  ⟨fun left right => ⟨left.x - right.x, left.y - right.y, left.z - right.z⟩⟩

/-- Componentwise, which is what a scale vector means. -/
instance vector3Mul : Mul (Vector3 F) :=
  ⟨fun left right => ⟨left.x * right.x, left.y * right.y, left.z * right.z⟩⟩

instance vector3Div : Div (Vector3 F) :=
  ⟨fun left right => ⟨left.x / right.x, left.y / right.y, left.z / right.z⟩⟩

instance vector3MulScalar : HMul (Vector3 F) F (Vector3 F) :=
  ⟨fun vector scalar => ⟨vector.x * scalar, vector.y * scalar, vector.z * scalar⟩⟩

def Vector3.dot (left right : Vector3 F) : F :=
  left.x * right.x + left.y * right.y + left.z * right.z

def Vector3.cross (left right : Vector3 F) : Vector3 F :=
  ⟨left.y * right.z - left.z * right.y, left.z * right.x - left.x * right.z,
    left.x * right.y - left.y * right.x⟩

def Vector3.lengthSquared (value : Vector3 F) : F := Vector3.dot value value

/-- `std::sqrt` is a parameter: a field need not have one. -/
def Vector3.length (sqrt : F → F) (value : Vector3 F) : F := sqrt value.lengthSquared

def Quaternion.conjugate (value : Quaternion F) : Quaternion F :=
  ⟨-value.x, -value.y, -value.z, value.w⟩

/-- The radicand of `Quaternion::Normalize`. -/
def Quaternion.lengthSquared (value : Quaternion F) : F :=
  value.x * value.x + value.y * value.y + value.z * value.z + value.w * value.w

/-- Applies right first, then left. -/
instance quaternionMul : Mul (Quaternion F) :=
  ⟨fun left right =>
    { x := left.w * right.x + left.x * right.w + left.y * right.z - left.z * right.y
      y := left.w * right.y - left.x * right.z + left.y * right.w + left.z * right.x
      z := left.w * right.z + left.x * right.y - left.y * right.x + left.z * right.w
      w := left.w * right.w - left.x * right.x - left.y * right.y - left.z * right.z }⟩

/-- The sandwich product with the two conjugate multiplications folded out. -/
instance quaternionRotate : HMul (Quaternion F) (Vector3 F) (Vector3 F) :=
  ⟨fun rotation vector =>
    let axis : Vector3 F := ⟨rotation.x, rotation.y, rotation.z⟩
    let intermediate := Vector3.cross axis vector + vector * rotation.w
    vector + Vector3.cross axis intermediate * (2 : F)⟩

instance matrixMulVector : HMul (Matrix4x4 F) (Vector4 F) (Vector4 F) :=
  ⟨fun matrix vector =>
    let columnX := matrix.columns 0
    let columnY := matrix.columns 1
    let columnZ := matrix.columns 2
    let columnW := matrix.columns 3
    { x := columnX.x * vector.x + columnY.x * vector.y + columnZ.x * vector.z +
        columnW.x * vector.w
      y := columnX.y * vector.x + columnY.y * vector.y + columnZ.y * vector.z +
        columnW.y * vector.w
      z := columnX.z * vector.x + columnY.z * vector.y + columnZ.z * vector.z +
        columnW.z * vector.w
      w := columnX.w * vector.x + columnY.w * vector.y + columnZ.w * vector.z +
        columnW.w * vector.w }⟩

instance matrixMul : Mul (Matrix4x4 F) :=
  ⟨fun left right => ⟨![left * right.columns 0, left * right.columns 1,
    left * right.columns 2, left * right.columns 3]⟩⟩

end Operations

section Components

variable {F : Type} [Field F]

@[simp] theorem vector3_neg_eq (v : Vector3 F) : -v = ⟨-v.x, -v.y, -v.z⟩ := rfl

@[simp] theorem vector3_add_eq (u v : Vector3 F) :
    u + v = ⟨u.x + v.x, u.y + v.y, u.z + v.z⟩ := rfl

@[simp] theorem vector3_sub_eq (u v : Vector3 F) :
    u - v = ⟨u.x - v.x, u.y - v.y, u.z - v.z⟩ := rfl

@[simp] theorem vector3_mul_eq (u v : Vector3 F) :
    u * v = ⟨u.x * v.x, u.y * v.y, u.z * v.z⟩ := rfl

@[simp] theorem vector3_div_eq (u v : Vector3 F) :
    u / v = ⟨u.x / v.x, u.y / v.y, u.z / v.z⟩ := rfl

@[simp] theorem vector3_mul_scalar_eq (v : Vector3 F) (s : F) :
    v * s = ⟨v.x * s, v.y * s, v.z * s⟩ := rfl

theorem quaternion_mul_eq (p q : Quaternion F) :
    p * q =
      { x := p.w * q.x + p.x * q.w + p.y * q.z - p.z * q.y
        y := p.w * q.y - p.x * q.z + p.y * q.w + p.z * q.x
        z := p.w * q.z + p.x * q.y - p.y * q.x + p.z * q.w
        w := p.w * q.w - p.x * q.x - p.y * q.y - p.z * q.z } := rfl

theorem rotate_eq (q : Quaternion F) (v : Vector3 F) :
    q * v = v + Vector3.cross ⟨q.x, q.y, q.z⟩
      (Vector3.cross ⟨q.x, q.y, q.z⟩ v + v * q.w) * (2 : F) := rfl

theorem matrix_mul_eq (A B : Matrix4x4 F) :
    A * B = ⟨![A * B.columns 0, A * B.columns 1, A * B.columns 2, A * B.columns 3]⟩ := rfl

theorem matrix_mul_vector_eq (M : Matrix4x4 F) (v : Vector4 F) :
    M * v =
      { x := (M.columns 0).x * v.x + (M.columns 1).x * v.y + (M.columns 2).x * v.z +
          (M.columns 3).x * v.w
        y := (M.columns 0).y * v.x + (M.columns 1).y * v.y + (M.columns 2).y * v.z +
          (M.columns 3).y * v.w
        z := (M.columns 0).z * v.x + (M.columns 1).z * v.y + (M.columns 2).z * v.z +
          (M.columns 3).z * v.w
        w := (M.columns 0).w * v.x + (M.columns 1).w * v.y + (M.columns 2).w * v.z +
          (M.columns 3).w * v.w } := rfl

end Components

namespace Quaternion

variable {F : Type} [Field F]

/-- The same rotation as a member of the Hamilton algebra. -/
def hamilton (q : Quaternion F) : ℍ[F] := ⟨q.w, q.x, q.y, q.z⟩

@[simp] theorem hamilton_re (q : Quaternion F) : q.hamilton.re = q.w := rfl
@[simp] theorem hamilton_imI (q : Quaternion F) : q.hamilton.imI = q.x := rfl
@[simp] theorem hamilton_imJ (q : Quaternion F) : q.hamilton.imJ = q.y := rfl
@[simp] theorem hamilton_imK (q : Quaternion F) : q.hamilton.imK = q.z := rfl

@[simp] theorem hamilton_mul (p q : Quaternion F) :
    (p * q).hamilton = p.hamilton * q.hamilton := by
  ext <;> simp [quaternion_mul_eq]

@[simp] theorem hamilton_conjugate (q : Quaternion F) :
    q.conjugate.hamilton = star q.hamilton := by
  ext <;> simp [conjugate]

theorem star_mul_hamilton (q : Quaternion F) :
    star q.hamilton * q.hamilton = (q.lengthSquared : ℍ[F]) := by
  ext <;> simp [lengthSquared] <;> ring

end Quaternion

namespace Vector3

variable {F : Type} [Field F]

/-- A vector as a quaternion without a real part. -/
def hamilton (v : Vector3 F) : ℍ[F] := ⟨0, v.x, v.y, v.z⟩

@[simp] theorem hamilton_re (v : Vector3 F) : v.hamilton.re = 0 := rfl
@[simp] theorem hamilton_imI (v : Vector3 F) : v.hamilton.imI = v.x := rfl
@[simp] theorem hamilton_imJ (v : Vector3 F) : v.hamilton.imJ = v.y := rfl
@[simp] theorem hamilton_imK (v : Vector3 F) : v.hamilton.imK = v.z := rfl

theorem hamilton_injective : Function.Injective (hamilton (F := F)) := by
  intro u v h
  have hx := congrArg (·.imI) h
  have hy := congrArg (·.imJ) h
  have hz := congrArg (·.imK) h
  exact Vector3.ext hx hy hz

theorem dot_eq_re (u v : Vector3 F) : dot u v = (u.hamilton * star v.hamilton).re := by
  simp [dot]

end Vector3

section Rotation

variable {F : Type} [Field F]

/-- The folded cross products are the sandwich product only for a unit quaternion: the two
differ by the vector times one minus the squared norm. -/
theorem rotate_hamilton {q : Quaternion F} (hq : q.lengthSquared = 1) (v : Vector3 F) :
    (q * v).hamilton = q.hamilton * v.hamilton * star q.hamilton := by
  unfold Quaternion.lengthSquared at hq
  rw [rotate_eq]
  ext
  · simp
    ring
  · simp [Vector3.cross]
    linear_combination (-v.x) * hq
  · simp [Vector3.cross]
    linear_combination (-v.y) * hq
  · simp [Vector3.cross]
    linear_combination (-v.z) * hq

theorem star_mul_hamilton_of_unit {q : Quaternion F} (hq : q.lengthSquared = 1) :
    star q.hamilton * q.hamilton = 1 := by
  simp [Quaternion.star_mul_hamilton, hq]

theorem lengthSquared_mul (p q : Quaternion F) :
    (p * q).lengthSquared = p.lengthSquared * q.lengthSquared := by
  simp [Quaternion.lengthSquared, quaternion_mul_eq]
  ring

theorem lengthSquared_conjugate (q : Quaternion F) :
    q.conjugate.lengthSquared = q.lengthSquared := by
  simp [Quaternion.lengthSquared, Quaternion.conjugate]

theorem unit_mul {p q : Quaternion F} (hp : p.lengthSquared = 1) (hq : q.lengthSquared = 1) :
    (p * q).lengthSquared = 1 := by
  rw [lengthSquared_mul, hp, hq, one_mul]

theorem conjugate_conjugate (q : Quaternion F) : q.conjugate.conjugate = q := by
  simp [Quaternion.conjugate]

theorem mul_rotate {p q : Quaternion F} (hp : p.lengthSquared = 1) (hq : q.lengthSquared = 1)
    (v : Vector3 F) : (p * q) * v = p * (q * v) := by
  apply Vector3.hamilton_injective
  rw [rotate_hamilton (unit_mul hp hq), rotate_hamilton hp, rotate_hamilton hq]
  simp [mul_assoc]

theorem conjugate_rotate {q : Quaternion F} (hq : q.lengthSquared = 1) (v : Vector3 F) :
    q.conjugate * (q * v) = v := by
  have hc : q.conjugate.lengthSquared = 1 := by rw [lengthSquared_conjugate, hq]
  apply Vector3.hamilton_injective
  rw [rotate_hamilton hc, rotate_hamilton hq, Quaternion.hamilton_conjugate, star_star]
  calc star q.hamilton * (q.hamilton * v.hamilton * star q.hamilton) * q.hamilton
      = (star q.hamilton * q.hamilton) * v.hamilton * (star q.hamilton * q.hamilton) := by
        simp only [mul_assoc]
    _ = v.hamilton := by rw [star_mul_hamilton_of_unit hq, one_mul, mul_one]

theorem rotate_conjugate {q : Quaternion F} (hq : q.lengthSquared = 1) (v : Vector3 F) :
    q * (q.conjugate * v) = v := by
  have hc : q.conjugate.lengthSquared = 1 := by rw [lengthSquared_conjugate, hq]
  simpa [conjugate_conjugate] using conjugate_rotate hc v

/-- The real part of a product does not see a conjugation by a unit. -/
theorem dot_rotate {q : Quaternion F} (hq : q.lengthSquared = 1) (u v : Vector3 F) :
    Vector3.dot (q * u) (q * v) = Vector3.dot u v := by
  have hs : (q * u).hamilton * star (q * v).hamilton =
      q.hamilton * (u.hamilton * star v.hamilton) * star q.hamilton := by
    rw [rotate_hamilton hq, rotate_hamilton hq]
    calc q.hamilton * u.hamilton * star q.hamilton *
          star (q.hamilton * v.hamilton * star q.hamilton)
        = q.hamilton * u.hamilton * (star q.hamilton * q.hamilton) * star v.hamilton *
            star q.hamilton := by simp [mul_assoc]
      _ = q.hamilton * (u.hamilton * star v.hamilton) * star q.hamilton := by
        rw [star_mul_hamilton_of_unit hq, mul_one]
        simp only [mul_assoc]
  have hre : ∀ a b : ℍ[F], (a * b).re = (b * a).re := by
    intro a b
    simp
    ring
  rw [Vector3.dot_eq_re, hs, hre, ← mul_assoc, star_mul_hamilton_of_unit hq, one_mul,
    ← Vector3.dot_eq_re]

theorem length_rotate (sqrt : F → F) {q : Quaternion F} (hq : q.lengthSquared = 1)
    (v : Vector3 F) : (q * v).length sqrt = v.length sqrt := by
  rw [Vector3.length, Vector3.lengthSquared, dot_rotate hq, Vector3.length, Vector3.lengthSquared]

theorem hamilton_mul_star_of_unit {q : Quaternion F} (hq : q.lengthSquared = 1) :
    q.hamilton * star q.hamilton = 1 := by
  have hc : q.conjugate.lengthSquared = 1 := by rw [lengthSquared_conjugate, hq]
  have hstar := star_mul_hamilton_of_unit hc
  rwa [Quaternion.hamilton_conjugate, star_star] at hstar

theorem cross_hamilton (u v : Vector3 F) :
    (Vector3.cross u v).hamilton = u.hamilton * v.hamilton + ((Vector3.dot u v : F) : ℍ[F]) := by
  ext <;> simp [Vector3.cross, Vector3.dot]
  ring

/-- A rotation keeps the hand of its axes. -/
theorem cross_rotate {q : Quaternion F} (hq : q.lengthSquared = 1) (u v : Vector3 F) :
    Vector3.cross (q * u) (q * v) = q * Vector3.cross u v := by
  have hunit := star_mul_hamilton_of_unit hq
  have hcentral (a : F) : q.hamilton * (a : ℍ[F]) * star q.hamilton = (a : ℍ[F]) := by
    rw [mul_assoc, Quaternion.coe_commutes, ← mul_assoc, hamilton_mul_star_of_unit hq, one_mul]
  apply Vector3.hamilton_injective
  rw [cross_hamilton, dot_rotate hq, rotate_hamilton hq, rotate_hamilton hq, rotate_hamilton hq,
    cross_hamilton, mul_add, add_mul, hcentral]
  congr 1
  calc q.hamilton * u.hamilton * star q.hamilton * (q.hamilton * v.hamilton * star q.hamilton)
      = q.hamilton * u.hamilton * (star q.hamilton * q.hamilton) * v.hamilton *
          star q.hamilton := by simp only [mul_assoc]
    _ = q.hamilton * (u.hamilton * v.hamilton) * star q.hamilton := by
      rw [hunit, mul_one]
      simp only [mul_assoc]

theorem matrix_mul_mul_vector (A B : Matrix4x4 F) (v : Vector4 F) :
    (A * B) * v = A * (B * v) := by
  rw [matrix_mul_eq]
  ext <;> simp [matrix_mul_vector_eq] <;> ring

end Rotation

end PlaygroundEngine
