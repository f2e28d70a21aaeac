import Mathlib

/-!
# Runs of bits in a byte memory

Bits are numbered from a base address, low bits of low bytes first. A run of bits is read and
written as one word, and two runs that share no bit do not see each other. A word that is cut to
such a run and extended again is itself exactly when it is in the run's range.
-/

namespace PlaygroundEngine.BitStore

set_option autoImplicit false

def bitAt (memory : UInt64 → UInt8) (base : UInt64) (k : Nat) : Bool :=
  (memory (base + UInt64.ofNat (k / 8))).toBitVec.getLsbD (k % 8)

def readBits (memory : UInt64 → UInt8) (base : UInt64) (first width : Nat) : BitVec width :=
  BitVec.ofFnLE fun i => bitAt memory base (first + i)

/-- Each byte keeps the bits that are not written. -/
def writeBits {width : Nat} (memory : UInt64 → UInt8) (base : UInt64) (first : Nat)
    (value : BitVec width) : UInt64 → UInt8 := fun byte =>
  UInt8.ofBitVec (BitVec.ofFnLE fun (i : Fin 8) =>
    let k := 8 * (byte - base).toNat + i
    if first ≤ k ∧ k < first + width then value.getLsbD (k - first)
    else (memory byte).toBitVec.getLsbD i)

variable {memory : UInt64 → UInt8} {base : UInt64} {first width : Nat}

/-- The addresses of 2 ^ 64 bytes are pairwise different. -/
theorem toNat_add_ofNat_sub (base : UInt64) {n : Nat} (hn : n < 2 ^ 64) :
    (base + UInt64.ofNat n - base).toNat = n := by
  rw [UInt64.add_comm, UInt64.add_sub_cancel, UInt64.toNat_ofNat', Nat.mod_eq_of_lt hn]

theorem bitAt_congr {memory' : UInt64 → UInt8} {k : Nat}
    (h : memory' (base + UInt64.ofNat (k / 8)) = memory (base + UInt64.ofNat (k / 8))) :
    bitAt memory' base k = bitAt memory base k := by
  rw [bitAt, bitAt, h]

theorem bitAt_writeBits (value : BitVec width) {k : Nat} (hk : k < 2 ^ 67) :
    bitAt (writeBits memory base first value) base k =
      if first ≤ k ∧ k < first + width then value.getLsbD (k - first)
      else bitAt memory base k := by
  have hbyte := toNat_add_ofNat_sub base (show k / 8 < 2 ^ 64 by omega)
  have hindex : 8 * (k / 8) + k % 8 = k := Nat.div_add_mod k 8
  have hlt : k % 8 < 8 := Nat.mod_lt _ (by omega)
  simp only [bitAt, writeBits, UInt8.toBitVec_ofBitVec]
  rw [BitVec.getLsbD_ofFnLE, dif_pos hlt]
  simp only [hbyte, hindex]

theorem getLsbD_readBits {i : Nat} (hi : i < width) :
    (readBits memory base first width).getLsbD i = bitAt memory base (first + i) := by
  rw [readBits, BitVec.getLsbD_ofFnLE, dif_pos hi]

theorem readBits_congr {memory' : UInt64 → UInt8}
    (h : ∀ k, first ≤ k → k < first + width → bitAt memory' base k = bitAt memory base k) :
    readBits memory' base first width = readBits memory base first width := by
  apply BitVec.eq_of_getLsbD_eq
  intro i hi
  rw [getLsbD_readBits hi, getLsbD_readBits hi]
  apply h <;> omega

theorem readBits_writeBits (value : BitVec width) (hlast : first + width ≤ 2 ^ 67) :
    readBits (writeBits memory base first value) base first width = value := by
  apply BitVec.eq_of_getLsbD_eq
  intro i hi
  rw [getLsbD_readBits hi, bitAt_writeBits value (by omega), if_pos (by omega)]
  congr 1
  omega

theorem readBits_writeBits_disjoint (value : BitVec width) {other otherWidth : Nat}
    (hdisjoint : other + otherWidth ≤ first ∨ first + width ≤ other)
    (hlast : other + otherWidth ≤ 2 ^ 67) :
    readBits (writeBits memory base first value) base other otherWidth =
      readBits memory base other otherWidth := by
  apply readBits_congr
  intro k hk hlt
  rw [bitAt_writeBits value (by omega), if_neg (by omega)]

theorem writeBits_outside (value : BitVec width) {byte : UInt64}
    (hout : 8 * (byte - base).toNat + 8 ≤ first ∨ first + width ≤ 8 * (byte - base).toNat) :
    writeBits memory base first value byte = memory byte := by
  apply UInt8.eq_of_toBitVec_eq
  apply BitVec.eq_of_getLsbD_eq
  intro i hi
  simp only [writeBits, UInt8.toBitVec_ofBitVec]
  rw [BitVec.getLsbD_ofFnLE, dif_pos hi, if_neg]
  simp only
  omega

theorem bitAt_add (offset : UInt64) (k : Nat) :
    bitAt memory (base + offset) k = bitAt memory base (8 * offset.toNat + k) := by
  have hdiv : (8 * offset.toNat + k) / 8 = offset.toNat + k / 8 := by omega
  have hmod : (8 * offset.toNat + k) % 8 = k % 8 := by omega
  have hbyte : base + UInt64.ofNat (offset.toNat + k / 8) =
      base + offset + UInt64.ofNat (k / 8) := by
    rw [UInt64.ofNat_add, UInt64.ofNat_toNat, UInt64.add_assoc]
  rw [bitAt, bitAt, hdiv, hmod, hbyte]

theorem readBits_add (offset : UInt64) :
    readBits memory (base + offset) first width =
      readBits memory base (8 * offset.toNat + first) width := by
  apply BitVec.eq_of_getLsbD_eq
  intro i hi
  rw [getLsbD_readBits hi, getLsbD_readBits hi, bitAt_add, Nat.add_assoc]

theorem toNat_sub_add (base byte offset : UInt64) :
    (byte - (base + offset)).toNat =
      if offset.toNat ≤ (byte - base).toNat then (byte - base).toNat - offset.toNat
      else (byte - base).toNat + 2 ^ 64 - offset.toNat := by
  have hsub : byte - (base + offset) = byte - base - offset := by
    rw [sub_add_eq_sub_sub]
  have hbyte := (byte - base).toNat_lt
  have hoffset := offset.toNat_lt
  rw [hsub, UInt64.toNat_sub]
  split
  · omega
  · omega

theorem writeBits_add (offset : UInt64) (value : BitVec width)
    (hlast : 8 * offset.toNat + first + width ≤ 2 ^ 67) :
    writeBits memory (base + offset) first value =
      writeBits memory base (8 * offset.toNat + first) value := by
  funext byte
  have hdistance := toNat_sub_add base byte offset
  apply UInt8.eq_of_toBitVec_eq
  apply BitVec.eq_of_getLsbD_eq
  intro i hi
  simp only [writeBits, UInt8.toBitVec_ofBitVec]
  rw [BitVec.getLsbD_ofFnLE, BitVec.getLsbD_ofFnLE, dif_pos hi, dif_pos hi]
  dsimp only
  split at hdistance
  · -- the byte lies at or after the offset
    have hin : (first ≤ 8 * (byte - (base + offset)).toNat + i ∧
          8 * (byte - (base + offset)).toNat + i < first + width) ↔
        (8 * offset.toNat + first ≤ 8 * (byte - base).toNat + i ∧
          8 * (byte - base).toNat + i < 8 * offset.toNat + first + width) := by
      omega
    have hindex : 8 * (byte - (base + offset)).toNat + i - first =
        8 * (byte - base).toNat + i - (8 * offset.toNat + first) := by
      omega
    simp only [hin, hindex]
  · rw [if_neg (by omega), if_neg (by omega)]

theorem setWidth_setWidth_eq_iff {n w : Nat} (v : BitVec n) :
    (v.setWidth w).setWidth n = v ↔ v.toNat < 2 ^ w := by
  rw [← BitVec.toNat_inj, BitVec.toNat_setWidth, BitVec.toNat_setWidth]
  constructor
  · intro h
    have hle := Nat.mod_le (v.toNat % 2 ^ w) (2 ^ n)
    have hlt := Nat.mod_lt v.toNat (Nat.two_pow_pos w)
    omega
  · intro h
    rw [Nat.mod_eq_of_lt h, Nat.mod_eq_of_lt v.isLt]

theorem setWidth_setWidth {n w : Nat} (hle : w ≤ n) (v : BitVec w) :
    (v.setWidth n).setWidth w = v := by
  rw [BitVec.setWidth_setWidth_of_le v hle, BitVec.setWidth_eq]

theorem setWidth_signExtend {n w : Nat} (hle : w ≤ n) (v : BitVec w) :
    (v.signExtend n).setWidth w = v := by
  apply BitVec.eq_of_getLsbD_eq
  intro i hi
  have hin : i < n := by omega
  rw [BitVec.getLsbD_setWidth, BitVec.getLsbD_signExtend]
  simp [hi, hin]

/-- Cutting to `k + 1` bits is the balanced remainder, which is the identity on its range. -/
theorem signExtend_setWidth_eq_iff {n k : Nat} (hle : k + 1 ≤ n) (v : BitVec n) :
    (v.setWidth (k + 1)).signExtend n = v ↔ -(2 ^ k : Int) ≤ v.toInt ∧ v.toInt < 2 ^ k := by
  have hint : ((v.setWidth (k + 1)).signExtend n).toInt = v.toInt.bmod (2 ^ (k + 1)) := by
    rw [← BitVec.signExtend_eq_setWidth_of_le v hle, BitVec.toInt_signExtend_of_le hle,
      BitVec.toInt_signExtend, Nat.min_eq_left hle]
  have hpow : (2 ^ (k + 1) : Nat) = 2 * 2 ^ k := by rw [Nat.pow_succ, Nat.mul_comm]
  rw [← BitVec.toInt_inj, hint]
  constructor
  · intro h
    have hlow := Int.le_bmod (x := v.toInt) (Nat.two_pow_pos (k + 1))
    have hhigh := Int.bmod_lt (x := v.toInt) (Nat.two_pow_pos (k + 1))
    rw [h, hpow] at hlow hhigh
    push_cast at hlow hhigh
    omega
  · intro hgiven
    obtain ⟨hlow, hhigh⟩ := hgiven
    apply Int.bmod_eq_of_le
    · rw [hpow]
      push_cast
      omega
    · rw [hpow]
      push_cast
      omega

theorem setWidth_min_eq_iff {n width : Nat} (v : BitVec n) :
    (v.setWidth (min width n)).setWidth n = v ↔ v.toNat < 2 ^ width := by
  rw [setWidth_setWidth_eq_iff]
  rcases Nat.le_total width n with hle | hge
  · rw [Nat.min_eq_left hle]
  · have hpow : 2 ^ n ≤ 2 ^ width := Nat.pow_le_pow_right (by omega) hge
    have hlt := v.isLt
    rw [Nat.min_eq_right hge]
    omega

theorem signExtend_min_eq_iff {n width : Nat} (hn : 0 < n) (hwidth : 0 < width) (v : BitVec n) :
    (v.setWidth (min width n)).signExtend n = v ↔
      -(2 ^ (width - 1) : Int) ≤ v.toInt ∧ v.toInt < 2 ^ (width - 1) := by
  obtain ⟨k, hk⟩ : ∃ k, min width n = k + 1 := ⟨min width n - 1, by omega⟩
  rw [hk, signExtend_setWidth_eq_iff (by omega)]
  rcases Nat.le_total width n with hle | hge
  · have hbound : k = width - 1 := by omega
    rw [hbound]
  · have hbound : n - 1 = k := by omega
    have hpow : 2 ^ k ≤ 2 ^ (width - 1) := Nat.pow_le_pow_right (by omega) (by omega)
    have hpow' : (2 : Int) ^ k ≤ 2 ^ (width - 1) := by exact_mod_cast hpow
    have hlow := BitVec.le_toInt v
    have hhigh := BitVec.toInt_lt (x := v)
    rw [hbound] at hlow hhigh
    constructor
    · intro _
      omega
    · intro _
      exact ⟨hlow, hhigh⟩

end PlaygroundEngine.BitStore
