import Mathlib

/-! Integers assembled from bytes with shifts and ors, as protocol code reads them
off the wire, and the arithmetic value of what is assembled. -/
namespace ShadowProxy.WordBytes

abbrev Bytes := List UInt8

/-- Little-endian value `b₀ | b₁<<8 | b₂<<16 | …`. -/
def leNat : Bytes → ℕ
  | [] => 0
  | b :: bs => b.toNat ||| (leNat bs <<< 8)

/-- Big-endian value `b₀<<8(k-1) | … | b_{k-1}`. -/
def beNat (bs : Bytes) : ℕ := leNat bs.reverse

/-- The `k` low bytes of `n`, least significant first. -/
def leBytes : ℕ → ℕ → Bytes
  | 0, _ => []
  | k + 1, n => UInt8.ofNat n :: leBytes k (n >>> 8)

@[simp] theorem leNat_nil : leNat [] = 0 := rfl

/-- The assembled fields do not overlap, so the ors are additions. -/
theorem leNat_cons (b : UInt8) (bs : Bytes) : leNat (b :: bs) = b.toNat + 256 * leNat bs := by
  have hb : b.toNat < 2 ^ 8 := b.toNat_lt
  have hor := Nat.shiftLeft_add_eq_or_of_lt hb (leNat bs)
  rw [leNat, Nat.or_comm, ← hor, Nat.shiftLeft_eq]
  omega

theorem leNat_lt (bs : Bytes) : leNat bs < 256 ^ bs.length := by
  induction bs with
  | nil => simp
  | cons b bs ih =>
    have hb : b.toNat < 256 := b.toNat_lt
    rw [leNat_cons, List.length_cons, Nat.pow_succ]
    omega

@[simp] theorem leBytes_length (k n : ℕ) : (leBytes k n).length = k := by
  induction k generalizing n with
  | zero => rfl
  | succ k ih => simp [leBytes, ih]

theorem leNat_leBytes (k n : ℕ) : leNat (leBytes k n) = n % 256 ^ k := by
  induction k generalizing n with
  | zero => simp [leBytes, Nat.mod_one]
  | succ k ih =>
    have hlow : (UInt8.ofNat n).toNat = n % 256 := by simp
    rw [leBytes, leNat_cons, ih, hlow, Nat.shiftRight_eq_div_pow, Nat.pow_succ 256 k,
      Nat.mul_comm (256 ^ k) 256, Nat.mod_mul]

theorem leNat_leBytes_of_lt {k n : ℕ} (h : n < 256 ^ k) : leNat (leBytes k n) = n := by
  rw [leNat_leBytes, Nat.mod_eq_of_lt h]

theorem leBytes_leNat (bs : Bytes) : leBytes bs.length (leNat bs) = bs := by
  induction bs with
  | nil => rfl
  | cons b bs ih =>
    have hb : b.toNat < 256 := b.toNat_lt
    have hlow : UInt8.ofNat (b.toNat + 256 * leNat bs) = b := by
      apply UInt8.toNat_inj.mp
      simp only [UInt8.toNat_ofNat']
      omega
    have hhigh : (b.toNat + 256 * leNat bs) >>> 8 = leNat bs := by
      rw [Nat.shiftRight_eq_div_pow]
      omega
    rw [List.length_cons, leBytes, leNat_cons, hlow, hhigh, ih]

/-- `binary.LittleEndian.Uint16` of two bytes. -/
def uint16LE (lo hi : UInt8) : UInt16 := lo.toUInt16 ||| hi.toUInt16 <<< 8

/-- `binary.LittleEndian.PutUint16(bs[i:i+2], v)`. -/
def putUint16LE (bs : Bytes) (i : ℕ) (v : UInt16) : Bytes :=
  (bs.set i v.toUInt8).set (i + 1) (v >>> 8).toUInt8

lemma uint16LE_low (lo hi : UInt8) : (uint16LE lo hi).toUInt8 = lo := by
  apply UInt8.toBitVec_inj.mp
  ext i hi
  simp [uint16LE]

lemma uint16LE_high (lo hi : UInt8) : (uint16LE lo hi >>> 8).toUInt8 = hi := by
  apply UInt8.toBitVec_inj.mp
  ext i hi
  have h₁ : i < 16 := by omega
  have h₂ : 8 + i < 16 := by omega
  simp [uint16LE, h₁, h₂, BitVec.getLsbD_eq_getElem hi]

lemma uint16LE_testBit (lo hi : UInt8) (n : ℕ) :
    (uint16LE lo hi).toNat.testBit (8 + n) = hi.toNat.testBit n := by
  have hv := (uint16LE lo hi).toNat_lt
  rw [← congrArg UInt8.toNat (uint16LE_high lo hi), UInt16.toNat_toUInt8, UInt16.toNat_shiftRight,
    show UInt16.toNat 8 % 16 = 8 by rfl, Nat.testBit_mod_two_pow, Nat.testBit_shiftRight]
  rcases Nat.lt_or_ge n 8 with h | h
  · simp [h]
  · rw [Nat.testBit_lt_two_pow (lt_of_lt_of_le hv (Nat.pow_le_pow_right (by omega) (by omega)))]
    simp

lemma uint16LE_split (v : UInt16) : uint16LE v.toUInt8 (v >>> 8).toUInt8 = v := by
  have hv : v.toNat < 65536 := v.toNat_lt
  have hlow : v.toUInt8.toUInt16.toNat = v.toNat % 256 := by simp
  have hhigh : (v >>> 8).toUInt8.toUInt16.toNat = v.toNat / 256 := by
    simp [Nat.shiftRight_eq_div_pow]
    omega
  have hmod : (v.toNat / 256) <<< 8 % 2 ^ 16 = (v.toNat / 256) <<< 8 := by
    rw [Nat.shiftLeft_eq]
    omega
  have hor := Nat.shiftLeft_add_eq_or_of_lt (Nat.mod_lt v.toNat (by decide : 0 < 2 ^ 8)) (v.toNat / 256)
  apply UInt16.toNat_inj.mp
  rw [uint16LE, UInt16.toNat_or, UInt16.toNat_shiftLeft, hlow, hhigh, UInt16.toNat_ofNat, Nat.or_comm]
  rw [show 8 % 2 ^ 16 % 16 = 8 by rfl, hmod]
  rw [show 2 ^ 8 = 256 by rfl] at hor
  rw [← hor, Nat.shiftLeft_eq]
  omega

@[simp] lemma putUint16LE_length (bs : Bytes) (i : ℕ) (v : UInt16) :
    (putUint16LE bs i v).length = bs.length := by
  simp [putUint16LE]

lemma putUint16LE_and (bs : Bytes) (i : ℕ) (lo hi : UInt8) (m : UInt16) :
    putUint16LE bs i (uint16LE lo hi &&& m) =
      (bs.set i (lo &&& m.toUInt8)).set (i + 1) (hi &&& (m >>> 8).toUInt8) := by
  rw [putUint16LE, UInt16.toUInt8_and, uint16LE_low, UInt16.shiftRight_and, UInt16.toUInt8_and,
    uint16LE_high]

lemma and_allOnes (b : UInt8) : b &&& 0xFF = b := by
  apply UInt8.toNat_inj.mp
  have hb : b.toNat < 256 := b.toNat_lt
  rw [UInt8.toNat_and]
  exact (Nat.and_two_pow_sub_one_eq_mod b.toNat 8).trans (Nat.mod_eq_of_lt hb)

/-- `copy(dst[i:], src)`: as much of `src` as fits, the rest of `dst` unchanged. -/
def copyAt (dst : Bytes) (i : ℕ) (src : Bytes) : Bytes :=
  dst.take i ++ (src.take (dst.length - i) ++ dst.drop (i + src.length))

theorem copyAt_length {dst : Bytes} {i : ℕ} (src : Bytes) (hi : i ≤ dst.length) :
    (copyAt dst i src).length = dst.length := by
  simp only [copyAt, List.length_append, List.length_take, List.length_drop]
  omega

/-- When `src` fits, the bytes below its end are the old ones followed by `src`. -/
theorem copyAt_take (dst src : Bytes) (i : ℕ) (h : i + src.length ≤ dst.length) :
    (copyAt dst i src).take (i + src.length) = dst.take i ++ src := by
  have hi : (dst.take i).length = i := by simp only [List.length_take]; omega
  rw [copyAt, List.take_of_length_le (l := src) (by omega), ← List.append_assoc,
    List.take_append_of_le_length (by simp only [List.length_append, hi]; omega)]
  exact List.take_of_length_le (by simp only [List.length_append, hi]; omega)

end ShadowProxy.WordBytes
