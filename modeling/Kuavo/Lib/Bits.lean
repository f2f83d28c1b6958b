import Mathlib.Algebra.Group.Nat.Defs
import Mathlib.Tactic.Common

/-!
Shifts, masks and packed fields of bytes, as quotients and remainders, and counters of 64 bits.

The simp lemmas turn the bit operations of a packing routine into divisions by powers of
two, which linear arithmetic decides.
-/

namespace Kuavo.Lib.Bits

lemma and_0xF (x : ℕ) : x &&& 0xF = x % 16 := Nat.and_two_pow_sub_one_eq_mod x 4
lemma and_0xFF (x : ℕ) : x &&& 0xFF = x % 256 := Nat.and_two_pow_sub_one_eq_mod x 8
lemma shiftRight_4 (x : ℕ) : x >>> 4 = x / 16 := Nat.shiftRight_eq_div_pow x 4
lemma shiftRight_8 (x : ℕ) : x >>> 8 = x / 256 := Nat.shiftRight_eq_div_pow x 8

/-- A field below bit four, put beside one shifted over it. -/
lemma shiftLeft_4_or {b : ℕ} (h : b < 16) (a : ℕ) : a <<< 4 ||| b = a * 16 + b := by
  have hb : b < 2 ^ 4 := h
  rw [← Nat.shiftLeft_add_eq_or_of_lt hb, Nat.shiftLeft_eq]

/-- A field below bit eight, put beside one shifted over it. -/
lemma shiftLeft_8_or {b : ℕ} (h : b < 256) (a : ℕ) : a <<< 8 ||| b = a * 256 + b := by
  have hb : b < 2 ^ 8 := h
  rw [← Nat.shiftLeft_add_eq_or_of_lt hb, Nat.shiftLeft_eq]

lemma or_and_distrib (a b c : UInt8) : (a ||| b) &&& c = a &&& c ||| b &&& c := by
  refine UInt8.toBitVec_inj.1 ?_
  ext i hi
  simp [Bool.and_or_distrib_right]

lemma and_or_absorb (a b : UInt8) : a &&& b ||| b = b := by
  refine UInt8.toBitVec_inj.1 ?_
  ext i hi
  simp

/-- `static_cast<uint8_t>`. -/
def byte (n : ℕ) : UInt8 := UInt8.ofNat n

@[simp] lemma byte_toNat (n : ℕ) : (byte n).toNat = n % 256 := UInt8.toNat_ofNat'

lemma byte_eq_iff (n : ℕ) (b : UInt8) : byte n = b ↔ n % 256 = b.toNat := by
  rw [← UInt8.toNat_inj, byte_toNat]

/-! ### Packed codes -/

/-- A 16-bit code in two bytes. -/
lemma unpack_16 {n : ℕ} (h : n < 65536) :
    (byte (n >>> 8 &&& 0xFF)).toNat <<< 8 ||| (byte (n &&& 0xFF)).toNat = n := by
  rw [byte_toNat, byte_toNat, shiftLeft_8_or (by omega), and_0xFF, and_0xFF, shiftRight_8]
  omega

/-- The byte that two 12-bit codes share. -/
lemma shared_toNat (a b : ℕ) :
    (byte ((a &&& 0xF) <<< 4 ||| (b >>> 8 &&& 0xF))).toNat = a % 16 * 16 + b / 256 % 16 := by
  rw [and_0xF, and_0xF, shiftRight_8, shiftLeft_4_or (by omega), byte_toNat]
  omega

/-- The first of two 12-bit codes in three bytes. -/
lemma unpack_12_first {a : ℕ} (h : a < 4096) (b : ℕ) :
    (byte (a >>> 4)).toNat <<< 4 ||| (byte ((a &&& 0xF) <<< 4 ||| (b >>> 8 &&& 0xF))).toNat >>> 4
      = a := by
  rw [shared_toNat, byte_toNat, shiftRight_4, shiftRight_4, shiftLeft_4_or (by omega)]
  omega

/-- The second of two 12-bit codes in three bytes. -/
lemma unpack_12_second (a : ℕ) {b : ℕ} (h : b < 4096) :
    ((byte ((a &&& 0xF) <<< 4 ||| (b >>> 8 &&& 0xF))).toNat &&& 0xF) <<< 8 |||
      (byte (b &&& 0xFF)).toNat = b := by
  rw [shared_toNat, byte_toNat, shiftLeft_8_or (by omega), and_0xF, and_0xFF]
  omega

/-! ### Words -/

/-- The number four bytes spell, the first the most significant. -/
def be32 (b0 b1 b2 b3 : UInt8) : ℕ :=
  ((b0.toNat * 256 + b1.toNat) * 256 + b2.toNat) * 256 + b3.toNat

/-- The number four bytes spell, the first the least significant. -/
def le32 (b0 b1 b2 b3 : UInt8) : ℕ := be32 b3 b2 b1 b0

/-- `__builtin_bswap32`. -/
def bswap32 (n : ℕ) : ℕ :=
  be32 (byte n) (byte (n / 256)) (byte (n / 65536)) (byte (n / 16777216))

lemma bswap32_le32 (b0 b1 b2 b3 : UInt8) : bswap32 (le32 b0 b1 b2 b3) = be32 b0 b1 b2 b3 := by
  have h0 := b0.toNat_lt
  have h1 := b1.toNat_lt
  have h2 := b2.toNat_lt
  have h3 := b3.toNat_lt
  have e0 : le32 b0 b1 b2 b3 % 256 = b0.toNat := by rw [le32, be32]; omega
  have e1 : le32 b0 b1 b2 b3 / 256 % 256 = b1.toNat := by rw [le32, be32]; omega
  have e2 : le32 b0 b1 b2 b3 / 65536 % 256 = b2.toNat := by rw [le32, be32]; omega
  have e3 : le32 b0 b1 b2 b3 / 16777216 % 256 = b3.toNat := by rw [le32, be32]; omega
  rw [bswap32, be32, byte_toNat, byte_toNat, byte_toNat, byte_toNat, e0, e1, e2, e3, be32]

lemma bswap32_bswap32 {n : ℕ} (h : n < 2 ^ 32) : bswap32 (bswap32 n) = n := by
  change bswap32 (le32 (byte (n / 16777216)) (byte (n / 65536)) (byte (n / 256)) (byte n)) = n
  rw [bswap32_le32, be32, byte_toNat, byte_toNat, byte_toNat, byte_toNat]
  omega

/-! ### Counters -/

lemma toNat_succ {i : UInt64} (h : i.toNat + 1 < 2 ^ 64) : (i + 1).toNat = i.toNat + 1 := by
  rw [UInt64.toNat_add]
  exact Nat.mod_eq_of_lt h

/-- A counter that has not reached another one does not wrap. -/
lemma toNat_succ_of_lt {i j : UInt64} (h : i.toNat < j.toNat) : (i + 1).toNat = i.toNat + 1 :=
  toNat_succ (Nat.lt_of_le_of_lt h j.toNat_lt)

end Kuavo.Lib.Bits
