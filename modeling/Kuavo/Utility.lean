import Kuavo.Lib.Bits
import Kuavo.Lib.Binary32
import Kuavo.Lib.Quantize

/-!
`lib/utility/Utility.cpp`: codes of bounded quantities, and numbers spelled by bytes.

Arithmetic is exact. The codes are instances of the quantization of `Kuavo.Lib.Quantize`.
-/

namespace Kuavo.Utility

open Kuavo.Lib Kuavo.Lib.Bits

def limitMinMax (x min max : ℚ) : ℚ := Max.max min (Min.min x max)

def doubleToUint (x x_min x_max : ℚ) (bits : ℕ) : ℕ :=
  let x := limitMinMax x x_min x_max
  let span := x_max - x_min
  let data_norm := (x - x_min) / span
  ⌊data_norm * ((1 <<< bits - 1 : ℕ) : ℚ)⌋₊ % 2 ^ 16

def uintToDouble (x : ℕ) (min max : ℚ) (bits : ℕ) : ℚ :=
  let span := max - min
  let data_norm := (x : ℚ) / ((1 <<< bits - 1 : ℕ) : ℚ)
  data_norm * span + min

/-- The four bytes of the single that `value` is cast to. -/
def floatToUint8s (value : ℚ) : Fin 4 → UInt8 := fun i =>
  byte (Binary32.toBits value / 256 ^ i.val)

def uint8sToUint32 (byte1 byte2 byte3 byte4 : UInt8) : ℕ := le32 byte1 byte2 byte3 byte4

def uint8sToFloat (byte1 byte2 byte3 byte4 : UInt8) : Binary32.Value :=
  Binary32.ofBits (le32 byte1 byte2 byte3 byte4)

/-- Up to 16 bits, the cast to `uint16_t` changes nothing. -/
lemma doubleToUint_eq_code {x_min x_max : ℚ} (h : x_min < x_max) {bits : ℕ} (hb : bits ≤ 16)
    (x : ℚ) :
    doubleToUint x x_min x_max bits = Quantize.code x_min x_max (1 <<< bits - 1) x := by
  have hle : Quantize.code x_min x_max (1 <<< bits - 1) x ≤ 1 <<< bits - 1 :=
    Quantize.code_le h _ x
  have hpow : 2 ^ bits ≤ 2 ^ 16 := Nat.pow_le_pow_right (by norm_num) hb
  have hpos : 0 < 2 ^ bits := by positivity
  have hshift : 1 <<< bits = 2 ^ bits := by rw [Nat.shiftLeft_eq, one_mul]
  exact Nat.mod_eq_of_lt (show Quantize.code x_min x_max (1 <<< bits - 1) x < 2 ^ 16 by omega)

lemma doubleToUint_lt {x_min x_max : ℚ} (h : x_min < x_max) (bits : ℕ) (hb : bits ≤ 16) (x : ℚ) :
    doubleToUint x x_min x_max bits < 2 ^ bits := by
  rw [doubleToUint_eq_code h hb]
  have hle := Quantize.code_le h (1 <<< bits - 1) x
  have hpos : 0 < 2 ^ bits := by positivity
  have hshift : 1 <<< bits = 2 ^ bits := by rw [Nat.shiftLeft_eq, one_mul]
  omega

/-- **Saturation** of a code of at most 16 bits. -/
lemma doubleToUint_eq_top_iff {x_min x_max : ℚ} (h : x_min < x_max) (bits top : ℕ)
    (htop : top + 1 = 2 ^ bits) (h0 : 0 < top) (hb : bits ≤ 16) (x : ℚ) :
    doubleToUint x x_min x_max bits = top ↔ x_max ≤ x := by
  have hshift : 1 <<< bits - 1 = top := by rw [Nat.shiftLeft_eq, one_mul]; omega
  rw [doubleToUint_eq_code h hb, hshift]
  exact Quantize.code_eq_top_iff h h0 x

lemma le_doubleToUint_iff {x_min x_max : ℚ} (h : x_min < x_max) (bits top k : ℕ)
    (htop : top + 1 = 2 ^ bits) (hb : bits ≤ 16) (hk : 0 < k) (hkt : k ≤ top) (x : ℚ) :
    k ≤ doubleToUint x x_min x_max bits ↔ x_min + (x_max - x_min) * (k / top) ≤ x := by
  have hshift : 1 <<< bits - 1 = top := by rw [Nat.shiftLeft_eq, one_mul]; omega
  rw [doubleToUint_eq_code h hb, hshift]
  exact Quantize.le_code_iff h hk hkt x

/-- The quantum of a code of `bits` bits. -/
def quantum (x_min x_max : ℚ) (bits : ℕ) : ℚ := Quantize.quantum x_min x_max (1 <<< bits - 1)

/-- **Round trip** of a quantity through a code in one and the same range. -/
lemma abs_uintToDouble_doubleToUint_le {x_min x_max : ℚ} (h : x_min < x_max) {bits : ℕ}
    (h0 : 0 < bits) (hb : bits ≤ 16) (x : ℚ) :
    |uintToDouble (doubleToUint x x_min x_max bits) x_min x_max bits
        - limitMinMax x x_min x_max| ≤ quantum x_min x_max bits := by
  have hn : 0 < 1 <<< bits - 1 := by
    have hpow : 2 ^ 1 ≤ 2 ^ bits := Nat.pow_le_pow_right (by norm_num) h0
    have hshift : 1 <<< bits = 2 ^ bits := by rw [Nat.shiftLeft_eq, one_mul]
    omega
  rw [doubleToUint_eq_code h hb]
  exact Quantize.abs_decode_code_le h hn x

/-- Between which codes a clamped quantity lies. -/
lemma doubleToUint_bounds {x_min x_max : ℚ} (h : x_min < x_max) (bits top : ℕ)
    (htop : top + 1 = 2 ^ bits) (h0 : 0 < top) (hb : bits ≤ 16) (x : ℚ) :
    (doubleToUint x x_min x_max bits : ℚ) * (x_max - x_min)
        ≤ (limitMinMax x x_min x_max - x_min) * top ∧
      (limitMinMax x x_min x_max - x_min) * top
        < ((doubleToUint x x_min x_max bits : ℚ) + 1) * (x_max - x_min) := by
  have hshift : 1 <<< bits - 1 = top := by rw [Nat.shiftLeft_eq, one_mul]; omega
  obtain ⟨hle, hlt⟩ := Quantize.decode_code h h0 x
  have htop' : (0 : ℚ) < top := Nat.cast_pos.mpr h0
  rw [doubleToUint_eq_code h hb, hshift]
  change _ ≤ (Quantize.clamp x_min x_max x - x_min) * top ∧
    (Quantize.clamp x_min x_max x - x_min) * top < _
  unfold Quantize.decode Quantize.quantum at *
  constructor
  · have := mul_le_mul_of_nonneg_right hle htop'.le
    field_simp at this
    linarith
  · have := mul_lt_mul_of_pos_right hlt htop'
    field_simp at this
    linarith

end Kuavo.Utility
