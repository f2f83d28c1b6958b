import Kuavo.MercuryShm
import Kuavo.DamiaoSimulator

/-!
The three copies of the conversion between a bounded quantity and its code: of
`lib/utility/Utility.cpp`, of `include/mercury_shm.h` and of `tools/DamiaoSimulator.cpp`.
-/

namespace Kuavo.Codes

open Kuavo.Lib Kuavo.Utility

/-- Cutting first at the lower end and then at the upper one is clamping, in a range that is
not empty. -/
lemma cut_eq_limitMinMax {lo hi : ℚ} (h : lo ≤ hi) (x : ℚ) :
    (let y := if x < lo then lo else x; if hi < y then hi else y) = limitMinMax x lo hi := by
  unfold limitMinMax
  by_cases h1 : x < lo
  · have hmin : min x hi = x := min_eq_left (h1.le.trans h)
    simp only [if_pos h1, if_neg (not_lt.mpr h), hmin, max_eq_left h1.le]
  · have h1' : lo ≤ x := not_lt.mp h1
    by_cases h2 : hi < x
    · simp only [if_neg h1, if_pos h2, min_eq_right h2.le, max_eq_right h]
    · simp only [if_neg h1, if_neg h2, min_eq_left (not_lt.mp h2), max_eq_right h1']

lemma double_to_uint_eq {x_min x_max : ℚ} (h : x_min ≤ x_max) (x : ℚ) (bits : ℕ) :
    MercuryShm.double_to_uint x x_min x_max bits = doubleToUint x x_min x_max bits := by
  unfold MercuryShm.double_to_uint doubleToUint
  rw [← cut_eq_limitMinMax h x]

lemma isCodec_utility {x_min x_max : ℚ} (h : x_min < x_max) {bits : ℕ} (h0 : 1 ≤ bits)
    (hb : bits ≤ 16) :
    Quantize.IsCodec x_min x_max (2 ^ bits - 1) (doubleToUint · x_min x_max bits)
      (uintToDouble · x_min x_max bits) := by
  have hpow : 2 ^ 1 ≤ 2 ^ bits := Nat.pow_le_pow_right (by norm_num) h0
  have hshift : 1 <<< bits - 1 = 2 ^ bits - 1 := by rw [Nat.shiftLeft_eq, one_mul]
  have henc : (doubleToUint · x_min x_max bits) = Quantize.code x_min x_max (2 ^ bits - 1) := by
    funext x
    rw [doubleToUint_eq_code h hb, hshift]
  have hdec : (uintToDouble · x_min x_max bits) = Quantize.decode x_min x_max (2 ^ bits - 1) := by
    funext c
    rw [uintToDouble, hshift, Quantize.decode]
  rw [henc, hdec]
  exact Quantize.isCodec h (by omega)

/-- **Codes.** In every range and of every width up to 16 bits the codes fit the width, grow
with the quantity, stand for themselves and round down by less than a quantum. The copies in
the shared header and in the simulator compute the same. -/
theorem doubleToUint_uintToDouble (x_min x_max : ℚ) (bits : ℕ) (h : x_min < x_max)
    (h0 : 1 ≤ bits) (hb : bits ≤ 16) :
    ((∀ x, doubleToUint x x_min x_max bits ≤ 2 ^ bits - 1) ∧
      (∀ x y, x ≤ y → doubleToUint x x_min x_max bits ≤ doubleToUint y x_min x_max bits) ∧
      (∀ c ≤ 2 ^ bits - 1,
        doubleToUint (uintToDouble c x_min x_max bits) x_min x_max bits = c) ∧
      ∀ x, limitMinMax x x_min x_max - (x_max - x_min) / (2 ^ bits - 1) <
            uintToDouble (doubleToUint x x_min x_max bits) x_min x_max bits ∧
          uintToDouble (doubleToUint x x_min x_max bits) x_min x_max bits ≤
            limitMinMax x x_min x_max) ∧
    (∀ x, MercuryShm.double_to_uint x x_min x_max bits = doubleToUint x x_min x_max bits ∧
      DamiaoSimulator.double_to_uint x x_min x_max bits = doubleToUint x x_min x_max bits) ∧
    ∀ c, MercuryShm.uint_to_double c x_min x_max bits = uintToDouble c x_min x_max bits ∧
      DamiaoSimulator.uint_to_double c x_min x_max bits = uintToDouble c x_min x_max bits := by
  have hcodec := isCodec_utility h h0 hb
  have hpow : 1 ≤ 2 ^ bits := Nat.one_le_two_pow
  have hquantum : Quantize.quantum x_min x_max (2 ^ bits - 1) =
      (x_max - x_min) / (2 ^ bits - 1) := by
    rw [Quantize.quantum, Nat.cast_sub hpow]
    norm_num
  refine ⟨⟨hcodec.le_top, fun _ _ hxy => hcodec.mono hxy, hcodec.enc_dec, fun x => ⟨?_, ?_⟩⟩,
    fun x => ⟨double_to_uint_eq h.le x bits, ?_⟩, fun c => ⟨rfl, ?_⟩⟩
  · have hlt := hcodec.lt_dec_enc x
    rwa [hquantum] at hlt
  · exact hcodec.dec_enc_le x
  · exact DamiaoSimulator.double_to_uint_eq x x_min x_max bits
  · exact DamiaoSimulator.uint_to_double_eq c x_min x_max bits

/-- A position of the motors: in 16 bits the top code stands for the end of the range. -/
theorem doubleToUint_uintToDouble_position :
    doubleToUint (uintToDouble 65535 (-25 / 2) (25 / 2) 16) (-25 / 2) (25 / 2) 16 = 65535 :=
  (doubleToUint_uintToDouble (-25 / 2) (25 / 2) 16 (by norm_num) (by norm_num)
    (by norm_num)).1.2.2.1 65535 (by norm_num)

end Kuavo.Codes
