import Mathlib.Algebra.Order.Floor.Ring
import Mathlib.Algebra.Order.Floor.Semiring
import Mathlib.Algebra.Order.Field.Basic
import Mathlib.Data.Rat.Floor
import Mathlib.Tactic.Linarith
import Mathlib.Tactic.FieldSimp
import Mathlib.Tactic.Ring
import Mathlib.Tactic.GCongr
import Mathlib.Tactic.Positivity

/-!
Linear quantization with saturation.

A real-valued quantity is clamped to `[lo, hi]` and the position of the clamped value in
that interval is cut down to one of the codes `0, …, n`. The lemmas say which codes arise
and from which inputs: the top code exactly by saturation, and a code between two bounds
exactly from an interval. Decoding a code gives the clamped quantity back, rounded down by
less than the distance between neighbouring codes.
-/

namespace Kuavo.Lib.Quantize

variable {K : Type*} [Field K] [LinearOrder K] [IsStrictOrderedRing K]

def clamp (lo hi x : K) : K := max lo (min x hi)

omit [Field K] [IsStrictOrderedRing K] in
lemma clamp_le {lo hi : K} (h : lo ≤ hi) (x : K) : clamp lo hi x ≤ hi :=
  max_le h (min_le_right _ _)

omit [Field K] [IsStrictOrderedRing K] in
/-- Above the lower end, clamping only cuts at the upper end. -/
lemma le_clamp_iff {lo hi c : K} (hlo : lo < c) (hhi : c ≤ hi) (x : K) :
    c ≤ clamp lo hi x ↔ c ≤ x := by
  unfold clamp
  rw [le_max_iff, le_min_iff]
  constructor
  · rintro (h | h)
    · exact absurd h (not_le.mpr hlo)
    · exact h.1
  · exact fun h => Or.inr ⟨h, hhi⟩

omit [Field K] [IsStrictOrderedRing K] in
/-- Below the upper end, clamping only cuts at the lower end. -/
lemma clamp_le_iff {lo hi c : K} (hlo : lo ≤ c) (hhi : c < hi) (x : K) :
    clamp lo hi x ≤ c ↔ x ≤ c := by
  unfold clamp
  rw [max_le_iff, min_le_iff]
  constructor
  · rintro ⟨-, h | h⟩
    · exact h
    · exact absurd h (not_le.mpr hhi)
  · exact fun h => ⟨hlo, Or.inl h⟩

omit [Field K] [IsStrictOrderedRing K] in
lemma clamp_eq_iff {lo hi c : K} (hlo : lo < c) (hhi : c < hi) (x : K) :
    clamp lo hi x = c ↔ x = c := by
  rw [le_antisymm_iff, clamp_le_iff hlo.le hhi, le_clamp_iff hlo hhi.le, ← le_antisymm_iff]

omit [Field K] [IsStrictOrderedRing K] in
lemma clamp_eq_self {lo hi x : K} (hlo : lo ≤ x) (hhi : x ≤ hi) : clamp lo hi x = x := by
  rw [clamp, min_eq_left hhi, max_eq_right hlo]

variable [FloorSemiring K]

/-- The code of `x` among `0, …, n`. -/
def code (lo hi : K) (n : ℕ) (x : K) : ℕ := ⌊(clamp lo hi x - lo) / (hi - lo) * n⌋₊

variable {lo hi : K} {n : ℕ}

lemma code_le (h : lo < hi) (n : ℕ) (x : K) : code lo hi n x ≤ n := by
  have hs : 0 < hi - lo := sub_pos.mpr h
  refine Nat.floor_le_of_le ?_
  have h1 : (clamp lo hi x - lo) / (hi - lo) ≤ 1 := by
    rw [div_le_one hs]
    linarith [clamp_le h.le x]
  calc (clamp lo hi x - lo) / (hi - lo) * n ≤ 1 * n :=
        mul_le_mul_of_nonneg_right h1 (Nat.cast_nonneg n)
    _ = n := one_mul _

/-- The inputs whose code is at least `k`, for a code other than the bottom one. -/
theorem le_code_iff (h : lo < hi) {k : ℕ} (hk : 0 < k) (hkn : k ≤ n) (x : K) :
    k ≤ code lo hi n x ↔ lo + (hi - lo) * (k / n) ≤ x := by
  have hs : 0 < hi - lo := sub_pos.mpr h
  have hn : (0 : K) < n := Nat.cast_pos.mpr (hk.trans_le hkn)
  have hk' : (0 : K) < k := Nat.cast_pos.mpr hk
  have hfrac : (k : K) / n ≤ 1 := by
    rw [div_le_one hn]
    exact Nat.cast_le.mpr hkn
  have hlo : lo < lo + (hi - lo) * (k / n) := by
    have : 0 < (hi - lo) * (k / n) := by positivity
    linarith
  have hhi : lo + (hi - lo) * (k / n) ≤ hi := by
    have := mul_le_mul_of_nonneg_left hfrac hs.le
    linarith
  rw [← le_clamp_iff hlo hhi, code, Nat.le_floor_iff' hk.ne']
  constructor
  · intro hle
    have hdiv : (k : K) / n ≤ (clamp lo hi x - lo) / (hi - lo) := by
      rwa [div_le_iff₀ hn]
    rw [le_div_iff₀ hs] at hdiv
    linarith [mul_comm (hi - lo) ((k : K) / n)]
  · intro hle
    have hdiv : (k : K) / n ≤ (clamp lo hi x - lo) / (hi - lo) := by
      rw [le_div_iff₀ hs]
      linarith [mul_comm (hi - lo) ((k : K) / n)]
    rwa [div_le_iff₀ hn] at hdiv

/-- **Saturation.** The top code is the code of the inputs at or above the upper end. -/
theorem code_eq_top_iff (h : lo < hi) (hn : 0 < n) (x : K) : code lo hi n x = n ↔ hi ≤ x := by
  have hn' : (n : K) ≠ 0 := Nat.cast_ne_zero.mpr hn.ne'
  have key := le_code_iff h hn le_rfl x
  rw [div_self hn', mul_one, add_sub_cancel] at key
  rw [← key]
  exact ⟨fun e => e.ge, fun e => le_antisymm (code_le h n x) e⟩

/-! ### Decoding -/

/-- The value that the code `k` stands for. -/
def decode (lo hi : K) (n k : ℕ) : K := (k : K) / n * (hi - lo) + lo

/-- The distance between the values of neighbouring codes. -/
def quantum (lo hi : K) (n : ℕ) : K := (hi - lo) / n

/-- A code rounds down, and by less than a quantum. -/
theorem decode_code (h : lo < hi) (hn : 0 < n) (x : K) :
    decode lo hi n (code lo hi n x) ≤ clamp lo hi x ∧
      clamp lo hi x < decode lo hi n (code lo hi n x) + quantum lo hi n := by
  have hs : 0 < hi - lo := sub_pos.mpr h
  have hn' : (0 : K) < n := Nat.cast_pos.mpr hn
  have hpos : 0 ≤ (clamp lo hi x - lo) / (hi - lo) * n :=
    mul_nonneg (div_nonneg (sub_nonneg.mpr (le_max_left _ _)) hs.le) hn'.le
  have hle : (code lo hi n x : K) ≤ (clamp lo hi x - lo) / (hi - lo) * n := Nat.floor_le hpos
  have hlt : (clamp lo hi x - lo) / (hi - lo) * n < code lo hi n x + 1 := Nat.lt_floor_add_one _
  have hval : (clamp lo hi x - lo) / (hi - lo) * n / n * (hi - lo) + lo = clamp lo hi x := by
    field_simp
    ring
  unfold decode quantum
  constructor
  · calc (code lo hi n x : K) / n * (hi - lo) + lo
        ≤ (clamp lo hi x - lo) / (hi - lo) * n / n * (hi - lo) + lo := by gcongr
      _ = clamp lo hi x := hval
  · calc clamp lo hi x = (clamp lo hi x - lo) / (hi - lo) * n / n * (hi - lo) + lo := hval.symm
      _ < ((code lo hi n x : K) + 1) / n * (hi - lo) + lo := by gcongr
      _ = (code lo hi n x : K) / n * (hi - lo) + lo + (hi - lo) / n := by ring

omit [Field K] [IsStrictOrderedRing K] [FloorSemiring K] in
lemma clamp_mono (lo hi : K) : Monotone (clamp lo hi) :=
  fun _ _ hxy => max_le_max le_rfl (min_le_min hxy le_rfl)

theorem code_mono (h : lo < hi) (n : ℕ) : Monotone (code lo hi n) := by
  intro x y hxy
  have hs : 0 ≤ hi - lo := (sub_pos.mpr h).le
  have hc : clamp lo hi x - lo ≤ clamp lo hi y - lo :=
    sub_le_sub_right (clamp_mono lo hi hxy) lo
  exact Nat.floor_le_floor
    (mul_le_mul_of_nonneg_right (div_le_div_of_nonneg_right hc hs) (Nat.cast_nonneg n))

lemma decode_mem (h : lo < hi) {k : ℕ} (hk : k ≤ n) :
    lo ≤ decode lo hi n k ∧ decode lo hi n k ≤ hi := by
  have hs : 0 ≤ hi - lo := (sub_pos.mpr h).le
  have hk0 : (0 : K) ≤ (k : K) / n := div_nonneg (Nat.cast_nonneg k) (Nat.cast_nonneg n)
  have hk1 : (k : K) / n ≤ 1 := div_le_one_of_le₀ (Nat.cast_le.mpr hk) (Nat.cast_nonneg n)
  have h0 : 0 ≤ (k : K) / n * (hi - lo) := mul_nonneg hk0 hs
  have h1 : (k : K) / n * (hi - lo) ≤ 1 * (hi - lo) := mul_le_mul_of_nonneg_right hk1 hs
  unfold decode
  constructor <;> linarith

/-- Every code is the code of the value it stands for. -/
theorem code_decode (h : lo < hi) (hn : 0 < n) {k : ℕ} (hk : k ≤ n) :
    code lo hi n (decode lo hi n k) = k := by
  obtain ⟨hlo, hhi⟩ := decode_mem h hk
  have hs : hi - lo ≠ 0 := (sub_pos.mpr h).ne'
  have hn' : (n : K) ≠ 0 := Nat.cast_ne_zero.mpr hn.ne'
  have hpos : (decode lo hi n k - lo) / (hi - lo) * n = k := by
    rw [decode, add_sub_cancel_right, mul_div_cancel_right₀ _ hs, div_mul_cancel₀ _ hn']
  rw [code, clamp_eq_self hlo hhi, hpos, Nat.floor_natCast]

/-- What a pair of conversions between `[lo, hi]` and the codes `0, …, n` owes. -/
structure IsCodec (lo hi : K) (n : ℕ) (enc : K → ℕ) (dec : ℕ → K) : Prop where
  le_top : ∀ x, enc x ≤ n
  mono : Monotone enc
  enc_dec : ∀ k ≤ n, enc (dec k) = k
  dec_enc_le : ∀ x, dec (enc x) ≤ clamp lo hi x
  lt_dec_enc : ∀ x, clamp lo hi x - quantum lo hi n < dec (enc x)

theorem isCodec (h : lo < hi) (hn : 0 < n) : IsCodec lo hi n (code lo hi n) (decode lo hi n) where
  le_top := code_le h n
  mono := code_mono h n
  enc_dec := fun _ hk => code_decode h hn hk
  dec_enc_le := fun x => (decode_code h hn x).1
  lt_dec_enc := fun x => sub_lt_iff_lt_add.mpr (decode_code h hn x).2

/-- **Round trip.** Decoding is within a quantum of the clamped value. -/
theorem abs_decode_code_le (h : lo < hi) (hn : 0 < n) (x : K) :
    |decode lo hi n (code lo hi n x) - clamp lo hi x| ≤ quantum lo hi n := by
  obtain ⟨hle, hlt⟩ := decode_code h hn x
  rw [abs_le]
  constructor <;> linarith

end Kuavo.Lib.Quantize
