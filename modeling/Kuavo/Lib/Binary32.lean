import Mathlib.Data.Rat.Floor
import Mathlib.Tactic.NormNum

/-!
The numbers that the 32 bits of an IEEE 754 single stand for, and conversions between these,
exact numbers and integers.
-/

namespace Kuavo.Lib.Binary32

/-- A floating-point value, its finite ones exact. -/
inductive Value
  | nan
  | inf (negative : Bool)
  | fin (q : ℚ)
  deriving DecidableEq

/-- The single with bit pattern `n`: a sign bit, eight of exponent, 23 of fraction. -/
def ofBits (n : ℕ) : Value :=
  let negative := n / 2 ^ 31 % 2 = 1
  let exponent := n / 2 ^ 23 % 2 ^ 8
  let fraction := n % 2 ^ 23
  if exponent = 255 then
    if fraction = 0 then .inf negative else .nan
  else
    let significand : ℕ := if exponent = 0 then fraction else 2 ^ 23 + fraction
    let magnitude : ℚ := significand * 2 ^ (max exponent 1) / 2 ^ 150
    .fin (if negative then -magnitude else magnitude)

/-- The product with a positive number. -/
def Value.scale (c : ℚ) : Value → Value
  | .fin q => .fin (q * c)
  | v => v

/-- Truncation towards zero. -/
def trunc (q : ℚ) : ℤ := if 0 ≤ q then ⌊q⌋ else -⌊-q⌋

/-- Conversion to a 32-bit `int`. Out of range it is undefined, and `undef` says what the
platform makes of it. -/
def Value.toInt (undef : Value → ℤ) : Value → ℤ
  | .fin q => if -2 ^ 31 ≤ trunc q ∧ trunc q < 2 ^ 31 then trunc q else undef (.fin q)
  | v => undef v

/-- The values that a 32-bit `int` has. -/
def Value.IsInt32 (v : Value) : Prop :=
  ∃ n : ℤ, v = .fin n ∧ -0x80000000 ≤ n ∧ n < 0x80000000

/-- Conversion to a 32-bit unsigned integer, undefined likewise. -/
def Value.toUInt32 (undef : Value → ℕ) : Value → ℕ
  | .fin q => if -1 < q ∧ q < 2 ^ 32 then ⌊q⌋₊ else undef (.fin q)
  | v => undef v

@[simp] lemma trunc_intCast (n : ℤ) : trunc n = n := by
  unfold trunc
  have hneg : ⌊-(n : ℚ)⌋ = -n := by rw [← Int.cast_neg, Int.floor_intCast]
  rw [Int.floor_intCast, hneg, neg_neg, ite_self]

/-- The conversion to an `int` keeps exactly the values that an `int` has, whatever the platform
makes of the others. -/
lemma Value.toInt_exact_iff (v : Value) :
    (∀ undef, Value.fin (v.toInt undef) = v) ↔ v.IsInt32 := by
  constructor
  · intro h
    -- an undefined conversion cannot give the value on every platform
    have hdefined : ∀ w, ¬ ∀ undef : Value → ℤ, Value.fin (undef w) = v := fun w hw => by
      have h01 : (Value.fin ((0 : ℤ) : ℚ)) = Value.fin ((1 : ℤ) : ℚ) :=
        (hw fun _ => 0).trans (hw fun _ => 1).symm
      exact absurd h01 (by decide +kernel)
    cases v with
    | nan => exact absurd h (hdefined .nan)
    | inf negative => exact absurd h (hdefined (.inf negative))
    | fin q =>
      by_cases hrange : -2 ^ 31 ≤ trunc q ∧ trunc q < 2 ^ 31
      · refine ⟨trunc q, ?_, by omega, by omega⟩
        have hq := h fun _ => 0
        rw [Value.toInt, if_pos hrange] at hq
        exact hq.symm
      · refine absurd (fun undef => ?_) (hdefined (.fin q))
        have hq := h undef
        rwa [Value.toInt, if_neg hrange] at hq
  · rintro ⟨n, rfl, hlow, hhigh⟩ undef
    rw [Value.toInt, trunc_intCast, if_pos ⟨by omega, by omega⟩]

/-! ### Rounding -/

/-- The nearest integer, ties to even. -/
def roundEven (q : ℚ) : ℕ :=
  let n := ⌊q⌋₊
  if q - n < 1 / 2 ∨ q - n = 1 / 2 ∧ n % 2 = 0 then n else n + 1

/-- The exponent of the largest power of two that is at most `q`, for a positive `q`. -/
def exponent (q : ℚ) : ℤ :=
  if 1 ≤ q then Nat.log2 ⌊q⌋₊ else -(Nat.log2 (⌈q⁻¹⌉₊ - 1) + 1)

/-- The bit pattern of the single nearest to `q`. The carry of a rounded significand runs into
the exponent, and what is too large becomes infinite. -/
def toBits (q : ℚ) : ℕ :=
  if q = 0 then 0
  else
    let e := max (exponent |q|) (-126)
    let significand := roundEven (|q| / 2 ^ (e - 23))
    (if q < 0 then 2 ^ 31 else 0) + min ((e + 126).toNat * 2 ^ 23 + significand) (255 * 2 ^ 23)

end Kuavo.Lib.Binary32
