import Kuavo.Lib.Bits
import Mathlib.Tactic.Ring

/-!
Numbers as bytes of a fixed count, the least significant first, and fields of a byte string.
-/

namespace Kuavo.Lib.LittleEndian

open Kuavo.Lib.Bits

/-- The `w` lowest bytes of `n`. -/
def toBytes : ℕ → ℕ → List UInt8
  | 0, _ => []
  | w + 1, n => byte n :: toBytes w (n / 256)

def ofBytes : List UInt8 → ℕ
  | [] => 0
  | b :: bs => b.toNat + 256 * ofBytes bs

@[simp] lemma length_toBytes (w n : ℕ) : (toBytes w n).length = w := by
  induction w generalizing n with
  | zero => rfl
  | succ w ih => simp [toBytes, ih]

lemma ofBytes_toBytes (w n : ℕ) : ofBytes (toBytes w n) = n % 256 ^ w := by
  induction w generalizing n with
  | zero => simp [toBytes, ofBytes, Nat.mod_one]
  | succ w ih =>
    rw [toBytes, ofBytes, byte_toNat, ih, Nat.pow_succ', Nat.mod_mul]

lemma ofBytes_toBytes_of_lt {w n : ℕ} (h : n < 256 ^ w) : ofBytes (toBytes w n) = n := by
  rw [ofBytes_toBytes, Nat.mod_eq_of_lt h]

/-- The number in the `w` bytes at an offset. -/
def field (bs : List UInt8) (off w : ℕ) : ℕ := ofBytes ((bs.drop off).take w)

/-- The bytes in front of a field do not matter, but for their count. -/
lemma field_append_right (pre bs : List UInt8) (off w : ℕ) :
    field (pre ++ bs) (pre.length + off) w = field bs off w := by
  rw [field, field, List.drop_length_add_append]

/-- A field that starts a byte string. -/
lemma field_toBytes {w n : ℕ} (h : n < 256 ^ w) (rest : List UInt8) :
    field (toBytes w n ++ rest) 0 w = n := by
  rw [field, List.drop_zero, List.take_left' (length_toBytes w n), ofBytes_toBytes_of_lt h]

end Kuavo.Lib.LittleEndian
