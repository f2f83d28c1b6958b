import Kuavo.ParamResponse

/-!
What a motor keeps of a register: `parseMotorParamData` decodes a `double`, `setTempParam` takes
an `int`, and `getParam` gives a `double` again.
-/

namespace Kuavo.ParamValue

open Kuavo.Lib Kuavo.Lib.Binary32 Kuavo.Utility

/-- The register reads as the response says, and the others as before. -/
structure Exact (m m' : Motor) (p : ParamResult) : Prop where
  value : Value.fin (m'.getParam p.rid) = p.value
  others : ∀ RID, RID ≠ p.rid → m'.getParam RID = m.getParam RID

lemma callback_of_param (undef : Value → ℤ) (m : Motor) (cache : MotorParamCache)
    {data : List UInt8} {p : ParamResult} (hp : Motor.parseMotorParamData data = some p)
    (now : UInt64) :
    (m.callback undef cache data now).1 = m.setTempParam p.rid (p.value.toInt undef) := by
  unfold Motor.callback
  rw [hp]

lemma getParam_setTempParam_of_ne (m : Motor) {RID rid : ℕ} (h : RID ≠ rid) (val : ℤ) :
    (m.setTempParam rid val).getParam RID = m.getParam RID := by
  simp [Motor.getParam, Motor.setTempParam, h]

/-- **When a register reads as its response said**, on every platform: exactly if the value is one
that an `int` has. -/
theorem exact_iff (m : Motor) (cache : MotorParamCache) {data : List UInt8} {p : ParamResult}
    (hp : Motor.parseMotorParamData data = some p) (now : UInt64) :
    (∀ undef, Exact m (m.callback undef cache data now).1 p) ↔ p.value.IsInt32 := by
  rw [← Value.toInt_exact_iff]
  refine forall_congr' fun undef => ?_
  rw [callback_of_param undef m cache hp now]
  constructor
  · intro h
    have hvalue := h.value
    rwa [Motor.getParam_setTempParam] at hvalue
  · intro h
    exact ⟨by rw [Motor.getParam_setTempParam, h],
      fun RID hne => getParam_setTempParam_of_ne m hne _⟩

/-- A register of integers reads right up to the largest `int`. -/
theorem isInt32_decodeParam_iff {rid : ℕ} (hrid : isIntRid rid = true) (b4 b5 b6 b7 : UInt8) :
    (decodeParam rid b4 b5 b6 b7).IsInt32 ↔ uint8sToUint32 b4 b5 b6 b7 < 2 ^ 31 := by
  unfold decodeParam Value.IsInt32
  rw [if_pos hrid]
  constructor
  · rintro ⟨n, hn, -, hhigh⟩
    have hcast : ((uint8sToUint32 b4 b5 b6 b7 : ℕ) : ℤ) = n := by
      exact_mod_cast Value.fin.inj hn
    omega
  · intro h
    exact ⟨uint8sToUint32 b4 b5 b6 b7, by norm_cast, by omega, by omega⟩

lemma parse_modeData : Motor.parseMotorParamData CanApi.modeData.toList =
    some ⟨0x0a, CanApi.modeData.paramValue⟩ := rfl

theorem exact_mode :
    (∀ undef, Exact { deviceId := 1 }
      (({ deviceId := 1 } : Motor).callback undef CanApi.emptyCache CanApi.modeData.toList 0).1
      ⟨0x0a, CanApi.modeData.paramValue⟩) ↔ CanApi.modeData.paramValue.IsInt32 :=
  exact_iff _ CanApi.emptyCache parse_modeData 0

/-- The largest position of motor `1`, register 21, is 12.5. -/
def pmaxData : DataFrame := ⟨1, 0, 0x33, 21, 0, 0, 0x48, 0x41⟩

/-- It reads as 12. -/
theorem pmax_not_exact :
    let m : Motor := { deviceId := 1 }
    let m' := (m.callback (fun _ => 0) CanApi.emptyCache pmaxData.toList 0).1
    Motor.parseMotorParamData pmaxData.toList = some ⟨21, pmaxData.paramValue⟩ ∧
      pmaxData.paramValue = .fin (25 / 2) ∧ m'.getParam 21 = 12 ∧
      ¬ Exact m m' ⟨21, pmaxData.paramValue⟩ := by
  intro m m'
  have hvalue : pmaxData.paramValue = .fin (25 / 2) := by decide +kernel
  have hread : m'.getParam 21 = 12 := by decide +kernel
  refine ⟨rfl, hvalue, hread, fun h => ?_⟩
  have hexact := h.value
  dsimp only at hexact
  rw [hread, hvalue] at hexact
  exact absurd hexact (by decide +kernel)

end Kuavo.ParamValue
