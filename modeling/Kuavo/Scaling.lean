import Kuavo.Feedback
import Kuavo.MitFrame

/-!
Quantities through the frames and back, between a motor of the robot and its simulator.

Both sides cut a quantity down to a code of the same width, and both pack the codes alike.
Position, velocity and the gains have the same range on both sides and come back within a
quantum. The torque does not: one side packs it in 54 Nm and the other reads it in 18 Nm, and
back, so that it survives around zero only.
-/

namespace Kuavo.Scaling

open Kuavo.Lib Kuavo.Lib.Bits Kuavo.Utility Kuavo.DamiaoSimulator Kuavo.MitFrame Kuavo.Feedback

/-! ### From the robot to the simulator -/

/-- The simulator reads the codes of a command back. -/
lemma handleMitControl_pack {motor : MotorState} (hen : motor.status = .ENABLED) {c : MITCodes}
    (h : InRange c) :
    handleMitControl motor c.pack = updatePhysics { motor with
      targetPos := .fin (uint_to_double c.q_uint (-motor.limits.pMax) motor.limits.pMax 16)
      targetVel := .fin (uint_to_double c.dq_uint (-motor.limits.vMax) motor.limits.vMax 12)
      kp := uint_to_double c.kp_uint 0 500 12
      kd := uint_to_double c.kd_uint 0 5 12
      targetTorque := uint_to_double c.tau_uint (-motor.limits.tMax) motor.limits.tMax 12 } := by
  have hq := unpack_16 h.q
  have hdq := unpack_12_first h.dq c.kp_uint
  have hkp := unpack_12_second c.dq_uint h.kp
  have hkd := unpack_12_first h.kd c.tau_uint
  have htau := unpack_12_second c.kd_uint h.tau
  unfold handleMitControl MITCodes.pack
  rw [if_neg (not_not.mpr hen)]
  simp only [hq, hdq, hkp, hkd, htau]

/-- A decoded value is within a quantum of the value packed, once that is clamped to the range
it was packed in. -/
def Within (decoded value lo hi : ℚ) (bits : ℕ) : Prop :=
  |decoded - limitMinMax value lo hi| ≤ quantum lo hi bits

/-- The five values that a MIT command leaves in the simulator are within a quantum. -/
structure MitWithin (limits : LimitParam) (p : MITParam) (motor : MotorState) : Prop where
  q : ∃ x, motor.targetPos = .fin x ∧ Within x p.q (-limits.pMax) limits.pMax 16
  dq : ∃ x, motor.targetVel = .fin x ∧ Within x p.dq (-limits.vMax) limits.vMax 12
  kp : Within motor.kp p.kp 0 500 12
  kd : Within motor.kd p.kd 0 5 12
  tau : Within motor.targetTorque p.tau (-limits.tMax) limits.tMax 12

/-- Position, velocity and torque of the simulator, as read from its feedback, are within a
quantum. -/
structure FeedbackWithin (motor : MotorState) (r : StateResult) : Prop where
  position : Within r.position motor.position (-motor.limits.pMax) motor.limits.pMax 16
  velocity : Within r.velocity motor.velocity (-motor.limits.vMax) motor.limits.vMax 12
  torque : Within r.torque motor.torque (-motor.limits.tMax) motor.limits.tMax 12

/-- A quantity packed and read in the same range. -/
lemma within_same {hi : ℚ} (h : 0 < hi) {bits : ℕ} (h0 : 0 < bits) (hb : bits ≤ 16) (x : ℚ) :
    Within (uintToDouble (doubleToUint x (-hi) hi bits) (-hi) hi bits) x (-hi) hi bits :=
  abs_uintToDouble_doubleToUint_le (by linarith) h0 hb x

/-! ### Torque in two ranges -/

/-- The code of a torque `c` in 54 Nm, in units of a quantum of each range. -/
lemma abs_wide_le_iff (k : ℕ) (c : ℚ) :
    |(k : ℚ) / 4095 * (18 - -18) + -18 - c| ≤ (54 - -54) / 4095 ↔
      -108 ≤ 36 * (k : ℚ) - 73710 - 4095 * c ∧ 36 * (k : ℚ) - 73710 - 4095 * c ≤ 108 := by
  rw [abs_le]
  constructor
  · rintro ⟨hlow, hhigh⟩
    constructor <;> linarith
  · rintro ⟨hlow, hhigh⟩
    constructor <;> linarith

lemma abs_narrow_le_iff (k : ℕ) (c : ℚ) :
    |(k : ℚ) / 4095 * (54 - -54) + -54 - c| ≤ (18 - -18) / 4095 ↔
      -36 ≤ 108 * (k : ℚ) - 221130 - 4095 * c ∧ 108 * (k : ℚ) - 221130 - 4095 * c ≤ 36 := by
  rw [abs_le]
  constructor
  · rintro ⟨hlow, hhigh⟩
    constructor <;> linarith
  · rintro ⟨hlow, hhigh⟩
    constructor <;> linarith

/-- The torques whose code `k`, read in the narrow range, is within a quantum: those with five
codes around zero. -/
lemma wide_iff {k : ℕ} {c : ℚ} (hle : (k : ℚ) * 108 ≤ (c + 54) * 4095)
    (hlt : (c + 54) * 4095 < ((k : ℚ) + 1) * 108) :
    -108 ≤ 36 * (k : ℚ) - 73710 - 4095 * c ∧ 36 * (k : ℚ) - 73710 - 4095 * c ≤ 108 ↔
      (-22 / 455 ≤ c ∧ c ≤ 14 / 455) ∨ c = 18 / 455 := by
  constructor
  · rintro ⟨hlow, hhigh⟩
    have hk1 : k < 2050 := by exact_mod_cast (show (k : ℚ) < 2050 by linarith)
    have hk2 : 2044 < k := by exact_mod_cast (show (2044 : ℚ) < k by linarith)
    have hcases : k ≤ 2048 ∨ k = 2049 := by omega
    rcases hcases with hk | rfl
    · have hk' : (k : ℚ) ≤ 2048 := by exact_mod_cast hk
      have hk2' : (2045 : ℚ) ≤ k := by exact_mod_cast hk2
      exact Or.inl ⟨by linarith, by linarith⟩
    · push_cast at *
      exact Or.inr (by linarith)
  · rintro (⟨hlow, hhigh⟩ | rfl)
    · have hk1 : k < 2049 := by exact_mod_cast (show (k : ℚ) < 2049 by linarith)
      have hk2 : 2044 < k := by exact_mod_cast (show (2044 : ℚ) < k by linarith)
      have hcases : k = 2045 ∨ k = 2046 ∨ k = 2047 ∨ k = 2048 := by omega
      rcases hcases with rfl | rfl | rfl | rfl <;> push_cast at * <;> constructor <;> linarith
    · have hk1 : k < 2050 := by exact_mod_cast (show (k : ℚ) < 2050 by linarith)
      have hk2 : 2048 < k := by exact_mod_cast (show (2048 : ℚ) < k by linarith)
      obtain rfl : k = 2049 := by omega
      norm_num

/-- The torques whose code `k`, read in the wide range, is within a quantum: those with two
codes around zero, and of the lower code only its bottom end. -/
lemma narrow_iff {k : ℕ} {c : ℚ} (hle : (k : ℚ) * 36 ≤ (c + 18) * 4095)
    (hlt : (c + 18) * 4095 < ((k : ℚ) + 1) * 36) :
    -36 ≤ 108 * (k : ℚ) - 221130 - 4095 * c ∧ 108 * (k : ℚ) - 221130 - 4095 * c ≤ 36 ↔
      c = -2 / 455 ∨ (2 / 455 ≤ c ∧ c < 6 / 455) := by
  constructor
  · rintro ⟨hlow, hhigh⟩
    have hk1 : k < 2049 := by exact_mod_cast (show (k : ℚ) < 2049 by linarith)
    have hk2 : 2046 < k := by exact_mod_cast (show (2046 : ℚ) < k by linarith)
    have hcases : k = 2047 ∨ k = 2048 := by omega
    rcases hcases with rfl | rfl
    · push_cast at *
      exact Or.inl (by linarith)
    · push_cast at *
      exact Or.inr ⟨by linarith, by linarith⟩
  · rintro (rfl | ⟨hlow, hhigh⟩)
    · have hk1 : k < 2048 := by exact_mod_cast (show (k : ℚ) < 2048 by linarith)
      have hk2 : 2046 < k := by exact_mod_cast (show (2046 : ℚ) < k by linarith)
      obtain rfl : k = 2047 := by omega
      norm_num
    · have hk1 : k < 2049 := by exact_mod_cast (show (k : ℚ) < 2049 by linarith)
      have hk2 : 2047 < k := by exact_mod_cast (show (2047 : ℚ) < k by linarith)
      obtain rfl : k = 2048 := by omega
      push_cast at *
      constructor <;> linarith

lemma cast_top : ((1 <<< 12 - 1 : ℕ) : ℚ) = 4095 := by decide +kernel

/-- A torque packed in 54 Nm and read in 18 Nm. -/
lemma within_wide_iff (tau : ℚ) :
    Within (uintToDouble (doubleToUint tau (-54) 54 12) (-18) 18 12) tau (-54) 54 12 ↔
      (-22 / 455 ≤ tau ∧ tau ≤ 14 / 455) ∨ tau = 18 / 455 := by
  have h1 : -22 / 455 ≤ limitMinMax tau (-54) 54 ↔ -22 / 455 ≤ tau :=
    Quantize.le_clamp_iff (by norm_num) (by norm_num) tau
  have h2 : limitMinMax tau (-54) 54 ≤ 14 / 455 ↔ tau ≤ 14 / 455 :=
    Quantize.clamp_le_iff (by norm_num) (by norm_num) tau
  have h3 : limitMinMax tau (-54) 54 = 18 / 455 ↔ tau = 18 / 455 :=
    Quantize.clamp_eq_iff (by norm_num) (by norm_num) tau
  obtain ⟨hle, hlt⟩ := doubleToUint_bounds (show (-54 : ℚ) < 54 by norm_num) 12 4095
    (by norm_num) (by norm_num) (by norm_num) tau
  unfold Within uintToDouble quantum Quantize.quantum
  rw [cast_top]
  refine (abs_wide_le_iff _ _).trans ?_
  rw [wide_iff (by push_cast at hle; linarith) (by push_cast at hlt; linarith), h1, h2, h3]

/-- A torque packed in 18 Nm and read in 54 Nm. -/
lemma within_narrow_iff {tau : ℚ} (hlo : -18 ≤ tau) (hhi : tau ≤ 18) :
    Within (uintToDouble (doubleToUint tau (-18) 18 12) (-54) 54 12) tau (-18) 18 12 ↔
      tau = -2 / 455 ∨ (2 / 455 ≤ tau ∧ tau < 6 / 455) := by
  have hself : limitMinMax tau (-18) 18 = tau := Quantize.clamp_eq_self hlo hhi
  obtain ⟨hle, hlt⟩ := doubleToUint_bounds (show (-18 : ℚ) < 18 by norm_num) 12 4095
    (by norm_num) (by norm_num) (by norm_num) tau
  unfold Within uintToDouble quantum Quantize.quantum
  rw [hself] at hle hlt ⊢
  rw [cast_top]
  refine (abs_narrow_le_iff _ _).trans ?_
  exact narrow_iff (by push_cast at hle; linarith) (by push_cast at hlt; linarith)

/-! ### Both directions -/

/-- What `updatePhysics` and the decoder keep to. -/
structure WithinLimits (motor : MotorState) : Prop where
  position : |motor.position| ≤ motor.limits.pMax
  velocity : |motor.velocity| ≤ motor.limits.vMax
  torque : |motor.torque| ≤ motor.limits.tMax

/-- **MIT commands.** Of the five values only the torque can be off. -/
lemma mitWithin_iff {motor : MotorState} (hlim : motor.limits = DEFAULT_LIMITS)
    (hen : motor.status = .ENABLED) (p : MITParam) :
    MitWithin (MOTOR_LIMIT_PARAMS .DM8009) p
        (handleMitControl motor (Motor.setMitControl .DM8009 p)) ↔
      (-22 / 455 ≤ p.tau ∧ p.tau ≤ 14 / 455) ∨ p.tau = 18 / 455 := by
  have hdec := handleMitControl_pack hen (mitCodes_inRange .DM8009 p)
  simp only [hlim, uint_to_double_eq] at hdec
  rw [← within_wide_iff, Motor.setMitControl, hdec]
  constructor
  · exact fun h => h.tau
  · intro h
    refine ⟨⟨_, rfl, ?_⟩, ⟨_, rfl, ?_⟩, ?_, ?_, h⟩
    · exact within_same (MOTOR_LIMIT_PARAMS .DM8009).pMax_pos (by norm_num) (by norm_num) p.q
    · exact within_same (MOTOR_LIMIT_PARAMS .DM8009).vMax_pos (by norm_num) (by norm_num) p.dq
    · exact abs_uintToDouble_doubleToUint_le (by norm_num) (by norm_num) (by norm_num) p.kp
    · exact abs_uintToDouble_doubleToUint_le (by norm_num) (by norm_num) (by norm_num) p.kd

/-- **Feedback.** Of the three values only the torque can be off. -/
lemma feedbackWithin_iff {motor : MotorState} (hlim : motor.limits = DEFAULT_LIMITS)
    (hin : WithinLimits motor) :
    FeedbackWithin motor (feedbackResult .DM8009 motor) ↔
      motor.torque = -2 / 455 ∨ (2 / 455 ≤ motor.torque ∧ motor.torque < 6 / 455) := by
  have htorque := abs_le.mp hin.torque
  rw [hlim] at htorque
  rw [← within_narrow_iff htorque.1 htorque.2]
  have hp : posCode motor = doubleToUint motor.position (-(25 / 2)) (25 / 2) 16 := by
    rw [posCode, hlim, double_to_uint_eq]
    rfl
  have hv : velCode motor = doubleToUint motor.velocity (-45) 45 12 := by
    rw [velCode, hlim, double_to_uint_eq]
    rfl
  have ht : tauCode motor = doubleToUint motor.torque (-18) 18 12 := by
    rw [tauCode, hlim, double_to_uint_eq]
    rfl
  rw [← ht]
  constructor
  · intro h
    have := h.torque
    rwa [hlim] at this
  · intro h
    refine ⟨?_, ?_, ?_⟩
    · rw [hlim]
      have := within_same (show (0 : ℚ) < 25 / 2 by norm_num) (by norm_num : 0 < 16) le_rfl
        motor.position
      rwa [← hp] at this
    · rw [hlim]
      have := within_same (show (0 : ℚ) < 45 by norm_num) (by norm_num : 0 < 12) (by norm_num)
        motor.velocity
      rwa [← hv] at this
    · rw [hlim]
      exact h

/-- **Quantities through the frames.** A MIT command reaches a simulated motor within a quantum
exactly for torques around zero, and so does its feedback; positions, velocities and gains
always do. -/
theorem within_quantum_iff (motor : MotorState) (hlim : motor.limits = DEFAULT_LIMITS)
    (hin : WithinLimits motor) (p : MITParam) (m : Motor) (hm : m.motorType = .DM8009) :
    (motor.status = .ENABLED →
      (MitWithin (MOTOR_LIMIT_PARAMS m.motorType) p
          (handleMitControl motor (Motor.setMitControl m.motorType p)) ↔
        (-22 / 455 ≤ p.tau ∧ p.tau ≤ 14 / 455) ∨ p.tau = 18 / 455)) ∧
    ∃ r, m.parseMotorStateData (buildFeedbackFrame motor).data.toList = some r ∧
      (FeedbackWithin motor r ↔
        motor.torque = -2 / 455 ∨ (2 / 455 ≤ motor.torque ∧ motor.torque < 6 / 455)) := by
  rw [hm]
  refine ⟨fun hen => mitWithin_iff hlim hen p, _, parseMotorStateData_codes m motor, ?_⟩
  rw [hm, ← feedbackWithin_iff hlim hin]
  exact ⟨fun h => ⟨h.position, h.velocity, h.torque⟩, fun h => ⟨h.position, h.velocity, h.torque⟩⟩

def enabledMotor : MotorState := { MotorState.ofId 1 with status := .ENABLED }

/-- An enabled motor on its way, with hardly any torque. -/
def movingMotor : MotorState :=
  { enabledMotor with position := 1, velocity := -2, torque := 1 / 100 }

theorem within_quantum_moving :
    MitWithin (MOTOR_LIMIT_PARAMS .DM8009) ⟨20, 1, 3 / 2, -2, 1 / 50⟩
      (handleMitControl movingMotor (Motor.setMitControl .DM8009 ⟨20, 1, 3 / 2, -2, 1 / 50⟩)) ∧
    ∃ r, Motor.parseMotorStateData { deviceId := 1 } (buildFeedbackFrame movingMotor).data.toList
      = some r ∧ FeedbackWithin movingMotor r := by
  have hin : WithinLimits movingMotor := by
    refine ⟨?_, ?_, ?_⟩ <;> norm_num [movingMotor, enabledMotor, MotorState.ofId,
      MotorState.initDefaults, DEFAULT_LIMITS]
  obtain ⟨hmit, r, hr, hfeedback⟩ :=
    within_quantum_iff movingMotor rfl hin ⟨20, 1, 3 / 2, -2, 1 / 50⟩ { deviceId := 1 } rfl
  refine ⟨(hmit rfl).mpr (Or.inl ?_), r, hr, hfeedback.mpr (Or.inr ?_)⟩
  · norm_num
  · norm_num [movingMotor]

/-- A motor that pushes with half of what it can. -/
def halfTorque : MotorState := { MotorState.ofId 1 with torque := 9 }

lemma withinLimits_halfTorque : WithinLimits halfTorque := by
  refine ⟨?_, ?_, ?_⟩ <;> norm_num [halfTorque, MotorState.ofId, MotorState.initDefaults,
    DEFAULT_LIMITS]

/-- A commanded torque of 27 Nm, and a torque of 9 Nm fed back. -/
theorem torque_off :
    ¬ MitWithin (MOTOR_LIMIT_PARAMS .DM8009) ⟨0, 0, 0, 0, 27⟩
      (handleMitControl enabledMotor (Motor.setMitControl .DM8009 ⟨0, 0, 0, 0, 27⟩)) ∧
    ∃ r, Motor.parseMotorStateData { deviceId := 1 } (buildFeedbackFrame halfTorque).data.toList
      = some r ∧ ¬ FeedbackWithin halfTorque r := by
  refine ⟨?_, _, parseMotorStateData_codes _ _, fun h => ?_⟩
  · rw [mitWithin_iff rfl rfl]
    norm_num
  · have hf : FeedbackWithin halfTorque (feedbackResult .DM8009 halfTorque) :=
      ⟨h.position, h.velocity, h.torque⟩
    rw [feedbackWithin_iff rfl withinLimits_halfTorque] at hf
    have ht : halfTorque.torque = 9 := rfl
    rw [ht] at hf
    norm_num at hf

end Kuavo.Scaling
