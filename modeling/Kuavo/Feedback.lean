import Kuavo.DamiaoSimulator
import Kuavo.UdpServer

/-!
A feedback frame from the simulator to the state of the motor that receives it.

Feedback and parameter responses share one callback, which tells them apart by the third
data byte alone. In feedback that byte is the low byte of the position code.
-/

namespace Kuavo.Feedback

open Kuavo.Lib Kuavo.Lib.Bits Kuavo.Utility Kuavo.DamiaoSimulator

/-! ### The frame -/

def posCode (sim : MotorState) : ℕ :=
  double_to_uint sim.position (-sim.limits.pMax) sim.limits.pMax 16

def velCode (sim : MotorState) : ℕ :=
  double_to_uint sim.velocity (-sim.limits.vMax) sim.limits.vMax 12

def tauCode (sim : MotorState) : ℕ :=
  double_to_uint sim.torque (-sim.limits.tMax) sim.limits.tMax 12

lemma posCode_lt (sim : MotorState) : posCode sim < 65536 := by
  have h := sim.limits.pMax_pos
  exact doubleToUint_lt (by linarith) 16 (by norm_num) _

lemma velCode_lt (sim : MotorState) : velCode sim < 4096 := by
  have h := sim.limits.vMax_pos
  exact doubleToUint_lt (by linarith) 12 (by norm_num) _

lemma tauCode_lt (sim : MotorState) : tauCode sim < 4096 := by
  have h := sim.limits.tMax_pos
  exact doubleToUint_lt (by linarith) 12 (by norm_num) _

/-- What a receiver of type `t` reads from the feedback: the status and the temperatures as
sent, and the three codes decoded in its own ranges. -/
def feedbackResult (t : MotorType) (sim : MotorState) : StateResult :=
  let limits := MOTOR_LIMIT_PARAMS t
  { state := sim.status.code
    position := uintToDouble (posCode sim) (-limits.pMax) limits.pMax 16
    velocity := uintToDouble (velCode sim) (-limits.vMax) limits.vMax 12
    torque := uintToDouble (tauCode sim) (-limits.tMax) limits.tMax 12
    t_mos := (tempByte sim.mosFetTemp).toNat
    t_rotor := (tempByte sim.rotorTemp).toNat }

/-- The parser of the motor side reads the three codes of the frame back, whatever the id. -/
lemma parseMotorStateData_codes (m : Motor) (sim : MotorState) :
    m.parseMotorStateData (buildFeedbackFrame sim).data.toList =
      some { feedbackResult m.motorType sim with
        state := (byte ((sim.canId &&& 0xFF) ||| sim.status.code <<< 4)).toNat >>> 4 &&& 0xF } := by
  have hp := posCode_lt sim
  have hv := velCode_lt sim
  have ht := tauCode_lt sim
  have hvel : byte (velCode sim >>> 4 &&& 0xFF) = byte (velCode sim >>> 4) := by
    rw [byte_eq_iff, byte_toNat, and_0xFF, Nat.mod_mod]
  have hq := unpack_16 hp
  have hdq := unpack_12_first hv (tauCode sim)
  have htau := unpack_12_second (velCode sim) ht
  rw [← hvel] at hdq
  unfold Motor.parseMotorStateData feedbackResult
  change some _ = some _
  refine congrArg some ?_
  refine StateResult.mk.injEq .. |>.mpr ⟨rfl, ?_, ?_, ?_, rfl, rfl⟩
  · exact congrArg (uintToDouble · _ _ 16) hq
  · exact congrArg (uintToDouble · _ _ 12) hdq
  · exact congrArg (uintToDouble · _ _ 12) htau

/-- **Round trip.** The parser of the motor side reads the codes and the status back. -/
theorem parseMotorStateData_feedback (m : Motor) (sim : MotorState) (hid : sim.canId < 16) :
    m.parseMotorStateData (buildFeedbackFrame sim).data.toList =
      some (feedbackResult m.motorType sim) := by
  have hs := sim.status.code_lt
  have h0 : (byte ((sim.canId &&& 0xFF) ||| sim.status.code <<< 4)).toNat >>> 4 &&& 0xF
      = sim.status.code := by
    rw [and_0xFF, Nat.or_comm, shiftLeft_4_or (by omega), byte_toNat, shiftRight_4, and_0xF]
    omega
  rw [parseMotorStateData_codes, h0]
  rfl

/-- The third byte is the low byte of the position code. -/
lemma feedback_b2 (sim : MotorState) (b : UInt8) :
    (buildFeedbackFrame sim).data.b2 = b ↔ posCode sim % 256 = b.toNat := by
  change byte (posCode sim &&& 0xFF) = b ↔ _
  rw [byte_eq_iff, and_0xFF, Nat.mod_mod]

/-- The positions whose feedback looks like a parameter response. -/
def LooksLikeParam (sim : MotorState) : Prop :=
  posCode sim % 256 = 0x33 ∨ posCode sim % 256 = 0x55

lemma parseMotorParamData_feedback (sim : MotorState) :
    Motor.parseMotorParamData (buildFeedbackFrame sim).data.toList = none ↔
      ¬ LooksLikeParam sim := by
  have h33 : (buildFeedbackFrame sim).data.b2 = 0x33 ↔ posCode sim % 256 = 0x33 :=
    feedback_b2 sim 0x33
  have h55 : (buildFeedbackFrame sim).data.b2 = 0x55 ↔ posCode sim % 256 = 0x55 :=
    feedback_b2 sim 0x55
  unfold Motor.parseMotorParamData LooksLikeParam DataFrame.toList
  rw [← h33, ← h55]
  simp only
  split_ifs with h <;> simp [h]

/-- The identifier on the wire is the motor's master id. -/
lemma feedback_frameId (sim : MotorState) (h : sim.masterId < 256) :
    bswap32 (buildFeedbackFrame sim).FrameId = sim.masterId := by
  rw [CANFrame.bswap32_frameId]
  change be32 (byte (sim.masterId >>> 24 &&& 0xFF)) (byte (sim.masterId >>> 16 &&& 0xFF))
    (byte (sim.masterId >>> 8 &&& 0xFF)) (byte (sim.masterId &&& 0xFF)) = _
  simp only [be32, byte_toNat, and_0xFF, Nat.shiftRight_eq_div_pow]
  omega

/-! ### The delivery -/

/-- The motor `m'` is `m` with the state `r` stored and the same parameter dictionary. -/
structure Stored (m m' : Motor) (r : StateResult) : Prop where
  status : m'.status = r.state
  stateQ : m'.stateQ = r.position
  stateDq : m'.stateDq = r.velocity
  stateTau : m'.stateTau = r.torque
  stateTmos : m'.stateTmos = r.t_mos
  stateTrotor : m'.stateTrotor = r.t_rotor
  paramDict : m'.paramDict = m.paramDict

lemma stored_updateState (m : Motor) (r : StateResult) (now : UInt64) :
    Stored m (m.updateState r now) r := ⟨rfl, rfl, rfl, rfl, rfl, rfl, rfl⟩

/-- The motor stores what the feedback says and nothing else changes: the frame is not taken
for a parameter response. -/
structure Delivered (undef : Binary32.Value → ℤ) (s : UdpServer) (cache : MotorParamCache)
    (m : Motor) (sim : MotorState) (now : UInt64) : Prop where
  stored : ∃ m', (s.dispatchMessage undef cache (buildFeedbackFrame sim) now).1.m_subscribers
    sim.canId = some m' ∧ Stored m m' (feedbackResult m.motorType sim)
  cache_eq : (s.dispatchMessage undef cache (buildFeedbackFrame sim) now).2 = cache
  not_param : Motor.parseMotorParamData (buildFeedbackFrame sim).data.toList = none

/-- **Feedback is delivered** unless its position code ends in the byte of a parameter
command. -/
theorem delivered_iff (undef : Binary32.Value → ℤ) (s : UdpServer) (cache : MotorParamCache)
    (m : Motor) (sim : MotorState) (now : UInt64) (hid : 1 ≤ sim.canId ∧ sim.canId ≤ 12)
    (hmaster : sim.masterId = sim.canId + 0x10) (hsub : s.m_subscribers sim.canId = some m)
    (hpend : s.m_frameIds (sim.canId + 0x10 : ℕ) = none) :
    Delivered undef s cache m sim now ↔ ¬ LooksLikeParam sim := by
  have hframe : bswap32 (buildFeedbackFrame sim).FrameId = sim.canId + 0x10 := by
    rw [feedback_frameId sim (by omega), hmaster]
  have hdisp := UdpServer.dispatchMessage_feedback undef hid.2 hsub hpend cache hframe now
  refine ⟨fun h => (parseMotorParamData_feedback sim).mp h.not_param, fun h => ?_⟩
  have hparam := (parseMotorParamData_feedback sim).mpr h
  have hcall : m.callback undef cache (buildFeedbackFrame sim).data.toList now =
      (m.updateState (feedbackResult m.motorType sim) now, cache) := by
    unfold Motor.callback
    simp only [hparam, parseMotorStateData_feedback m sim (by omega)]
  refine ⟨⟨_, ?_, stored_updateState m _ now⟩, ?_, hparam⟩
  · rw [hdisp]
    unfold UdpServer.deliver
    rw [hcall]
    exact Function.update_self _ _ _
  · rw [hdisp]
    unfold UdpServer.deliver
    rw [hcall]

/-- A receiver on which motor 1 is subscribed. -/
def oneMotor : UdpServer where
  m_subscribers := fun i => if i = 1 then some { deviceId := 1 } else none

def emptyCache : MotorParamCache := ⟨fun _ => .fin 0, fun _ => .fin 0, fun _ => .fin 0⟩

/-- An enabled motor whose position code is `0x8033`. -/
def aliasing : MotorState :=
  { MotorState.ofId 1 with status := .ENABLED, position := 197 / 10000 }

theorem delivered_at_rest :
    Delivered (fun _ => 0) oneMotor emptyCache { deviceId := 1 } (.ofId 1) 0 := by
  refine (delivered_iff (fun _ => 0) oneMotor emptyCache { deviceId := 1 } (.ofId 1) 0
    ⟨by decide, by decide⟩ rfl rfl rfl).mpr ?_
  unfold LooksLikeParam
  decide +kernel

/-- That motor's feedback is taken for register 127: the status stays what it was, and the
dictionary gets an entry. -/
theorem feedback_taken_for_param :
    ¬ Delivered (fun _ => 0) oneMotor emptyCache { deviceId := 1 } aliasing 0 ∧
    ((oneMotor.dispatchMessage (fun _ => 0) emptyCache
      (buildFeedbackFrame aliasing) 0).1.m_subscribers 1).map (fun m => (m.status, m.paramDict 127))
      = some (0, some 0) := by
  refine ⟨fun h => ?_, by decide +kernel⟩
  have hparam : Motor.parseMotorParamData (buildFeedbackFrame aliasing).data.toList ≠ none := by
    rw [Ne, parseMotorParamData_feedback]
    unfold LooksLikeParam
    decide +kernel
  exact hparam h.not_param

end Kuavo.Feedback
