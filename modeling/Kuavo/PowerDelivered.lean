import Kuavo.LegRun
import Kuavo.MotorCommands
import Kuavo.SimulatedMotors

/-!
From the commands of a leg to the power of its motors.

The frames of a leg's commands reach the simulator in the order in which they were sent. The
status of each motor is then what the last command that switched it says, so that the abstract
machine of `Kuavo.LegPower` speaks of the motors themselves.
-/

namespace Kuavo.PowerDelivered

open Kuavo.Lib Kuavo.Lib.Bits Kuavo.Lib.LastSent Kuavo.Lib.Runs Kuavo.DamiaoSimulator
open Kuavo.MitFrame Kuavo.MotorCommands

/-- A command on its way: the device, the command, and what the union holds besides. -/
structure Sending where
  deviceId : ℕ
  cmd : MotorCmd
  rest : Fin 4 → UInt8

namespace Sending

def addressed (s : Sending) : ℕ × MotorCmd := (s.deviceId, s.cmd)

def datagram (t : MotorType) (s : Sending) : Datagram :=
  ⟨MotorCommands.frame t s.deviceId s.cmd s.rest, CAN_FRAME_SIZE⟩

end Sending

variable (undef : Binary32.Value → ℕ) (t : MotorType)

/-- The simulator takes the frame of a command. -/
def deliver (motors : List MotorState) (s : Sending) : List MotorState :=
  serve undef motors (s.datagram t)

/-- Whether the motor under an id is enabled. -/
def enabled? (motors : List MotorState) (id : ℕ) : Option Bool :=
  (motor? motors id).map fun m => decide (m.status = .ENABLED)

/-- The commands of a leg, as far as the simulator takes them for what they are. -/
def Plain : MotorCmd → Prop
  | .enableMotor | .disableMotor | .setZeroCommand | .getMotorStatus | .getRegParam _ => True
  | .setMitControl p => ¬ (Saturated t p ∧ torqueOfCode t 3840 ≤ p.tau)
  | .clearMotorError | .setPosvelControl _ | .writeRegParam _ _ | .saveRegParam _ => False

/-! ### One command -/

/-- What switches a motor is a command that enables it, disables it or clears its errors. -/
lemma status_execute (m : MotorState) (data : DataFrame) {type : CommandType}
    (h : type ≠ .ENABLE ∧ type ≠ .DISABLE ∧ type ≠ .CLEAR_ERROR) :
    (execute undef m data type).1.status = m.status := by
  have hcontrol : ∀ {type : CommandType}, type = .MIT_CONTROL ∨ type = .POSVEL_CONTROL ∨
      type = .VELOCITY_CONTROL ∨ type = .POSFORCE_CONTROL →
      (execute undef m data type).1.status = m.status := by
    intro type htype
    rcases control_cases undef m data htype with ⟨-, hsame⟩ | ⟨-, _, _, _, _, _, hmoved⟩
    · rw [hsame]
    · rw [hmoved]
      rfl
  cases type with
  | ENABLE => exact absurd rfl h.1
  | DISABLE => exact absurd rfl h.2.1
  | CLEAR_ERROR => exact absurd rfl h.2.2
  | MIT_CONTROL => exact hcontrol (Or.inl rfl)
  | POSVEL_CONTROL => exact hcontrol (Or.inr (Or.inl rfl))
  | VELOCITY_CONTROL => exact hcontrol (Or.inr (Or.inr (Or.inl rfl)))
  | POSFORCE_CONTROL => exact hcontrol (Or.inr (Or.inr (Or.inr rfl)))
  | SAVE_ZERO | QUERY_PARAM | WRITE_PARAM | REFRESH | UNKNOWN => rfl

/-- A frame that no motor has to execute specially is a MIT command. -/
lemma identifyCommand_mit {motors : List MotorState} {id : ℕ} (hid : id < 64)
    (h : ∃ m ∈ motors, m.canId = id) {d : DataFrame} (hd : isSpecial d = false) :
    ∃ m, m.canId = id ∧
      identifyCommand motors (writtenFrame (HAL_InitializeCAN .Dm id) 0 d) CAN_FRAME_SIZE =
        { type := .MIT_CONTROL, motor := some m, canId := id } := by
  obtain ⟨m, hm, hmid⟩ := findMotorByCanId_of_mem (by omega) h
  have hcan := extract_can_id_modify (show id < 2 ^ 32 by omega) d
  have h7 : id ≠ 0x7FF := by omega
  refine ⟨m, hmid, ?_⟩
  unfold identifyCommand writtenFrame
  rw [forwardCANId_own hid]
  simp [hcan, hm, hd, h7, modeType, hmid]

lemma exists_mem_of_motor? {motors : List MotorState} {id : ℕ} (h : motor? motors id ≠ none) :
    ∃ m ∈ motors, m.canId = id := by
  obtain ⟨m, hm⟩ := Option.ne_none_iff_exists'.mp h
  exact ⟨m, mem_of_motor? hm, canId_of_motor? hm⟩

/-- The simulator takes the frame of a command for that command, to the same motor. -/
lemma identify_plain {motors : List MotorState} {s : Sending}
    (hid : 1 ≤ s.deviceId ∧ s.deviceId ≤ 12) (hreg : motor? motors s.deviceId ≠ none)
    (hplain : Plain t s.cmd) :
    ∃ m type canId, m.canId = s.deviceId ∧ matching s.cmd = some type ∧
      identifyCommand motors (MotorCommands.frame t s.deviceId s.cmd s.rest) CAN_FRAME_SIZE =
        { type := type, motor := some m, canId := canId } := by
  have hmem := exists_mem_of_motor? hreg
  have h64 : s.deviceId < 64 := by omega
  obtain ⟨deviceId, cmd, rest⟩ := s
  simp only at hid hmem h64
  cases cmd with
  | enableMotor =>
    obtain ⟨m, hmid, hident⟩ := identifyCommand_special h64 hmem 0xfc
    exact ⟨m, .ENABLE, deviceId, hmid, rfl, hident⟩
  | disableMotor =>
    obtain ⟨m, hmid, hident⟩ := identifyCommand_special h64 hmem 0xfd
    exact ⟨m, .DISABLE, deviceId, hmid, rfl, hident⟩
  | setZeroCommand =>
    obtain ⟨m, hmid, hident⟩ := identifyCommand_special h64 hmem 0xfe
    exact ⟨m, .SAVE_ZERO, deviceId, hmid, rfl, hident⟩
  | getMotorStatus =>
    obtain ⟨m, hmid, hident⟩ := identifyCommand_broadcast hid hmem (Or.inl rfl)
      (d := MotorCmd.getMotorStatus.data t deviceId rest) rfl rfl
    exact ⟨m, .REFRESH, 0x7FF, hmid, rfl, hident⟩
  | getRegParam RID =>
    obtain ⟨m, hmid, hident⟩ := identifyCommand_broadcast hid hmem (Or.inr (Or.inl rfl))
      (d := (MotorCmd.getRegParam RID).data t deviceId rest) rfl rfl
    exact ⟨m, .QUERY_PARAM, 0x7FF, hmid, rfl, hident⟩
  | setMitControl p =>
    have hmit : isSpecial (Motor.setMitControl t p) = false := by
      rw [← Bool.not_eq_true]
      refine fun h => hplain ?_
      rw [← topCodes_iff, ← le_tau_uint_iff t p (by norm_num) (by norm_num)]
      exact (isSpecial_pack_iff (mitCodes_inRange t p)).mp h
    obtain ⟨m, hmid, hident⟩ := identifyCommand_mit h64 hmem hmit
    exact ⟨m, .MIT_CONTROL, deviceId, hmid, rfl, hident⟩
  | clearMotorError | setPosvelControl _ | writeRegParam _ _ | saveRegParam _ =>
    exact hplain.elim

/-- **One command** is executed by the motor it is for, and no other motor changes. -/
lemma motor?_deliver {motors : List MotorState} {s : Sending}
    (hid : 1 ≤ s.deviceId ∧ s.deviceId ≤ 12) (hreg : motor? motors s.deviceId ≠ none)
    (hplain : Plain t s.cmd) :
    ∃ type, matching s.cmd = some type ∧ ∀ k, motor? (deliver undef t motors s) k =
      if s.deviceId = k then
        (motor? motors k).map fun m => (execute undef m (s.datagram t).msg.data type).1
      else motor? motors k := by
  obtain ⟨m, type, canId, hmid, htype, hident⟩ := identify_plain t hid hreg hplain
  have hm : motor? motors m.canId = some m := motor?_of_identify (by rw [hident])
  refine ⟨type, htype, fun k => ?_⟩
  unfold deliver serve Sending.datagram
  rw [handleCommand_of_identify undef hident, motor?_store, canId_execute, hmid]
  split_ifs with hk
  · subst hk
    rw [← hmid, hm]
    simp
  · rfl

/-- A command switches the motor it is for as it says. -/
lemma status_of_matching (m : MotorState) (data : DataFrame) {cmd : MotorCmd} {type : CommandType}
    (hplain : Plain t cmd) (htype : matching cmd = some type) :
    some (decide ((execute undef m data type).1.status = .ENABLED)) =
      cmd.power.or (some (decide (m.status = .ENABLED))) := by
  cases cmd with
  | enableMotor | disableMotor =>
    obtain rfl := Option.some.inj htype
    rfl
  | setZeroCommand | setMitControl _ | getMotorStatus | getRegParam _ =>
    obtain rfl := Option.some.inj htype
    rw [status_execute undef m data ⟨by decide, by decide, by decide⟩]
    rfl
  | clearMotorError | setPosvelControl _ | writeRegParam _ _ | saveRegParam _ =>
    exact hplain.elim

/-- **One command** switches the motor it is for as it says, and no other. -/
lemma enabled?_deliver {motors : List MotorState} {s : Sending}
    (hid : 1 ≤ s.deviceId ∧ s.deviceId ≤ 12) (hreg : motor? motors s.deviceId ≠ none)
    (hplain : Plain t s.cmd) (k : ℕ) :
    enabled? (deliver undef t motors s) k =
      if s.deviceId = k then s.cmd.power.or (enabled? motors k) else enabled? motors k := by
  obtain ⟨type, htype, hdeliver⟩ := motor?_deliver undef t hid hreg hplain
  unfold enabled?
  rw [hdeliver k]
  split_ifs with hk
  · obtain ⟨m, hm⟩ := Option.ne_none_iff_exists'.mp (hk ▸ hreg)
    rw [hm]
    exact status_of_matching undef t m _ hplain htype
  · rfl

/-! ### All commands, in order -/

/-- A command that the simulator takes for what it is, for a motor that is there. -/
structure Deliverable (motors : List MotorState) (s : Sending) : Prop where
  id : 1 ≤ s.deviceId ∧ s.deviceId ≤ 12
  registered : motor? motors s.deviceId ≠ none
  plain : Plain t s.cmd

lemma registered_deliver (motors : List MotorState) (s : Sending) (k : ℕ) :
    motor? (deliver undef t motors s) k ≠ none ↔ motor? motors k ≠ none := by
  rcases motor?_serve undef motors (s.datagram t) k with hsame | ⟨m, hm, -, hexec⟩
  · unfold deliver
    rw [hsame]
  · unfold deliver
    simp [hm, hexec]

lemma registered_run (motors : List MotorState) (l : List Sending) (k : ℕ) :
    motor? (run (deliver undef t) motors l) k ≠ none ↔ motor? motors k ≠ none := by
  induction l using List.reverseRecOn with
  | nil => exact Iff.rfl
  | append_singleton l s ih =>
    rw [run_concat, registered_deliver]
    exact ih

/-- **All commands in order** leave each motor as the last one that switched it says. -/
theorem enabled?_run {motors : List MotorState} {l : List Sending}
    (hl : ∀ s ∈ l, Deliverable t motors s) (k : ℕ) :
    enabled? (run (deliver undef t) motors l) k =
      (last MotorCmd.power (l.map Sending.addressed) k).or (enabled? motors k) := by
  induction l using List.reverseRecOn with
  | nil => rfl
  | append_singleton l s ih =>
    have hs := hl s (by simp)
    have hreg := (registered_run undef t motors l s.deviceId).mpr hs.registered
    have hone : last MotorCmd.power [s.addressed] k =
        if s.deviceId = k then s.cmd.power else none := rfl
    rw [run_concat, enabled?_deliver undef t hs.id hreg hs.plain, List.map_append, List.map_cons,
      List.map_nil, last_append, hone, Option.or_assoc, ih fun s hs => hl s (by simp [hs])]
    split_ifs <;> rfl

/-! ### The commands of a leg -/

lemma motor?_construct {motorIds : List ℕ} {k : ℕ} (h : k ∈ motorIds) :
    motor? (construct motorIds) k = some (.ofId k) := by
  unfold motor? construct
  induction motorIds with
  | nil => simp at h
  | cons id motorIds ih =>
    have hown : (MotorState.ofId id).canId = id := rfl
    rw [List.map_cons, List.find?_cons, hown]
    by_cases hk : id = k
    · simp [hk]
    · have hmem : k ∈ motorIds := (List.mem_cons.mp h).resolve_left (Ne.symm hk)
      simpa [hk] using ih hmem

/-- What a leg sends to one of its motors. -/
def Sent (ids : List ℕ) (e : ℕ × MotorCmd) : Prop :=
  e.1 ∈ ids ∧ (e.2 = .enableMotor ∨ e.2 = .disableMotor ∨ (∃ RID, e.2 = .getRegParam RID) ∨
    e.2.isMit = true)

lemma sent_toAll {ids : List ℕ} {c : MotorCmd} (hc : c = .enableMotor ∨ c = .disableMotor)
    {e : ℕ × MotorCmd} (he : e ∈ toAll ids c) : Sent ids e := by
  obtain ⟨hid, rfl⟩ := mem_toAll.mp he
  exact ⟨hid, hc.imp_right Or.inl⟩

lemma sent_setEnable (l : Legged) (b : Bool) : ∀ e ∈ (l.setEnable b).2, Sent l.ids e := by
  intro e he
  cases b with
  | true =>
    rw [(Legged.setEnable_true l).2.2.2] at he
    split_ifs at he
    · simp at he
    · exact sent_toAll (Or.inl rfl) he
  | false =>
    rw [(Legged.setEnable_false l).2.2.2] at he
    split_ifs at he
    · exact sent_toAll (Or.inr rfl) he
    · simp at he

lemma sent_mitFrames (l : Legged) (c : Cycle) : ∀ e ∈ l.mitFrames c, Sent l.ids e := by
  intro e he
  refine ⟨?_, Or.inr (Or.inr (Or.inr (Legged.mitFrames_isMit he)))⟩
  unfold Legged.mitFrames at he
  split_ifs at he
  · cases hcmd : c.shm.currentCommand? with
    | none => simp [hcmd] at he
    | some cmd =>
      simp only [hcmd] at he
      split_ifs at he
      · simp at he
      · obtain ⟨⟨id, mit⟩, hmit, rfl⟩ := List.mem_map.mp he
        obtain ⟨⟨id', i⟩, hzip, hsome⟩ := List.mem_filterMap.mp hmit
        have hid : id' = id := by
          simp only at hsome
          split_ifs at hsome
          · exact (Prod.mk.inj (Option.some.inj hsome)).1
        rw [← hid]
        exact List.fst_mem_of_mem_zipIdx hzip
  · simp at he

lemma sent_getRegParam (l : Legged) (i RID : ℕ) :
    ∀ e ∈ (LegRun.getRegParam l i RID).2, Sent l.ids e := by
  intro e he
  unfold LegRun.getRegParam at he
  cases hid : l.ids[i]? with
  | none => simp [hid] at he
  | some id =>
    obtain rfl : e = (id, .getRegParam RID) := by simpa [hid] using he
    exact ⟨List.mem_of_getElem? hid, Or.inr (Or.inr (Or.inl ⟨_, rfl⟩))⟩

lemma sent_robotPeriodic (l : Legged) : ∀ e ∈ l.robotPeriodic.2, Sent l.ids e := by
  intro e he
  unfold Legged.robotPeriodic at he
  dsimp only at he
  split_ifs at he
  · cases hid : l.ids[l.m_paramQueryCycle / 10 % l.motors.length]? with
    | none => simp [hid] at he
    | some id =>
      obtain rfl : e = (id, .getRegParam 21) := by simpa [hid] using he
      exact ⟨List.mem_of_getElem? hid, Or.inr (Or.inr (Or.inl ⟨_, rfl⟩))⟩
  · simp at he

/-- A leg sends to its own motors, and switches, queries or drives them. -/
lemma sent_apply (l : Legged) (op : LegRun.LegOp) : ∀ e ∈ (LegRun.apply l op).2, Sent l.ids e := by
  cases op with
  | onMessage message =>
    change ∀ e ∈ (l.onMessage message).2, Sent l.ids e
    unfold Legged.onMessage
    split_ifs
    · exact sent_setEnable l true
    · exact sent_setEnable l false
    · exact sent_setEnable l false
    · simp
  | setEnable b => exact sent_setEnable l b
  | autonomousInit | teleopInit => exact sent_setEnable l true
  | robotPeriodic => exact sent_robotPeriodic l
  | controllerPeriodic c =>
    cases hr : l.faultReason c with
    | none =>
      have hframes := (Legged.controllerPeriodic_no_fault hr).2.2
      intro e he
      exact sent_mitFrames l c e (hframes ▸ he)
    | some reason =>
      have hframes := (Legged.controllerPeriodic_fault hr).2.2
      intro e he
      replace he : e ∈ (l.controllerPeriodic c).1.2 := he
      rw [hframes] at he
      split_ifs at he
      · simp at he
      · exact sent_toAll (Or.inr rfl) he
  | getRegParam i RID => exact sent_getRegParam l i RID
  | disabledInit | setShmPointers _ _ | feedback _ _ _ => rintro e ⟨⟩

lemma sent_run (baseId motorsPerLeg : ℕ) (l : List LegRun.LegOp) :
    ∀ e ∈ (run LegRun.step (LegRun.start baseId motorsPerLeg) l).sent,
      Sent (List.range' baseId motorsPerLeg) e := by
  have hids : (LegRun.start baseId motorsPerLeg).leg.ids = List.range' baseId motorsPerLeg := by
    simp [LegRun.start, Legged.construct, Legged.ids, Function.comp_def]
  induction l using List.reverseRecOn with
  | nil =>
    intro e he
    rw [← hids]
    exact sent_toAll (Or.inl rfl) he
  | append_singleton l op ih =>
    intro e he
    rw [run_concat] at he
    rcases List.mem_append.mp he with hold | hnew
    · exact ih e hold
    · rw [← hids, ← LegRun.run_ids _ l]
      exact sent_apply _ op e hnew

/-- The simulator takes all that a leg sends for what it is, unless a MIT command of it is so
extreme that seven bytes of its frame are `0xff`. -/
lemma deliverable_of_sent (motorIds : List ℕ) {baseId motorsPerLeg : ℕ}
    (hids : ∀ k ∈ List.range' baseId motorsPerLeg, 1 ≤ k ∧ k ≤ 12 ∧ k ∈ motorIds)
    {l : List LegRun.LegOp}
    (hmit : ∀ k p, (k, .setMitControl p) ∈
      (run LegRun.step (LegRun.start baseId motorsPerLeg) l).sent →
      ¬ (Saturated .DM8009 p ∧ torqueOfCode .DM8009 3840 ≤ p.tau))
    {w : List Sending}
    (hw : w.map Sending.addressed =
      (run LegRun.step (LegRun.start baseId motorsPerLeg) l).sent) :
    ∀ s ∈ w, Deliverable .DM8009 (construct motorIds) s := by
  intro s hs
  have hmem : s.addressed ∈ (run LegRun.step (LegRun.start baseId motorsPerLeg) l).sent := by
    rw [← hw]
    exact List.mem_map_of_mem hs
  obtain ⟨hid, hcmd⟩ := sent_run baseId motorsPerLeg l _ hmem
  obtain ⟨h1, h12, hreg⟩ := hids s.deviceId hid
  refine ⟨⟨h1, h12⟩, ?_, ?_⟩
  · rw [motor?_construct hreg]
    exact Option.some_ne_none _
  · obtain ⟨deviceId, cmd, rest⟩ := s
    rcases hcmd with rfl | rfl | ⟨RID, rfl⟩ | hm
    · trivial
    · trivial
    · trivial
    · cases cmd with
      | setMitControl mit => exact hmit deviceId mit hmem
      | _ => exact absurd hm (by simp [Sending.addressed, MotorCmd.isMit])

/-- **From the leg to its motors.** In every history of a leg, once the frames of its commands
have reached the simulator in order, a motor is enabled exactly if the abstract machine has the
power on. So they all are enabled while the leg is enabled and no fault is latched, and none is
while a fault is. No MIT command of the history may be so extreme that seven bytes of its frame
are `0xff`. -/
theorem motors_follow_leg (motorIds : List ℕ) (baseId motorsPerLeg : ℕ)
    (hids : ∀ k ∈ List.range' baseId motorsPerLeg, 1 ≤ k ∧ k ≤ 12 ∧ k ∈ motorIds)
    (l : List LegRun.LegOp)
    (hmit : ∀ k p, (k, .setMitControl p) ∈
      (run LegRun.step (LegRun.start baseId motorsPerLeg) l).sent →
      ¬ (Saturated .DM8009 p ∧ torqueOfCode .DM8009 3840 ≤ p.tau))
    (w : List Sending)
    (hw : w.map Sending.addressed =
      (run LegRun.step (LegRun.start baseId motorsPerLeg) l).sent) :
    let st := run LegRun.step (LegRun.start baseId motorsPerLeg) l
    let motors := run (deliver undef .DM8009) (construct motorIds) w
    ∃ p, Reachable LegPower.step LegPower.init p ∧ LegRun.Refines st p ∧
      ∀ k ∈ st.leg.ids, enabled? motors k = some p.on ∧
        (st.leg.isEnabled = true → st.leg.m_motorsFaultDisabled = false →
          enabled? motors k = some true) ∧
        (st.leg.m_motorsFaultDisabled = true → enabled? motors k = some false) := by
  intro st motors
  obtain ⟨p, hreach, hrefines⟩ := LegRun.refines_run baseId motorsPerLeg l
  have hinv := LegPower.reachable_inv hreach
  have hdeliver := deliverable_of_sent motorIds hids hmit hw
  have hstatus : ∀ k ∈ st.leg.ids, enabled? motors k = some p.on := by
    intro k hk
    have hpow : last MotorCmd.power (w.map Sending.addressed) k = some p.on := by
      rw [hw]
      exact hrefines.power k hk
    rw [show enabled? motors k = _ from enabled?_run undef .DM8009 hdeliver k, hpow, Option.some_or]
  refine ⟨p, hreach, hrefines, fun k hk => ⟨hstatus k hk, fun he hl => ?_, fun hl => ?_⟩⟩
  · rw [hstatus k hk, hinv.on_of_isEnabled (hrefines.isEnabled ▸ he) (hrefines.latched ▸ hl)]
  · rw [hstatus k hk, hinv.off_of_latched (hrefines.latched ▸ hl)]

/-- The controller asks for joint 0 to move, and for no other. -/
def setPoint : MercuryShm.Command where
  jtorque_cmd := fun _ => 3
  jpos_cmd := fun _ => 1
  jvel_cmd := fun _ => 1 / 2
  kp := fun _ => 20
  kd := fun _ => 1
  enabled := fun j => if j.val = 0 then 1 else 0
  timestamp_ns := 4

def commandCycle : Cycle where
  shm := { MercuryShm.SharedMemoryLayout.created with cmd_buffers := fun _ => setPoint }
  cp_start := 5
  cp_end := 6

/-- The controller asks for an emergency stop. -/
def faultCycle : Cycle where
  shm := { MercuryShm.SharedMemoryLayout.created with controller_emergency_stop := true }
  cp_start := 7
  cp_end := 8

/-- What joint 0 is sent. -/
def firstJoint : MITParam := ⟨20, 1, 1, 1 / 2, 3⟩

lemma not_saturated_firstJoint :
    ¬ (Saturated .DM8009 firstJoint ∧ torqueOfCode .DM8009 3840 ≤ firstJoint.tau) := by
  rintro ⟨-, htau⟩
  norm_num [torqueOfCode, firstJoint, MOTOR_LIMIT_PARAMS] at htau

/-- A leg that sends no other MIT command. -/
lemma not_saturated_of_sent {l : List LegRun.LegOp} {frames : Frames}
    (hsent : (run LegRun.step (LegRun.start 1 2) l).sent = frames)
    (hmit : ∀ k p, (k, .setMitControl p) ∈ frames → p = firstJoint) :
    ∀ k p, (k, .setMitControl p) ∈ (run LegRun.step (LegRun.start 1 2) l).sent →
      ¬ (Saturated .DM8009 p ∧ torqueOfCode .DM8009 3840 ≤ p.tau) := by
  intro k p hmem
  rw [hmit k p (hsent ▸ hmem)]
  exact not_saturated_firstJoint

/-- A leg of two motors that was enabled. -/
def ready : List LegRun.LegOp := [.setShmPointers true true, .setEnable true]

/-- Commands on their way, with nothing else in their unions. -/
def sendings (frames : Frames) : List Sending :=
  frames.map fun f => ⟨f.1, f.2, fun _ => 0⟩

@[simp] lemma addressed_sendings (frames : Frames) :
    (sendings frames).map Sending.addressed = frames := by
  simp [sendings, Sending.addressed, Function.comp_def]

/-- A leg is enabled and acts on a command, and then meets a fault. -/
theorem motors_follow_leg_untilFault :
    let motors := fun l => run (deliver (fun _ => 0) .DM8009) (construct [1, 2])
      (sendings (run LegRun.step (LegRun.start 1 2) l).sent)
    let l := ready ++ [.controllerPeriodic commandCycle]
    (1, .setMitControl firstJoint) ∈ (run LegRun.step (LegRun.start 1 2) l).sent ∧
    (enabled? (motors l) 1 = some true ∧ enabled? (motors l) 2 = some true) ∧
    enabled? (motors (l ++ [.controllerPeriodic faultCycle])) 1 = some false ∧
      enabled? (motors (l ++ [.controllerPeriodic faultCycle])) 2 = some false := by
  intro motors l
  have hsent : (run LegRun.step (LegRun.start 1 2) l).sent =
      [(1, .enableMotor), (2, .enableMotor), (1, .enableMotor), (2, .enableMotor),
        (1, .setMitControl firstJoint)] := rfl
  have hfault : (run LegRun.step (LegRun.start 1 2) (l ++ [.controllerPeriodic faultCycle])).sent =
      [(1, .enableMotor), (2, .enableMotor), (1, .enableMotor), (2, .enableMotor),
        (1, .setMitControl firstJoint), (1, .disableMotor), (2, .disableMotor)] := rfl
  obtain ⟨_, -, -, hon⟩ := motors_follow_leg (fun _ => 0) [1, 2] 1 2 (by decide) l
    (not_saturated_of_sent hsent fun k p hmem =>
      (show k = 1 ∧ p = firstJoint by simpa using hmem).2) _ (addressed_sendings _)
  obtain ⟨_, -, -, hoff⟩ := motors_follow_leg (fun _ => 0) [1, 2] 1 2 (by decide)
    (l ++ [.controllerPeriodic faultCycle])
    (not_saturated_of_sent hfault fun k p hmem =>
      (show k = 1 ∧ p = firstJoint by simpa using hmem).2) _ (addressed_sendings _)
  exact ⟨by simp [hsent],
    ⟨(hon 1 (by decide)).2.1 rfl rfl, (hon 2 (by decide)).2.1 rfl rfl⟩,
    (hoff 1 (by decide)).2.2 rfl, (hoff 2 (by decide)).2.2 rfl⟩

end Kuavo.PowerDelivered
