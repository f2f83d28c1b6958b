import Kuavo.Lib.LastSent
import Kuavo.MercuryShm
import Kuavo.Motor

/-!
`src/subsystems/Legged.cpp`: one leg, its enable flag, its fault latch and the commands it
sends its motors.

An operation returns the leg after it and the commands it sent, each with the device id of
the motor it went to.
-/

namespace Kuavo

open Kuavo.MercuryShm Kuavo.Lib.LastSent

abbrev Frames := List (ℕ × MotorCmd)

def MSG_ENABLE_SUBSYSTEM : ℕ := 0x10
def MSG_DISABLE_SUBSYSTEM : ℕ := 0x11
def MSG_EMERGENCY_STOP : ℕ := 0x12

structure MESSAGE where
  type : ℕ
  sid : ℕ := 0

inductive DisableReason
  | SHM_INVALID_MAGIC | SHM_VERSION_MISMATCH | CONTROLLER_EMERGENCY_STOP
  | EMERGENCY_STOP_ACTIVE | CMD_WRITE_IDX_INVALID
  deriving DecidableEq

structure Legged where
  baseId : ℕ
  motors : List Motor
  m_groupOffset : ℕ
  m_isEnabled : Bool := false
  m_motorsFaultDisabled : Bool := false
  m_motorResponsive : List Bool
  m_lastControllerStartNs : UInt64 := 0
  m_paramQueryCycle : ℕ := 0
  /-- Whether `m_shm` is set. -/
  attached : Bool := false
  /-- Whether `m_staging` is set. -/
  staging : Bool := false

/-- What one cycle meets: the shared memory as it reads it, and the clock at both ends. -/
structure Cycle where
  shm : SharedMemoryLayout
  cp_start : UInt64
  cp_end : UInt64

namespace Legged

def COMMAND_STALE_THRESHOLD_NS : UInt64 := HEARTBEAT_STALE_NS
def MOTOR_RESPONSIVE_TIMEOUT_NS : UInt64 := 100000000

def ids (l : Legged) : List ℕ := l.motors.map Motor.deviceId

def isEnabled (l : Legged) : Bool := l.m_isEnabled

def getName (l : Legged) : String := if l.baseId = 1 then "left" else "right"

/-- The constructor sends every motor an enable frame; the flag stays false. -/
def construct (baseId motorsPerLeg : ℕ) : Legged × Frames :=
  let l : Legged :=
    { baseId := baseId
      motors := (List.range' baseId motorsPerLeg).map fun idx => { deviceId := idx }
      m_groupOffset := if baseId = 1 then 0 else MOTORS_PER_GROUP
      m_motorResponsive := List.replicate motorsPerLeg false }
  (l, toAll l.ids .enableMotor)

def enable (l : Legged) : Legged := { l with m_isEnabled := true }
def disable (l : Legged) : Legged := { l with m_isEnabled := false }

def setEnable (l : Legged) (_enable : Bool) : Legged × Frames :=
  if _enable ∧ ¬ l.isEnabled then
    let l := { l with
      m_motorsFaultDisabled := false
      m_motorResponsive := l.m_motorResponsive.map fun _ => false }
    (l.enable, toAll l.ids .enableMotor)
  else if ¬ _enable ∧ l.isEnabled then (l.disable, toAll l.ids .disableMotor)
  else (l, [])

/-- The reason only goes to the log. -/
def disableAllMotorsOnce (l : Legged) (_reason : DisableReason) : Legged × Frames :=
  if l.m_motorsFaultDisabled then (l, [])
  else ({ l with m_motorsFaultDisabled := true }, toAll l.ids .disableMotor)

def onMessage (l : Legged) (message : MESSAGE) : Legged × Frames :=
  if message.type = MSG_ENABLE_SUBSYSTEM then l.setEnable true
  else if message.type = MSG_DISABLE_SUBSYSTEM then l.setEnable false
  else if message.type = MSG_EMERGENCY_STOP then l.setEnable false
  else (l, [])

/-- What `onMessage` hands the callback. -/
def response (l : Legged) (message : MESSAGE) : String :=
  if message.type = MSG_ENABLE_SUBSYSTEM then l.getName ++ " leg enabled by subsystem message"
  else if message.type = MSG_DISABLE_SUBSYSTEM then
    l.getName ++ " leg disabled by subsystem message"
  else if message.type = MSG_EMERGENCY_STOP then l.getName ++ " leg emergency stopped"
  else l.getName ++ " leg reply to message type =" ++ toString message.sid

def disabledInit (l : Legged) : Legged × Frames := (l.disable, [])
def autonomousInit (l : Legged) : Legged × Frames := l.setEnable true
def teleopInit (l : Legged) : Legged × Frames := l.setEnable true

/-- Every tenth call asks one motor, in turn, for register 21. A leg without motors divides by zero
there in the source, where nothing is sent here. -/
def robotPeriodic (l : Legged) : Legged × Frames :=
  let frames :=
    if l.m_paramQueryCycle % 10 = 0 then
      match l.ids[l.m_paramQueryCycle / 10 % l.motors.length]? with
      | some id => [(id, .getRegParam 21)]
      | none => []
    else []
  ({ l with m_paramQueryCycle := l.m_paramQueryCycle + 1 }, frames)

def setShmPointers (l : Legged) (shm staging : Bool) : Legged × Frames :=
  ({ l with attached := shm, staging := staging }, [])

/-- The destructor, once the thread has stopped. -/
def destroy (l : Legged) : Frames :=
  l.ids.flatMap fun id => [(id, .setZeroCommand), (id, .disableMotor)]

/-! ### `controllerPeriodic` -/

/-- The checks on the segment, in the order the cycle makes them. -/
def shmFault (shm : SharedMemoryLayout) : Option DisableReason :=
  if shm.magic ≠ SHM_MAGIC then some .SHM_INVALID_MAGIC
  else if shm.version ≠ SHM_VERSION then some .SHM_VERSION_MISMATCH
  else if shm.controller_emergency_stop then some .CONTROLLER_EMERGENCY_STOP
  else none

/-- A command with a timestamp ahead of the clock counts as new, one without is never old. -/
def commandStale (cmd : Command) (now_ns : UInt64) : Bool :=
  let cmd_age_ns :=
    if cmd.timestamp_ns > 0 ∧ cmd.timestamp_ns ≤ now_ns then now_ns - cmd.timestamp_ns else 0
  cmd.timestamp_ns > 0 && cmd_age_ns > COMMAND_STALE_THRESHOLD_NS

def mitParam (cmd : Command) (j : Fin NUM_ACT_JOINT) : MITParam where
  kp := cmd.kp j
  kd := cmd.kd j
  q := cmd.jpos_cmd j
  dq := cmd.jvel_cmd j
  tau := cmd.jtorque_cmd j

/-- The dispatch loop: joint `m_groupOffset + i` of the command goes to motor `i`. -/
def mitParams (l : Legged) (cmd : Command) : List (ℕ × MITParam) :=
  l.ids.zipIdx.filterMap fun (id, i) =>
    if h : l.m_groupOffset + i < NUM_ACT_JOINT then
      if cmd.enabled ⟨l.m_groupOffset + i, h⟩ ≠ 0 then
        some (id, mitParam cmd ⟨l.m_groupOffset + i, h⟩)
      else none
    else none

def dispatch (l : Legged) (cmd : Command) : Frames :=
  (l.mitParams cmd).map fun (id, mit) => (id, .setMitControl mit)

/-- The part of a cycle that the enable flag gates. -/
def actuate (l : Legged) (shm : SharedMemoryLayout) (now_ns : UInt64) : Legged × Frames :=
  if l.isEnabled then
    match shm.currentCommand? with
    | none => l.disableAllMotorsOnce .CMD_WRITE_IDX_INVALID
    | some cmd => (l, if commandStale cmd now_ns then [] else l.dispatch cmd)
  else (l, [])

def responsive (m : Motor) (now_ns : UInt64) : Bool :=
  let age_ns :=
    if m.lastUpdateTime ≠ 0 ∧ m.lastUpdateTime ≤ now_ns then now_ns - m.lastUpdateTime else 0
  m.lastUpdateTime != 0 && age_ns < MOTOR_RESPONSIVE_TIMEOUT_NS

/-- What is published to the Composer. -/
def stageData (l : Legged) (c : Cycle) : MotorGroupStageData where
  joint_jpos := l.motors.map Motor.stateQ
  joint_jvel := l.motors.map Motor.stateDq
  motor_jpos := l.motors.map Motor.stateQ
  motor_jvel := l.motors.map Motor.stateDq
  jtorque := l.motors.map Motor.stateTau
  motor_status := l.motors.map fun m => UInt8.ofNat m.status
  mos_temperature := l.motors.map fun m => m.stateTmos
  rotor_temperature := l.motors.map fun m => m.stateTrotor
  controller_duration_us := ((c.cp_end - c.cp_start) / 1000).toUInt32
  controller_interval_us :=
    if l.m_lastControllerStartNs ≠ 0 then
      ((c.cp_start - l.m_lastControllerStartNs) / 1000).toUInt32
    else 0
  timestamp_ns := c.cp_start
  sequence := c.shm.composed_sequence + 1

def observe (l : Legged) (c : Cycle) : Legged × Option MotorGroupStageData :=
  if l.staging then
    ({ l with
        m_motorResponsive := l.motors.map fun m => responsive m c.cp_start
        m_lastControllerStartNs := c.cp_start },
      some (l.stageData c))
  else (l, none)

/-- One cycle, with what it staged. -/
def controllerPeriodic (l : Legged) (c : Cycle) :
    (Legged × Frames) × Option MotorGroupStageData :=
  if l.attached then
    match shmFault c.shm with
    | some reason => (l.disableAllMotorsOnce reason, none)
    | none =>
      let (l', frames) := l.actuate c.shm c.cp_start
      let (l'', staged) := l'.observe c
      ((l'', frames), staged)
  else ((l, []), none)

/-! ### What each operation does to flag, latch and motors -/

/-- The fault that makes a cycle call `disableAllMotorsOnce`. -/
def faultReason (l : Legged) (c : Cycle) : Option DisableReason :=
  if l.attached then
    match shmFault c.shm with
    | some reason => some reason
    | none =>
      if l.isEnabled ∧ c.shm.currentCommand? = none then some .CMD_WRITE_IDX_INVALID else none
  else none

/-- The commands that a cycle without a fault dispatches. -/
def mitFrames (l : Legged) (c : Cycle) : Frames :=
  if l.attached ∧ shmFault c.shm = none ∧ l.isEnabled then
    match c.shm.currentCommand? with
    | some cmd => if commandStale cmd c.cp_start then [] else l.dispatch cmd
    | none => []
  else []

/-- The motors of a leg and the pointers it was given stay what they are. -/
structure SameFrame (l l' : Legged) : Prop where
  ids : l'.ids = l.ids
  m_groupOffset : l'.m_groupOffset = l.m_groupOffset
  attached : l'.attached = l.attached
  m_isEnabled : l'.m_isEnabled = l.m_isEnabled

lemma setEnable_true (l : Legged) :
    (l.setEnable true).1.m_isEnabled = true ∧ (l.setEnable true).1.ids = l.ids ∧
      (l.setEnable true).1.m_motorsFaultDisabled = (l.m_motorsFaultDisabled && l.isEnabled) ∧
      (l.setEnable true).2 = if l.isEnabled then [] else toAll l.ids .enableMotor := by
  unfold setEnable
  rcases h : l.isEnabled with _ | _
  · refine ⟨?_, ?_, ?_, ?_⟩ <;> simp [enable, ids]
  · refine ⟨?_, ?_, ?_, ?_⟩ <;> simp
    exact h

lemma setEnable_false (l : Legged) :
    (l.setEnable false).1.m_isEnabled = false ∧ (l.setEnable false).1.ids = l.ids ∧
      (l.setEnable false).1.m_motorsFaultDisabled = l.m_motorsFaultDisabled ∧
      (l.setEnable false).2 = if l.isEnabled then toAll l.ids .disableMotor else [] := by
  unfold setEnable
  rcases h : l.isEnabled with _ | _
  · refine ⟨?_, ?_, ?_, ?_⟩ <;> simp
    exact h
  · refine ⟨?_, ?_, ?_, ?_⟩ <;> simp [disable, ids]

lemma disableAllMotorsOnce_spec (l : Legged) (reason : DisableReason) :
    SameFrame l (l.disableAllMotorsOnce reason).1 ∧
      (l.disableAllMotorsOnce reason).1.m_motorsFaultDisabled = true ∧
      (l.disableAllMotorsOnce reason).2 =
        if l.m_motorsFaultDisabled then [] else toAll l.ids .disableMotor := by
  unfold disableAllMotorsOnce
  rcases h : l.m_motorsFaultDisabled with _ | _
  · exact ⟨⟨rfl, rfl, rfl, rfl⟩, rfl, rfl⟩
  · exact ⟨⟨rfl, rfl, rfl, rfl⟩, h, rfl⟩

lemma observe_spec (l : Legged) (c : Cycle) :
    SameFrame l (l.observe c).1 ∧
      (l.observe c).1.m_motorsFaultDisabled = l.m_motorsFaultDisabled := by
  unfold observe
  split_ifs
  · exact ⟨⟨rfl, rfl, rfl, rfl⟩, rfl⟩
  · exact ⟨⟨rfl, rfl, rfl, rfl⟩, rfl⟩

lemma SameFrame.refl (l : Legged) : SameFrame l l := ⟨rfl, rfl, rfl, rfl⟩

lemma SameFrame.trans {a b c : Legged} (h : SameFrame a b) (h' : SameFrame b c) :
    SameFrame a c :=
  ⟨h'.ids.trans h.ids, h'.m_groupOffset.trans h.m_groupOffset, h'.attached.trans h.attached,
    h'.m_isEnabled.trans h.m_isEnabled⟩

/-- **A cycle with a fault** sets the latch, and switches the motors off if it was clear. -/
theorem controllerPeriodic_fault {l : Legged} {c : Cycle} {reason : DisableReason}
    (h : l.faultReason c = some reason) :
    SameFrame l (l.controllerPeriodic c).1.1 ∧
      (l.controllerPeriodic c).1.1.m_motorsFaultDisabled = true ∧
      (l.controllerPeriodic c).1.2 =
        if l.m_motorsFaultDisabled then [] else toAll l.ids .disableMotor := by
  unfold faultReason at h
  rcases ha : l.attached with _ | _
  · simp [ha] at h
  rcases hf : shmFault c.shm with _ | r
  · simp only [ha, if_true, hf] at h
    split_ifs at h with hc
    have hact : l.actuate c.shm c.cp_start = l.disableAllMotorsOnce .CMD_WRITE_IDX_INVALID := by
      simp [actuate, hc.1, hc.2]
    obtain ⟨hsame, hlatch, hframes⟩ := disableAllMotorsOnce_spec l .CMD_WRITE_IDX_INVALID
    obtain ⟨hsame', hlatch'⟩ :=
      observe_spec (l.disableAllMotorsOnce .CMD_WRITE_IDX_INVALID).1 c
    simp only [controllerPeriodic, ha, if_true, hf, hact]
    exact ⟨hsame.trans hsame', hlatch'.trans hlatch, hframes⟩
  · simp only [controllerPeriodic, ha, if_true, hf]
    exact disableAllMotorsOnce_spec l r

/-- **A cycle without a fault** leaves the latch alone and sends MIT commands only. -/
theorem controllerPeriodic_no_fault {l : Legged} {c : Cycle} (h : l.faultReason c = none) :
    SameFrame l (l.controllerPeriodic c).1.1 ∧
      (l.controllerPeriodic c).1.1.m_motorsFaultDisabled = l.m_motorsFaultDisabled ∧
      (l.controllerPeriodic c).1.2 = l.mitFrames c := by
  unfold faultReason at h
  by_cases ha : l.attached
  · rcases hf : shmFault c.shm with _ | r
    · simp only [ha, if_true, hf] at h
      have hact : l.actuate c.shm c.cp_start = (l, l.mitFrames c) := by
        rcases he : l.isEnabled with _ | _
        · simp [actuate, mitFrames, he]
        · rcases hc : c.shm.currentCommand? with _ | cmd
          · simp [he, hc] at h
          · simp [actuate, mitFrames, he, hc, ha, hf]
      obtain ⟨hsame, hlatch⟩ := observe_spec l c
      simp only [controllerPeriodic, ha, if_true, hf, hact]
      exact ⟨hsame, hlatch, trivial⟩
    · simp [ha, hf] at h
  · simp only [controllerPeriodic, mitFrames, ha]
    exact ⟨SameFrame.refl l, rfl, rfl⟩

/-- A cycle that comes as far as the age of the command meets no fault, and the age decides. -/
lemma mitFrames_of_command {l : Legged} {c : Cycle} {cmd : Command} (ha : l.attached = true)
    (hs : shmFault c.shm = none) (he : l.isEnabled = true)
    (hcmd : c.shm.currentCommand? = some cmd) :
    l.faultReason c = none ∧
      l.mitFrames c = if commandStale cmd c.cp_start then [] else l.dispatch cmd := by
  constructor
  · simp [faultReason, ha, hs, hcmd]
  · unfold mitFrames
    rw [if_pos ⟨ha, hs, he⟩, hcmd]

/-- The dispatch loop sends nothing but MIT commands. -/
lemma dispatch_isMit {l : Legged} {cmd : Command} {e : ℕ × MotorCmd} (h : e ∈ l.dispatch cmd) :
    e.2.isMit := by
  obtain ⟨⟨id, mit⟩, -, rfl⟩ := List.mem_map.mp h
  rfl

lemma mitFrames_isMit {l : Legged} {c : Cycle} {e : ℕ × MotorCmd} (h : e ∈ l.mitFrames c) :
    e.2.isMit := by
  unfold mitFrames at h
  split_ifs at h
  · rcases hc : c.shm.currentCommand? with _ | cmd
    · simp [hc] at h
    · simp only [hc] at h
      split_ifs at h
      · simp at h
      · exact dispatch_isMit h
  · simp at h

end Legged

end Kuavo
