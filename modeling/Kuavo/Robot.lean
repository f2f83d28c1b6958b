import Kuavo.Composer
import Kuavo.LegRun
import Kuavo.ModeChange

/-!
`src/Robot.cpp`: the robot process, with its two legs, the main loop and the shared memory.

A leg's thread and the main loop take turns by whole operations. What the operator's buttons
do, what a staleness check reported and what the controller writes are inputs.
-/

namespace Kuavo

open Kuavo.Lib.Runs Kuavo.MercuryShm

/-! ### Legs and their queues -/

/-- A leg, what it sent, and the messages its thread has still to process. -/
structure LegUnit where
  st : LegRun.LegState
  send_queue_ : List MESSAGE := []

inductive UnitOp
  | call (op : LegRun.LegOp)
  /-- `message` queues what the leg's thread will hand to `onMessage`. -/
  | message (message : MESSAGE)
  | process

namespace LegUnit

def leg (u : LegUnit) : Legged := u.st.leg

/-- A leg whose thread has had nothing to do. -/
structure Idle (u : LegUnit) : Prop where
  isEnabled : u.leg.isEnabled = false
  attached : u.leg.attached = false
  queue : u.send_queue_ = []

def step (u : LegUnit) : UnitOp → LegUnit
  | .call op => { u with st := LegRun.step u.st op }
  | .message message => { u with send_queue_ := u.send_queue_ ++ [message] }
  | .process =>
    match u.send_queue_ with
    | [] => u
    | message :: rest => { st := LegRun.step u.st (.onMessage message), send_queue_ := rest }

/-- The operations of the leg behind a step. -/
def ops (u : LegUnit) : UnitOp → List LegRun.LegOp
  | .call op => [op]
  | .message _ => []
  | .process => (u.send_queue_.take 1).map .onMessage

lemma st_step (u : LegUnit) (op : UnitOp) :
    (u.step op).st = run LegRun.step u.st (u.ops op) := by
  cases op with
  | call op => rfl
  | message message => rfl
  | process => rcases hq : u.send_queue_ with _ | ⟨message, rest⟩ <;> simp [step, ops, hq]

/-- A run of the unit is a history of its leg. -/
theorem reachable_st {u u' : LegUnit} (h : Reachable step u u') :
    Reachable LegRun.step u.st u'.st := by
  obtain ⟨l, rfl⟩ := h
  exact run_abstract LegUnit.st ops st_step u l

end LegUnit

/-! ### The robot -/

inductive Side | left | right
  deriving DecidableEq

/-- The motor group of a leg. -/
def Side.group : Side → Composer.Source
  | .left => .motor_group_a
  | .right => .motor_group_b

/-- The buttons and pairs of buttons that `robotInit` binds, in the order of the bindings. -/
inductive Binding
  | enableLeftButton | disableLeftButton | enableRightButton | disableRightButton
  | enableAll | emergency
  deriving DecidableEq

def bindings : List Binding :=
  [.enableLeftButton, .disableLeftButton, .enableRightButton, .disableRightButton, .enableAll,
    .emergency]

structure Robot where
  leftLeg : LegUnit
  rightLeg : LegUnit
  m_shm : Option SharedMemoryLayout := none
  /-- Whether `m_composer` is set. -/
  m_composer : Bool := false
  m_imu_stale_counter : UInt32 := 0
  m_cycle : UInt64 := 0

/-- What one iteration of the main loop meets: the bindings whose buttons were just pressed,
what the check of the Composer reports, and the clock. -/
structure Iteration where
  rising : Binding → Bool := fun _ => false
  stale : UInt8 := 0
  now_ns : UInt64 := 0

def makeSubsystemMessage (msgType : ℕ) : MESSAGE := { type := msgType }

namespace Robot

/-- The members as the constructor builds them. -/
def construct (leftBase rightBase motorsPerLeg : ℕ) : Robot where
  leftLeg := { st := LegRun.start leftBase motorsPerLeg }
  rightLeg := { st := LegRun.start rightBase motorsPerLeg }

def leg (r : Robot) : Side → LegUnit
  | .left => r.leftLeg
  | .right => r.rightLeg

def onLeg (r : Robot) (s : Side) (op : UnitOp) : Robot :=
  match s with
  | .left => { r with leftLeg := r.leftLeg.step op }
  | .right => { r with rightLeg := r.rightLeg.step op }

def onLegs (r : Robot) (op : UnitOp) : Robot := (r.onLeg .left op).onLeg .right op

/-- `m_shm->emergency_stop.store(true)`. -/
def storeEmergencyStop (r : Robot) : Robot :=
  { r with m_shm := r.m_shm.map fun shm => { shm with emergency_stop := true } }

def attachSharedMemory (r : Robot) : Robot :=
  { r.onLegs (.call (.setShmPointers true true)) with m_composer := true }

/-- A segment that cannot be created ends the process. -/
def robotInit (r : Robot) : Robot :=
  attachSharedMemory { r with m_shm := some .created }

/-- The actions that `robotInit` binds. -/
def action (r : Robot) : Binding → Robot
  | .enableLeftButton => r.onLeg .left (.message (makeSubsystemMessage MSG_ENABLE_SUBSYSTEM))
  | .disableLeftButton => r.onLeg .left (.message (makeSubsystemMessage MSG_DISABLE_SUBSYSTEM))
  | .enableRightButton => r.onLeg .right (.message (makeSubsystemMessage MSG_ENABLE_SUBSYSTEM))
  | .disableRightButton => r.onLeg .right (.message (makeSubsystemMessage MSG_DISABLE_SUBSYSTEM))
  | .enableAll => r.onLegs (.message (makeSubsystemMessage MSG_ENABLE_SUBSYSTEM))
  | .emergency =>
    r.storeEmergencyStop.onLegs (.message (makeSubsystemMessage MSG_EMERGENCY_STOP))

/-- `m_loop.poll()`. -/
def poll (r : Robot) (rising : Binding → Bool) : Robot := (bindings.filter rising).foldl action r

def autonomousInit (r : Robot) : Robot :=
  (r.onLegs (.message (makeSubsystemMessage MSG_ENABLE_SUBSYSTEM))).onLegs (.call .autonomousInit)

def teleopInit (r : Robot) : Robot :=
  (r.onLegs (.message (makeSubsystemMessage MSG_ENABLE_SUBSYSTEM))).onLegs (.call .teleopInit)

/-! ### `robotPeriodic` -/

def checkImu (r : Robot) (stale : UInt8) : Robot :=
  if stale &&& Composer.STALE_IMU ≠ 0 then
    let r := { r with m_imu_stale_counter := r.m_imu_stale_counter + 1 }
    if r.m_imu_stale_counter > 20 then r.storeEmergencyStop else r
  else { r with m_imu_stale_counter := 0 }

def disableStaleLegs (r : Robot) (stale : UInt8) : Robot :=
  let r :=
    if stale &&& Composer.STALE_MOTOR_GROUP_A ≠ 0 then r.onLeg .left (.call (.setEnable false))
    else r
  if stale &&& Composer.STALE_MOTOR_GROUP_B ≠ 0 then r.onLeg .right (.call (.setEnable false))
  else r

/-- The commands of the controller are too old, or ahead of the clock. -/
def commandsStale (shm : SharedMemoryLayout) (now_ns : UInt64) : Bool :=
  match shm.currentCommand? with
  | none => false
  | some cmd =>
    cmd.timestamp_ns > 0 &&
      (cmd.timestamp_ns > now_ns || now_ns - cmd.timestamp_ns > HEARTBEAT_STALE_NS)

def checkController (r : Robot) (shm : SharedMemoryLayout) (now_ns : UInt64) : Robot :=
  let r := if commandsStale shm now_ns then r.storeEmergencyStop else r
  if shm.controller_emergency_stop then r.storeEmergencyStop else r

/-- What is checked while Composer and segment are there. -/
def supervise (r : Robot) (it : Iteration) : Robot :=
  match r.m_composer, r.m_shm with
  | true, some shm =>
    ((r.checkImu it.stale).disableStaleLegs it.stale).checkController shm it.now_ns
  | _, _ => r

/-- Every tenth iteration asks one motor, in turn, for register 21. -/
def queryParam (r : Robot) : Robot :=
  if r.m_cycle % 10 = 0 then
    let motor_idx := (r.m_cycle / 10).toNat % NUM_ACT_JOINT
    if motor_idx < MOTORS_PER_GROUP then r.onLeg .left (.call (.getRegParam motor_idx 21))
    else r.onLeg .right (.call (.getRegParam (motor_idx - MOTORS_PER_GROUP) 21))
  else r

def robotPeriodic (r : Robot) (it : Iteration) : Robot :=
  let r := (((r.poll it.rising).supervise it).queryParam).onLegs (.call .robotPeriodic)
  { r with m_cycle := r.m_cycle + 1 }

/-- What the main loop calls; the functions that are not named here do nothing to the legs. -/
def callback (r : Robot) (it : Iteration) : Callback → Robot
  | .autonomousInit => r.autonomousInit
  | .teleopInit => r.teleopInit
  | .robotPeriodic => r.robotPeriodic it
  | .driverStationConnected | .autonomousExit | .teleopExit => r
  | .autonomousPeriodic | .teleopPeriodic => r

end Robot

/-! ### Runs of the process -/

inductive RobotOp
  /-- The start of the main loop. -/
  | robotInit
  | packet (payload : Payload)
  /-- `HAL_RefreshDSData` outside the loop. -/
  | refresh
  /-- One iteration of the main loop. -/
  | loop (it : Iteration)
  /-- A leg's thread takes a message from its queue. -/
  | process (s : Side)
  /-- A leg's thread runs a cycle. -/
  | cycle (s : Side) (cp_start cp_end : UInt64)
  /-- A state received for a motor of a leg. -/
  | feedback (s : Side) (i : ℕ) (r : StateResult) (now : UInt64)
  /-- What another process left in the segment. -/
  | shm (shm : SharedMemoryLayout)

structure Process where
  robot : Robot
  main : ModeChange.MainLoop := ModeChange.start

namespace Process

def start (leftBase rightBase motorsPerLeg : ℕ) : Process where
  robot := .construct leftBase rightBase motorsPerLeg

/-- The segment as a leg's thread finds it. -/
def cycleOf (r : Robot) (cp_start cp_end : UInt64) : Cycle :=
  ⟨r.m_shm.getD {}, cp_start, cp_end⟩

def step (signed : Bool) (p : Process) : RobotOp → Process
  | .robotInit => if p.robot.m_shm.isSome then p else { p with robot := p.robot.robotInit }
  | .packet payload => { p with main := ModeChange.step signed p.main (.packet payload) }
  | .refresh => { p with main := ModeChange.step signed p.main .refresh }
  | .loop it =>
    -- the loop starts once `robotInit` has returned
    if p.robot.m_shm.isSome then
      { robot := (ModeChange.calls p.main).foldl (fun r => r.callback it) p.robot
        main := ModeChange.step signed p.main .loop }
    else p
  | .process s => { p with robot := p.robot.onLeg s .process }
  | .cycle s cp_start cp_end =>
    { p with
      robot := p.robot.onLeg s (.call (.controllerPeriodic (cycleOf p.robot cp_start cp_end))) }
  | .feedback s i r now => { p with robot := p.robot.onLeg s (.call (.feedback i r now)) }
  | .shm shm => { p with robot := { p.robot with m_shm := p.robot.m_shm.map fun _ => shm } }

end Process

/-! ### What the robot does to its legs -/

namespace Robot

/-- Each leg runs whole operations, and the segment is neither created nor removed. -/
structure Moves (r r' : Robot) : Prop where
  legs : ∀ s, Reachable LegUnit.step (r.leg s) (r'.leg s)
  shm : r'.m_shm.isSome = r.m_shm.isSome
  composer : r'.m_composer = r.m_composer

lemma Moves.refl (r : Robot) : Moves r r := ⟨fun s => Reachable.refl _ (r.leg s), rfl, rfl⟩

lemma Moves.trans {a b c : Robot} (h : Moves a b) (h' : Moves b c) : Moves a c :=
  ⟨fun s => (h.legs s).trans (h'.legs s), h'.shm.trans h.shm, h'.composer.trans h.composer⟩

lemma moves_of_leg_eq {r r' : Robot} (hleg : ∀ s, r'.leg s = r.leg s)
    (hshm : r'.m_shm.isSome = r.m_shm.isSome) (hcomposer : r'.m_composer = r.m_composer) :
    Moves r r' := by
  refine ⟨fun s => ?_, hshm, hcomposer⟩
  rw [hleg s]
  exact Reachable.refl _ _

lemma moves_onLeg (r : Robot) (s : Side) (op : UnitOp) : Moves r (r.onLeg s op) := by
  cases s with
  | left =>
    refine ⟨fun t => ?_, rfl, rfl⟩
    cases t with
    | left => exact reachable_step LegUnit.step r.leftLeg op
    | right => exact Reachable.refl _ _
  | right =>
    refine ⟨fun t => ?_, rfl, rfl⟩
    cases t with
    | left => exact Reachable.refl _ _
    | right => exact reachable_step LegUnit.step r.rightLeg op

lemma moves_onLegs (r : Robot) (op : UnitOp) : Moves r (r.onLegs op) :=
  (moves_onLeg r .left op).trans (moves_onLeg _ .right op)

lemma leg_onLegs (r : Robot) (op : UnitOp) (s : Side) :
    (r.onLegs op).leg s = (r.leg s).step op := by
  cases s <;> rfl

lemma moves_storeEmergencyStop (r : Robot) : Moves r r.storeEmergencyStop := by
  refine moves_of_leg_eq (fun s => by cases s <;> rfl) ?_ rfl
  unfold storeEmergencyStop
  exact Option.isSome_map

lemma moves_action (r : Robot) (b : Binding) : Moves r (r.action b) := by
  cases b with
  | enableLeftButton | disableLeftButton => exact moves_onLeg r .left (.message _)
  | enableRightButton | disableRightButton => exact moves_onLeg r .right (.message _)
  | enableAll => exact moves_onLegs r _
  | emergency => exact (moves_storeEmergencyStop r).trans (moves_onLegs _ _)

lemma moves_foldl {α : Type} {f : Robot → α → Robot} (hf : ∀ r a, Moves r (f r a)) (l : List α)
    (r : Robot) : Moves r (l.foldl f r) := by
  induction l generalizing r with
  | nil => exact Moves.refl r
  | cons a l ih => exact (hf r a).trans (ih (f r a))

lemma moves_checkImu (r : Robot) (stale : UInt8) : Moves r (r.checkImu stale) := by
  have hcount : ∀ n, Moves r { r with m_imu_stale_counter := n } :=
    fun n => moves_of_leg_eq (fun s => by cases s <;> rfl) rfl rfl
  unfold checkImu
  split_ifs
  · simp only
    split_ifs
    · exact (hcount _).trans (moves_storeEmergencyStop _)
    · exact hcount _
  · exact hcount 0

lemma moves_disableStaleLegs (r : Robot) (stale : UInt8) : Moves r (r.disableStaleLegs stale) := by
  unfold disableStaleLegs
  simp only
  split_ifs
  · exact (moves_onLeg r _ _).trans (moves_onLeg _ _ _)
  · exact moves_onLeg r _ _
  · exact moves_onLeg r _ _
  · exact Moves.refl r

lemma moves_checkController (r : Robot) (shm : SharedMemoryLayout) (now_ns : UInt64) :
    Moves r (r.checkController shm now_ns) := by
  unfold checkController
  simp only
  split_ifs
  · exact (moves_storeEmergencyStop r).trans (moves_storeEmergencyStop _)
  · exact moves_storeEmergencyStop r
  · exact moves_storeEmergencyStop r
  · exact Moves.refl r

lemma moves_supervise (r : Robot) (it : Iteration) : Moves r (r.supervise it) := by
  unfold supervise
  split
  · exact ((moves_checkImu r _).trans (moves_disableStaleLegs _ _)).trans
      (moves_checkController _ _ _)
  · exact Moves.refl r

lemma moves_queryParam (r : Robot) : Moves r r.queryParam := by
  unfold queryParam
  simp only
  split_ifs
  · exact moves_onLeg r _ _
  · exact moves_onLeg r _ _
  · exact Moves.refl r

lemma moves_poll (r : Robot) (rising : Binding → Bool) : Moves r (r.poll rising) :=
  moves_foldl moves_action _ r

lemma moves_robotPeriodic (r : Robot) (it : Iteration) : Moves r (r.robotPeriodic it) := by
  have hpoll := moves_poll r it.rising
  have hperiodic := ((hpoll.trans (moves_supervise _ it)).trans (moves_queryParam _)).trans
    (moves_onLegs _ (.call .robotPeriodic))
  exact hperiodic.trans (moves_of_leg_eq (fun s => by cases s <;> rfl) rfl rfl)

lemma moves_callback (r : Robot) (it : Iteration) (c : Callback) : Moves r (r.callback it c) := by
  cases c with
  | autonomousInit => exact (moves_onLegs r _).trans (moves_onLegs _ _)
  | teleopInit => exact (moves_onLegs r _).trans (moves_onLegs _ _)
  | robotPeriodic => exact moves_robotPeriodic r it
  | driverStationConnected | autonomousExit | teleopExit => exact Moves.refl r
  | autonomousPeriodic | teleopPeriodic => exact Moves.refl r

/-! ### What an iteration does to the flag of a leg -/

lemma leg_storeEmergencyStop (r : Robot) (s : Side) : r.storeEmergencyStop.leg s = r.leg s := by
  cases s <;> rfl

lemma leg_poll (r : Robot) (rising : Binding → Bool) (s : Side) :
    ((r.poll rising).leg s).leg = (r.leg s).leg := by
  have haction : ∀ (r : Robot) (b : Binding), ((r.action b).leg s).leg = (r.leg s).leg := by
    intro r b
    cases b <;> cases s <;> rfl
  unfold poll
  induction bindings.filter rising generalizing r with
  | nil => rfl
  | cons b l ih => exact (ih (r.action b)).trans (haction r b)

lemma leg_checkImu (r : Robot) (stale : UInt8) (s : Side) : (r.checkImu stale).leg s = r.leg s := by
  have hcount : ∀ n, ({ r with m_imu_stale_counter := n } : Robot).leg s = r.leg s := by
    intro n
    cases s <;> rfl
  unfold checkImu
  split_ifs
  · simp only
    split_ifs
    · exact (leg_storeEmergencyStop _ s).trans (hcount _)
    · exact hcount _
  · exact hcount 0

lemma leg_disableStaleLegs (r : Robot) (stale : UInt8) (s : Side) :
    (r.disableStaleLegs stale).leg s =
      if Composer.Reports stale s.group then (r.leg s).step (.call (.setEnable false))
      else r.leg s := by
  unfold disableStaleLegs Composer.Reports
  cases s with
  | left =>
    change _ = if stale &&& Composer.STALE_MOTOR_GROUP_A ≠ 0 then _ else _
    simp only
    split_ifs <;> rfl
  | right =>
    change _ = if stale &&& Composer.STALE_MOTOR_GROUP_B ≠ 0 then _ else _
    simp only
    split_ifs <;> rfl

lemma leg_checkController (r : Robot) (shm : SharedMemoryLayout) (now_ns : UInt64) (s : Side) :
    (r.checkController shm now_ns).leg s = r.leg s := by
  unfold checkController
  simp only
  split_ifs
  · exact (leg_storeEmergencyStop _ s).trans (leg_storeEmergencyStop r s)
  · exact leg_storeEmergencyStop r s
  · exact leg_storeEmergencyStop r s
  · rfl

lemma isEnabled_queryParam (r : Robot) (s : Side) :
    (r.queryParam.leg s).leg.isEnabled = (r.leg s).leg.isEnabled := by
  unfold queryParam
  simp only
  split_ifs <;> cases s <;> rfl

/-- An iteration clears the flag of a leg whose motor group is reported stale, and of no other. -/
theorem isEnabled_robotPeriodic (r : Robot) (it : Iteration) (s : Side) :
    ((r.robotPeriodic it).leg s).leg.isEnabled =
      ((r.leg s).leg.isEnabled &&
        !(r.m_composer && r.m_shm.isSome && decide (Composer.Reports it.stale s.group))) := by
  have hlast : ((r.robotPeriodic it).leg s).leg.isEnabled =
      (((r.poll it.rising).supervise it).leg s).leg.isEnabled := by
    refine Eq.trans ?_ (isEnabled_queryParam _ s)
    cases s <;> rfl
  have hflag : ((r.poll it.rising).leg s).leg.isEnabled = (r.leg s).leg.isEnabled :=
    congrArg Legged.isEnabled (leg_poll r it.rising s)
  have hmoves := moves_poll r it.rising
  rw [hlast, ← hflag, ← hmoves.composer, ← hmoves.shm]
  unfold supervise
  rcases hc : (r.poll it.rising).m_composer with _ | _
  · simp
  rcases hs : (r.poll it.rising).m_shm with _ | shm
  · simp
  simp only [leg_checkController, leg_disableStaleLegs, leg_checkImu]
  split_ifs with hrep
  · have hoff : ((((r.poll it.rising).leg s).step (.call (.setEnable false))).leg).isEnabled =
        false := (Legged.setEnable_false _).1
    rw [hoff]
    simp [hrep]
  · simp [hrep]

/-- Of the other calls of the main loop only the two inits set the flag of a leg. -/
lemma isEnabled_callback (r : Robot) (it : Iteration) (s : Side) {c : Callback}
    (hc : c ≠ .robotPeriodic) :
    ((r.callback it c).leg s).leg.isEnabled =
      ((r.leg s).leg.isEnabled || decide (c = .autonomousInit ∨ c = .teleopInit)) := by
  cases c with
  | autonomousInit =>
    have hon : ((r.autonomousInit).leg s).leg.isEnabled = true := by
      unfold autonomousInit
      rw [leg_onLegs]
      exact (Legged.setEnable_true _).1
    change ((r.autonomousInit).leg s).leg.isEnabled = _
    simp [hon]
  | teleopInit =>
    have hon : ((r.teleopInit).leg s).leg.isEnabled = true := by
      unfold teleopInit
      rw [leg_onLegs]
      exact (Legged.setEnable_true _).1
    change ((r.teleopInit).leg s).leg.isEnabled = _
    simp [hon]
  | robotPeriodic => exact absurd rfl hc
  | driverStationConnected | autonomousExit | teleopExit => simp [callback]
  | autonomousPeriodic | teleopPeriodic => simp [callback]

lemma isEnabled_callbacks (it : Iteration) (s : Side) {l : List Callback}
    (hl : .robotPeriodic ∉ l) (r : Robot) :
    ((l.foldl (fun r => r.callback it) r).leg s).leg.isEnabled =
      ((r.leg s).leg.isEnabled || decide (IterativeRobotBase.EnablesLegs l)) := by
  induction l generalizing r with
  | nil => simp [IterativeRobotBase.EnablesLegs]
  | cons c l ih =>
    obtain ⟨hc, hl⟩ : Callback.robotPeriodic ≠ c ∧ Callback.robotPeriodic ∉ l := by simpa using hl
    rw [List.foldl_cons, ih hl, isEnabled_callback r it s hc.symm, Bool.or_assoc,
      ← Bool.decide_or]
    simp only [IterativeRobotBase.enablesLegs_cons]

end Robot

/-! ### Reachable states -/

namespace Process

variable {signed : Bool}

lemma moves_callbacks (p : Process) (it : Iteration) :
    p.robot.Moves ((ModeChange.calls p.main).foldl (fun r => r.callback it) p.robot) :=
  Robot.moves_foldl (fun r c => Robot.moves_callback r it c) _ p.robot

lemma leg_robotInit (r : Robot) (s : Side) :
    r.robotInit.leg s = (r.leg s).step (.call (.setShmPointers true true)) := by
  cases s <;> rfl

/-- A step of the process takes each leg through whole operations. -/
lemma legs_step (p : Process) (op : RobotOp) (s : Side) :
    Reachable LegUnit.step (p.robot.leg s) ((step signed p op).robot.leg s) := by
  cases op with
  | robotInit =>
    unfold step
    split_ifs
    · exact Reachable.refl _ _
    · change Reachable LegUnit.step (p.robot.leg s) (p.robot.robotInit.leg s)
      rw [leg_robotInit]
      exact reachable_step _ _ _
  | packet payload => exact Reachable.refl _ _
  | refresh => exact Reachable.refl _ _
  | loop it =>
    unfold step
    split_ifs
    · exact (moves_callbacks p it).legs s
    · exact Reachable.refl _ _
  | process t => exact (Robot.moves_onLeg p.robot t _).legs s
  | cycle t cp_start cp_end => exact (Robot.moves_onLeg p.robot t _).legs s
  | feedback t i r now => exact (Robot.moves_onLeg p.robot t _).legs s
  | shm shm =>
    have hleg : (step signed p (.shm shm)).robot.leg s = p.robot.leg s := by cases s <;> rfl
    rw [hleg]
    exact Reachable.refl _ _

lemma legs_run (p : Process) (l : List RobotOp) (s : Side) :
    Reachable LegUnit.step (p.robot.leg s) ((run (step signed) p l).robot.leg s) := by
  have hstep : ∀ (q q' : Process) (op : RobotOp),
      Reachable LegUnit.step (q.robot.leg s) (q'.robot.leg s) →
      Reachable LegUnit.step (q.robot.leg s) ((step signed q' op).robot.leg s) :=
    fun _ q' op h => h.trans (legs_step q' op s)
  exact run_relation (R := fun q q' => Reachable LegUnit.step (q.robot.leg s) (q'.robot.leg s))
    (fun q => Reachable.refl _ (q.robot.leg s)) hstep p l

/-- **The legs of a robot** are in states of histories of legs. -/
theorem leg_refines (leftBase rightBase motorsPerLeg : ℕ) (l : List RobotOp) (s : Side) :
    ∃ q, LegPower.Inv q ∧ LegRun.Refines
      ((run (step signed) (start leftBase rightBase motorsPerLeg) l).robot.leg s).st q := by
  have hlegs : Reachable LegUnit.step ((start leftBase rightBase motorsPerLeg).robot.leg s)
      ((run (step signed) (start leftBase rightBase motorsPerLeg) l).robot.leg s) :=
    legs_run _ l s
  obtain ⟨ops, hops⟩ := LegUnit.reachable_st hlegs
  cases s with
  | left =>
    obtain ⟨q, hq, hr⟩ := LegRun.refines_run leftBase motorsPerLeg ops
    exact ⟨q, LegPower.reachable_inv hq, hops ▸ hr⟩
  | right =>
    obtain ⟨q, hq, hr⟩ := LegRun.refines_run rightBase motorsPerLeg ops
    exact ⟨q, LegPower.reachable_inv hq, hops ▸ hr⟩

/-- **An iteration** sets the flag of a leg through a mode change only, and clears it where the
motor group of the leg is reported stale. -/
theorem isEnabled_loop {p : Process} (hsome : p.robot.m_shm.isSome = true) (it : Iteration)
    (s : Side) :
    ((step signed p (.loop it)).robot.leg s).leg.isEnabled =
      (((p.robot.leg s).leg.isEnabled ||
          decide (IterativeRobotBase.EnablesLegs (ModeChange.calls p.main))) &&
        !(p.robot.m_composer && decide (Composer.Reports it.stale s.group))) := by
  obtain ⟨front, hcalls, hfront, hiff⟩ :=
    p.main.base.loopFunc_calls (ModeChange.sampled p.main)
  have hfold : (step signed p (.loop it)).robot =
      (front.foldl (fun r => r.callback it) p.robot).robotPeriodic it := by
    simp only [step, hsome, if_true]
    unfold ModeChange.calls
    rw [hcalls, List.foldl_concat]
    rfl
  have hmoves : p.robot.Moves (front.foldl (fun r => r.callback it) p.robot) :=
    Robot.moves_foldl (fun r c => Robot.moves_callback r it c) front p.robot
  rw [hfold, Robot.isEnabled_robotPeriodic, Robot.isEnabled_callbacks it s hfront,
    hmoves.composer, hmoves.shm, hsome, Bool.and_true]
  have hsame : decide (IterativeRobotBase.EnablesLegs front) =
      decide (IterativeRobotBase.EnablesLegs (ModeChange.calls p.main)) :=
    decide_eq_decide.mpr hiff.symm
  rw [hsame]

/-! ### Before `robotInit` -/

/-- Without a segment nothing has been asked of the legs. -/
def IdleWithoutShm (p : Process) : Prop := p.robot.m_shm = none → ∀ s, (p.robot.leg s).Idle

/-- What a leg's thread does to one leg leaves the other idle. -/
lemma idle_onLeg {p : Process} (h : IdleWithoutShm p) (s : Side) (op : UnitOp)
    (hop : (p.robot.leg s).Idle → ((p.robot.leg s).step op).Idle) :
    IdleWithoutShm { p with robot := p.robot.onLeg s op } := by
  intro hnone t
  have hshm : p.robot.m_shm = none := by
    cases s <;> exact hnone
  have hidle := h hshm
  cases s <;> cases t
  · exact hop (hidle .left)
  · exact hidle .right
  · exact hidle .left
  · exact hop (hidle .right)

lemma idle_process {u : LegUnit} (h : u.Idle) : (u.step .process).Idle := by
  have hsame : u.step .process = u := by simp [LegUnit.step, h.queue]
  rw [hsame]
  exact h

lemma idle_controllerPeriodic {u : LegUnit} (h : u.Idle) (c : Cycle) :
    (u.step (.call (.controllerPeriodic c))).Idle := by
  obtain ⟨he, ha, hq⟩ := h
  have hcycle : (u.st.leg.controllerPeriodic c).1.1 = u.st.leg := by
    have hattached : u.st.leg.attached = false := ha
    simp [Legged.controllerPeriodic, hattached]
  have hleg : (u.step (.call (.controllerPeriodic c))).leg = u.leg := hcycle
  exact ⟨by rw [hleg, he], by rw [hleg, ha], hq⟩

lemma idle_step {p : Process} (h : IdleWithoutShm p) (op : RobotOp) :
    IdleWithoutShm (step signed p op) := by
  cases op with
  | robotInit =>
    unfold step
    split_ifs
    · exact h
    · intro hnone
      simp [Robot.robotInit, Robot.attachSharedMemory, Robot.onLegs, Robot.onLeg] at hnone
  | packet payload => exact h
  | refresh => exact h
  | loop it =>
    unfold step
    split_ifs with hsome
    · intro hnone
      have hshm := (moves_callbacks p it).shm
      rw [hsome, Option.isSome_iff_ne_none] at hshm
      exact absurd hnone hshm
    · exact h
  | process s => exact idle_onLeg h s .process idle_process
  | cycle s cp_start cp_end => exact idle_onLeg h s _ fun hidle => idle_controllerPeriodic hidle _
  | feedback s i r now =>
    exact idle_onLeg h s _ fun hidle => ⟨hidle.isEnabled, hidle.attached, hidle.queue⟩
  | shm shm =>
    intro hnone s
    have hidle := h (Option.map_eq_none_iff.mp hnone) s
    cases s <;> exact hidle

theorem idle_run (leftBase rightBase motorsPerLeg : ℕ) (l : List RobotOp) :
    IdleWithoutShm (run (step signed) (start leftBase rightBase motorsPerLeg) l) := by
  refine run_invariant (I := IdleWithoutShm) (fun _ op h => idle_step h op) ?_ l
  intro _ s
  cases s <;> exact ⟨rfl, rfl, rfl⟩

end Process

end Kuavo
