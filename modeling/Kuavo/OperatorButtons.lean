import Kuavo.BooleanEvent
import Kuavo.Robot
import Kuavo.RobotPacket

/-!
The buttons of the operator: the events that `robotInit` of `src/Robot.cpp` builds on an event
loop, which the main loop polls in every iteration.

In `Kuavo.Robot` it is an input of an iteration which bindings fire. Here the loop of events says
so, on the buttons that the iteration finds in the caches of the driver station.
-/

namespace Kuavo.OperatorButtons

open Kuavo.Lib.Runs
open Kuavo.BooleanEvent (EventLoop Op Expr Program Shows loopAfter programOf follows_history
  poll_spec)

/-! ### The joystick -/

/-- `DriverStation::getStickButton`. The shift is undefined for a number above 32. -/
def getStickButton (buttons : HAL_JoystickButtons) (button : ℤ) : Bool :=
  if button < 1 then false else buttons.buttons.testBit (button - 1).toNat

/-- What the conditions read in a poll: the buttons of joystick 0, and whatever is where `rb` and
`start` were. Two conditions keep references to these, which are local to `robotInit`. -/
structure Read where
  buttons : HAL_JoystickButtons := {}
  rb : Bool := false
  start : Bool := false
  deriving DecidableEq

def getRawButton (button : ℤ) (x : Read) : Bool := getStickButton x.buttons button

/-- While `robotInit` runs, the references are to the events of buttons 6 and 8. -/
def alive (buttons : HAL_JoystickButtons) : Read where
  buttons := buttons
  rb := getStickButton buttons 6
  start := getStickButton buttons 8

/-! ### The configuration -/

def isSpace (c : Char) : Bool := c = ' ' || (9 ≤ c.toNat && c.toNat ≤ 13)

/-- `std::stoi`, with `none` where it throws. -/
def stoi (s : List Char) : Option ℤ :=
  let s := s.dropWhile isSpace
  let negative := s.head? = some '-'
  let s := if s.head? = some '-' ∨ s.head? = some '+' then s.tail else s
  match s.takeWhile Char.isDigit with
  | [] => none
  | digits =>
    let n := digits.foldl (fun n c => 10 * n + ((c.toNat : ℤ) - 48)) 0
    let v := if negative then -n else n
    if -2147483648 ≤ v ∧ v ≤ 2147483647 then some v else none

def buttonNumber (dsButtons : List (String × String)) (action : String) : ℤ :=
  match dsButtons.find? fun kv => kv.2 = action with
  | some kv => (stoi kv.1.toList).getD (-1)
  | none => -1

/-- The buttons that are bound one by one. -/
structure Numbers where
  btnEnableLeft : ℤ
  btnDisableLeft : ℤ
  btnEnableRight : ℤ
  btnDisableRight : ℤ

/-- What is missing in the configuration is as designed. -/
def numbers (dsButtons : List (String × String)) : Numbers :=
  let resolve := fun action design =>
    let n := buttonNumber dsButtons action
    if n ≤ 0 then design else n
  { btnEnableLeft := resolve "enable_left_leg" 1
    btnDisableLeft := resolve "disable_left_leg" 2
    btnEnableRight := resolve "enable_right_leg" 3
    btnDisableRight := resolve "disable_right_leg" 4 }

example : buttonNumber [("5x", "enable_left_leg"), ("6", "reset")] "enable_left_leg" = 5 := by
  decide +kernel

/-! ### The events -/

/-- The events of `robotInit` in the order they are built in, and their actions. The second
operand of a pair is a condition of its own: what it reads is no event of the loop. -/
def buildEvents (n : Numbers) (now : Read) : List (Op Read Binding) :=
  [.build now (.raw (getRawButton n.btnEnableLeft)),
    .build now (.raw (getRawButton n.btnDisableLeft)),
    .build now (.raw (getRawButton n.btnEnableRight)),
    .build now (.raw (getRawButton n.btnDisableRight)),
    .build now (.rising 0), .ifHigh 4 .enableLeftButton,
    .build now (.rising 1), .ifHigh 5 .disableLeftButton,
    .build now (.rising 2), .ifHigh 6 .enableRightButton,
    .build now (.rising 3), .ifHigh 7 .disableRightButton,
    -- LB and RB enable both legs
    .build now (.raw (getRawButton 5)),
    .build now (.raw (getRawButton 6)),
    .build now (.raw Read.rb), .build now (.and 8 10),
    .build now (.rising 11), .ifHigh 12 .enableAll,
    -- Back and Start are the emergency stop
    .build now (.raw (getRawButton 7)),
    .build now (.raw (getRawButton 8)),
    .build now (.raw Read.start), .build now (.and 13 15),
    .build now (.rising 16), .ifHigh 17 .emergency]

/-- The condition of a binding. -/
def up (n : Numbers) (x : Read) : Binding → Bool
  | .enableLeftButton => getRawButton n.btnEnableLeft x
  | .disableLeftButton => getRawButton n.btnDisableLeft x
  | .enableRightButton => getRawButton n.btnEnableRight x
  | .disableRightButton => getRawButton n.btnDisableRight x
  | .enableAll => getRawButton 5 x && x.rb
  | .emergency => getRawButton 7 x && x.start

/-- What fires when `last` was read before and `x` is now. -/
def rising (n : Numbers) (last x : Read) (b : Binding) : Bool := !up n last b && up n x b

/-! ### One poll -/

/-- The event behind a binding. -/
def event : Binding → ℕ
  | .enableLeftButton => 4
  | .disableLeftButton => 5
  | .enableRightButton => 6
  | .disableRightButton => 7
  | .enableAll => 12
  | .emergency => 17

/-- The expression whose rise a binding waits for. -/
def condition (n : Numbers) (now : Read) : Binding → Expr Read
  | .enableLeftButton => .raw 0 now (getRawButton n.btnEnableLeft)
  | .disableLeftButton => .raw 0 now (getRawButton n.btnDisableLeft)
  | .enableRightButton => .raw 0 now (getRawButton n.btnEnableRight)
  | .disableRightButton => .raw 0 now (getRawButton n.btnDisableRight)
  | .enableAll => .and (.raw 0 now (getRawButton 5)) (.raw 0 now Read.rb)
  | .emergency => .and (.raw 0 now (getRawButton 7)) (.raw 0 now Read.start)

lemma programOf_polls (h : List (Op Read Binding)) (polls : List Read) :
    programOf (h ++ polls.map .poll) =
      { programOf h with inputs := polls.reverse ++ (programOf h).inputs } := by
  induction polls using List.reverseRecOn with
  | nil => simp
  | append_singleton polls x ih =>
    rw [List.map_append, ← List.append_assoc, List.map_cons, List.map_nil]
    unfold programOf at ih ⊢
    rw [run_concat, ih]
    simp [Program.step]

/-- The expressions of the events, in order. -/
def exprs (n : Numbers) (now : Read) : List (Expr Read) :=
  [condition n now .enableLeftButton, condition n now .disableLeftButton,
    condition n now .enableRightButton, condition n now .disableRightButton,
    .rising 0 (condition n now .enableLeftButton), .rising 0 (condition n now .disableLeftButton),
    .rising 0 (condition n now .enableRightButton), .rising 0 (condition n now .disableRightButton),
    .raw 0 now (getRawButton 5), .raw 0 now (getRawButton 6), .raw 0 now Read.rb,
    condition n now .enableAll, .rising 0 (condition n now .enableAll),
    .raw 0 now (getRawButton 7), .raw 0 now (getRawButton 8), .raw 0 now Read.start,
    condition n now .emergency, .rising 0 (condition n now .emergency)]

lemma programOf_buildEvents (n : Numbers) (now : Read) :
    programOf (buildEvents n now) =
      { exprs := exprs n now, bound := bindings.map fun b => (event b, b), inputs := [] } := by
  simp [programOf, buildEvents, run, Program.step, BooleanEvent.Build.expr?, exprs, condition,
    bindings, event]

lemma exprs_event (n : Numbers) (now : Read) (b : Binding) :
    (exprs n now)[event b]? = some (.rising 0 (condition n now b)) := by
  cases b <;> rfl

/-- A condition means what the latest poll has read, or `robotInit` before the first one. -/
lemma meaning_condition (n : Numbers) (now : Read) (b : Binding) (inputs : List Read) :
    (condition n now b).meaning inputs = up n (inputs.head?.getD now) b := by
  cases inputs with
  | nil => cases b <;> rfl
  | cons x before =>
    have hage : ¬ (x :: before).length = 0 := by simp
    cases b <;> simp only [condition, Expr.meaning, if_neg hage] <;> rfl

/-- **One poll** runs the actions of the bindings whose conditions have risen since the poll
before, in the order of the bindings. -/
theorem poll_actions (n : Numbers) (now : Read) (polls : List Read) (x : Read) :
    ((loopAfter (buildEvents n now ++ polls.map .poll)).poll x).2 =
      bindings.filter (rising n (polls.getLast?.getD now) x) := by
  set h := buildEvents n now ++ polls.map .poll with hh
  have hfollows := follows_history h
  have hnone : Shows (loopAfter h).state [] (x :: (programOf h).inputs) :=
    fun k e he => absurd he (by simp)
  obtain ⟨hshow, -, hran⟩ := poll_spec hfollows.ordered x hnone
  have hprogram : programOf h =
      { exprs := exprs n now, bound := bindings.map fun b => (event b, b),
        inputs := polls.reverse } := by
    rw [hh, programOf_polls, programOf_buildEvents, List.append_nil]
  have hstate : ∀ b, (BooleanEvent.pollBindings x (loopAfter h).m_bindings
      (loopAfter h).state).state (event b) = rising n (polls.getLast?.getD now) x b := by
    intro b
    have hage : ¬ (x :: polls.reverse).length = 0 := by simp
    rw [hprogram] at hshow
    rw [hshow _ _ (exprs_event n now b), Expr.meaning, if_neg hage, meaning_condition,
      meaning_condition, List.head?_reverse]
    rfl
  have hactions : ((loopAfter h).poll x).2 = _ := hran
  rw [hactions, hfollows.bound, hprogram, List.filter_map, List.map_map]
  simp only [Function.comp_def, hstate, List.map_id']

/-! ### The robot with its loop of events -/

structure System where
  process : Process
  m_loop : EventLoop Read Binding := {}
  /-- What was read when the conditions were last evaluated. -/
  last : Read := {}

/-- A step of the process, and where it polls, what the two references lead to. -/
structure Turn where
  op : RobotOp
  rb : Bool := false
  start : Bool := false

def HAL_GetJoystickButtons (ds : FRCDriverStation) : HAL_JoystickButtons :=
  (ds.caches ds.currentRead).buttons

/-- What an iteration reads, once it has refreshed the data of the driver station. -/
def polled (main : ModeChange.MainLoop) (i : Turn) : Read where
  buttons := HAL_GetJoystickButtons main.ds.HAL_RefreshDSData.1
  rb := i.rb
  start := i.start

/-- `Robot::robotPeriodic`, in which the poll runs the actions `ran`. -/
def robotPeriodic (r : Robot) (it : Iteration) (ran : List Binding) : Robot :=
  let r := (((ran.foldl Robot.action r).supervise it).queryParam).onLegs (.call .robotPeriodic)
  { r with m_cycle := r.m_cycle + 1 }

/-- An iteration calls `robotPeriodic` once, so that there is one poll in it. -/
def callback (r : Robot) (it : Iteration) (ran : List Binding) : Callback → Robot
  | .robotPeriodic => robotPeriodic r it ran
  | c => r.callback it c

variable (signed : Bool) (n : Numbers)

def step (s : System) (i : Turn) : System :=
  match i.op with
  | .robotInit =>
    if s.process.robot.m_shm.isSome then s
    else
      let now := alive (HAL_GetJoystickButtons s.process.main.ds)
      { process := { s.process with robot := s.process.robot.robotInit }
        m_loop := loopAfter (buildEvents n now)
        last := now }
  | .loop it =>
    if s.process.robot.m_shm.isSome then
      let x := polled s.process.main i
      let r := s.m_loop.poll x
      { process := {
          robot := (ModeChange.calls s.process.main).foldl (fun robot => callback robot it r.2)
            s.process.robot
          main := ModeChange.step signed s.process.main .loop }
        m_loop := r.1
        last := x }
    else s
  | op => { s with process := s.process.step signed op }

def start (leftBase rightBase motorsPerLeg : ℕ) : System where
  process := .start leftBase rightBase motorsPerLeg

/-- The step as `Kuavo.Robot` has it, where what fires is an input. -/
def asRobot (s : System) (i : Turn) : RobotOp :=
  match i.op with
  | .loop it => .loop { it with rising := rising n s.last (polled s.process.main i) }
  | op => op

def trace : System → List Turn → List RobotOp
  | _, [] => []
  | s, i :: l => asRobot n s i :: trace (step signed n s i) l

/-! ### Refinement -/

/-- From `robotInit` on, the loop has the events that were built there, and `last` is what was
read last. -/
def Built (s : System) : Prop :=
  s.process.robot.m_shm.isSome = true → ∃ (now : Read) (polls : List Read),
    s.m_loop = loopAfter (buildEvents n now ++ polls.map .poll) ∧ s.last = polls.getLast?.getD now

/-- Only `robotInit` creates the segment. -/
lemma isSome_step (p : Process) {op : RobotOp} (hinit : op ≠ .robotInit) :
    (p.step signed op).robot.m_shm.isSome = p.robot.m_shm.isSome := by
  cases op with
  | robotInit => exact absurd rfl hinit
  | packet payload | refresh => rfl
  | loop it =>
    unfold Process.step
    split_ifs
    · exact (p.moves_callbacks it).shm
    · rfl
  | process t => exact (Robot.moves_onLeg p.robot t _).shm
  | cycle t cp_start cp_end => exact (Robot.moves_onLeg p.robot t _).shm
  | feedback t i r now => exact (Robot.moves_onLeg p.robot t _).shm
  | shm shm => exact Option.isSome_map

variable {n} in
/-- What polling runs is what rises. -/
lemma poll_built {s : System} (h : Built n s) (hsome : s.process.robot.m_shm.isSome = true)
    (x : Read) : (s.m_loop.poll x).2 = bindings.filter (rising n s.last x) := by
  obtain ⟨now, polls, hloop, hlast⟩ := h hsome
  rw [hloop, hlast]
  exact poll_actions n now polls x

/-- An iteration whose poll runs what rises is one of `Kuavo.Robot`. -/
lemma callback_rising (it : Iteration) (f : Binding → Bool) :
    (fun r => callback r it (bindings.filter f)) = fun r => r.callback { it with rising := f } := by
  funext r c
  cases c <;> rfl

/-- **One step** of the system is one of the robot. -/
lemma process_step {s : System} (h : Built n s) (i : Turn) :
    (step signed n s i).process = s.process.step signed (asRobot n s i) := by
  obtain ⟨op, rb, start⟩ := i
  cases op with
  | robotInit =>
    unfold step asRobot Process.step
    simp only
    split_ifs <;> rfl
  | loop it =>
    unfold step asRobot Process.step
    by_cases hsome : s.process.robot.m_shm.isSome = true
    · simp only [hsome, if_true, poll_built h hsome, callback_rising]
    · simp only [hsome]
      rfl
  | packet payload | refresh => rfl
  | process t | cycle t cp_start cp_end | feedback t i r now | shm shm => rfl

lemma built_step {s : System} (h : Built n s) (i : Turn) : Built n (step signed n s i) := by
  have hprocess := process_step signed n h i
  obtain ⟨op, rb, start⟩ := i
  -- a step that is neither `robotInit` nor an iteration leaves the loop as it is
  have hother : ∀ op : RobotOp, op ≠ .robotInit →
      Built n { s with process := s.process.step signed op } := by
    intro op hinit hsome
    rw [isSome_step signed s.process hinit] at hsome
    exact h hsome
  cases op with
  | robotInit =>
    unfold step
    simp only
    split_ifs with hsome
    · exact h
    · exact fun _ => ⟨_, [], by simp, rfl⟩
  | loop it =>
    unfold step
    simp only
    split_ifs with hsome
    · intro _
      obtain ⟨now, polls, hloop, -⟩ := h hsome
      refine ⟨now, polls ++ [polled s.process.main ⟨.loop it, rb, start⟩], ?_, by simp⟩
      rw [List.map_append, ← List.append_assoc, loopAfter, List.map_cons, List.map_nil, run_concat,
        hloop]
      rfl
    · exact h
  | packet payload => exact hother (.packet payload) (by simp)
  | refresh => exact hother .refresh (by simp)
  | process t => exact hother (.process t) (by simp)
  | cycle t cp_start cp_end => exact hother (.cycle t cp_start cp_end) (by simp)
  | feedback t j r now => exact hother (.feedback t j r now) (by simp)
  | shm shm => exact hother (.shm shm) (by simp)

lemma process_run {s : System} (h : Built n s) (l : List Turn) :
    (run (step signed n) s l).process =
      run (Process.step signed) s.process (trace signed n s l) := by
  induction l generalizing s with
  | nil => rfl
  | cons i l ih =>
    rw [run_cons, ih (built_step signed n h i), process_step signed n h i]
    rfl

/-! ### The messages of an iteration -/

def queue (r : Robot) (side : Side) : List MESSAGE := (r.leg side).send_queue_

/-- What an action sends to a leg. -/
def messagesTo (side : Side) : Binding → List MESSAGE
  | .enableLeftButton =>
    if side = .left then [makeSubsystemMessage MSG_ENABLE_SUBSYSTEM] else []
  | .disableLeftButton =>
    if side = .left then [makeSubsystemMessage MSG_DISABLE_SUBSYSTEM] else []
  | .enableRightButton =>
    if side = .right then [makeSubsystemMessage MSG_ENABLE_SUBSYSTEM] else []
  | .disableRightButton =>
    if side = .right then [makeSubsystemMessage MSG_DISABLE_SUBSYSTEM] else []
  | .enableAll => [makeSubsystemMessage MSG_ENABLE_SUBSYSTEM]
  | .emergency => [makeSubsystemMessage MSG_EMERGENCY_STOP]

/-- What a mode sends to each leg when it is entered. -/
def onEntry : Callback → List MESSAGE
  | .autonomousInit | .teleopInit => [makeSubsystemMessage MSG_ENABLE_SUBSYSTEM]
  | .driverStationConnected | .autonomousExit | .teleopExit => []
  | .autonomousPeriodic | .teleopPeriodic | .robotPeriodic => []

lemma queue_onLeg_call (r : Robot) (t : Side) (op : LegRun.LegOp) (side : Side) :
    queue (r.onLeg t (.call op)) side = queue r side := by
  cases t <;> cases side <;> rfl

lemma queue_action (r : Robot) (b : Binding) (side : Side) :
    queue (r.action b) side = queue r side ++ messagesTo side b := by
  cases b <;> cases side <;> simp [queue, messagesTo, Robot.action, Robot.onLegs, Robot.onLeg,
    Robot.leg, LegUnit.step, Robot.storeEmergencyStop]

lemma queue_actions (r : Robot) (ran : List Binding) (side : Side) :
    queue (ran.foldl Robot.action r) side = queue r side ++ ran.flatMap (messagesTo side) := by
  induction ran generalizing r with
  | nil => simp
  | cons b ran ih => rw [List.foldl_cons, ih, queue_action, List.flatMap_cons, List.append_assoc]

lemma queue_of_leg {r r' : Robot} {side : Side} (h : r'.leg side = r.leg side) :
    queue r' side = queue r side := congrArg LegUnit.send_queue_ h

lemma queue_supervise (r : Robot) (it : Iteration) (side : Side) :
    queue (r.supervise it) side = queue r side := by
  have hstale : ∀ (r : Robot) (stale : UInt8),
      queue (r.disableStaleLegs stale) side = queue r side := by
    intro r stale
    unfold Robot.disableStaleLegs
    simp only
    split_ifs <;> simp only [queue_onLeg_call]
  unfold Robot.supervise
  split
  · rw [queue_of_leg (Robot.leg_checkController _ _ _ side), hstale,
      queue_of_leg (Robot.leg_checkImu r _ side)]
  · rfl

lemma queue_queryParam (r : Robot) (side : Side) : queue r.queryParam side = queue r side := by
  unfold Robot.queryParam
  simp only
  split_ifs <;> simp only [queue_onLeg_call]

/-- `robotPeriodic` sends what its poll sends. -/
lemma queue_robotPeriodic (r : Robot) (it : Iteration) (side : Side) :
    queue (r.robotPeriodic it) side =
      queue r side ++ (bindings.filter it.rising).flatMap (messagesTo side) := by
  have hcycle : queue (r.robotPeriodic it) side =
      queue ((((r.poll it.rising).supervise it).queryParam).onLegs (.call .robotPeriodic)) side :=
    queue_of_leg (by cases side <;> rfl)
  rw [hcycle, Robot.onLegs, queue_onLeg_call, queue_onLeg_call, queue_queryParam, queue_supervise,
    Robot.poll, queue_actions]

lemma queue_callback (r : Robot) (it : Iteration) (side : Side) {c : Callback}
    (hc : c ≠ .robotPeriodic) : queue (r.callback it c) side = queue r side ++ onEntry c := by
  cases c with
  | robotPeriodic => exact absurd rfl hc
  | autonomousInit | teleopInit => cases side <;> rfl
  | driverStationConnected | autonomousExit | teleopExit => exact (List.append_nil _).symm
  | autonomousPeriodic | teleopPeriodic => exact (List.append_nil _).symm

lemma queue_callbacks (it : Iteration) (side : Side) {calls : List Callback}
    (hcalls : .robotPeriodic ∉ calls) (r : Robot) :
    queue (calls.foldl (fun r => r.callback it) r) side =
      queue r side ++ calls.flatMap onEntry := by
  induction calls generalizing r with
  | nil => simp
  | cons c calls ih =>
    obtain ⟨hc, hrest⟩ := not_or.mp (List.mem_cons.not.mp hcalls)
    rw [List.foldl_cons, ih hrest, queue_callback r it side (Ne.symm hc), List.flatMap_cons,
      List.append_assoc]

/-- An iteration sends what the mode that it enters sends, and then what fires. -/
lemma queue_loop {p : Process} (hsome : p.robot.m_shm.isSome = true) (it : Iteration)
    (side : Side) :
    queue (p.step signed (.loop it)).robot side =
      queue p.robot side ++ (ModeChange.calls p.main).flatMap onEntry ++
        (bindings.filter it.rising).flatMap (messagesTo side) := by
  obtain ⟨front, hcalls, hfront, -⟩ := p.main.base.loopFunc_calls (ModeChange.sampled p.main)
  have hall : ModeChange.calls p.main = front ++ [.robotPeriodic] := hcalls
  have hloop : (p.step signed (.loop it)).robot =
      (front.foldl (fun r => r.callback it) p.robot).robotPeriodic it := by
    simp only [Process.step, hsome, if_true, hall, List.foldl_concat]
    rfl
  rw [hloop, queue_robotPeriodic, queue_callbacks it side hfront, hall, List.flatMap_append]
  simp [onEntry]

/-! ### From a packet to the buttons -/

/-- The buttons that the next refresh leaves to be read. -/
def nextButtons (ds : FRCDriverStation) : HAL_JoystickButtons := (ds.caches ds.nextRead).buttons

lemma nextButtons_newDataOccur (ds : FRCDriverStation) (payload : Payload) :
    nextButtons (ds.newDataOccur signed payload) =
      JoystickDataCache.HAL_GetJoystickButtonsInternal signed payload
        (ds.caches ds.cacheToUpdate).buttons := by
  cases hc : ds.currentCache <;>
    simp [nextButtons, FRCDriverStation.newDataOccur, FRCDriverStation.nextRead, hc,
      JoystickDataCache.Update]

/-- A refresh makes them the ones that are read, also where it zeroes the control word. -/
lemma buttons_refresh (ds : FRCDriverStation) :
    HAL_GetJoystickButtons ds.HAL_RefreshDSData.1 = nextButtons ds ∧
      nextButtons ds.HAL_RefreshDSData.1 = nextButtons ds := by
  cases hatt : (ds.caches ds.lastGiven).controlWord.dsAttached with
  | false =>
    rw [FRCDriverStation.refresh_detached hatt]
    simp [HAL_GetJoystickButtons, nextButtons, FRCDriverStation.nextRead]
  | true =>
    rw [FRCDriverStation.refresh_attached hatt]
    exact ⟨rfl, rfl⟩

def Turn.packet? (i : Turn) : Option Payload :=
  match i.op with
  | .packet payload => some payload
  | _ => none

/-- The latest packet of a run. -/
def lastPacket (l : List Turn) : Option Payload := (l.filterMap Turn.packet?).getLast?

/-- A step that brings no packet leaves the buttons to be read as they are. -/
lemma nextButtons_step (s : System) {i : Turn} (hi : i.packet? = none) :
    nextButtons (step signed n s i).process.main.ds = nextButtons s.process.main.ds := by
  obtain ⟨op, rb, start⟩ := i
  cases op with
  | packet payload => exact absurd hi (by simp [Turn.packet?])
  | robotInit =>
    unfold step
    simp only
    split_ifs <;> rfl
  | refresh => exact (buttons_refresh s.process.main.ds).2
  | loop it =>
    unfold step
    simp only
    split_ifs
    · exact (buttons_refresh s.process.main.ds).2
    · rfl
  | process t | cycle t cp_start cp_end | feedback t j r now | shm shm => rfl

/-- **Buttons.** What the latest packet says of the buttons is what the next iteration reads. -/
lemma nextButtons_run {s : System} {l : List Turn} {payload : Payload}
    (hlast : lastPacket l = some payload) {buttons : HAL_JoystickButtons}
    (hread : ∀ old, JoystickDataCache.HAL_GetJoystickButtonsInternal signed payload old = buttons) :
    nextButtons (run (step signed n) s l).process.main.ds = buttons := by
  induction l using List.reverseRecOn with
  | nil => exact absurd hlast (by simp [lastPacket])
  | append_singleton l i ih =>
    rw [run_concat]
    unfold lastPacket at hlast ih
    rw [List.filterMap_append] at hlast
    cases hi : i.packet? with
    | none =>
      rw [nextButtons_step signed n _ hi]
      refine ih ?_
      simpa [hi] using hlast
    | some latest =>
      obtain rfl : latest = payload := by simpa [hi] using hlast
      obtain ⟨op, rb, start⟩ := i
      cases op with
      | packet payload =>
        obtain rfl : payload = latest := Option.some.inj hi
        exact (nextButtons_newDataOccur signed _ payload).trans (hread _)
      | _ => exact absurd hi (by simp [Turn.packet?])

/-! ### From the generator to the packet -/

open PackageGenerator RobotPacket

/-- The button of the generator's joystick is pressed. -/
def pressed (j : Joystick) (button : ℤ) : Bool :=
  decide (1 ≤ button) && j.buttons[(button - 1).toNat]?.any (· ≠ 0)

/-- The flags of the buttons, the first of them at bit `m`. -/
def flagsFrom (buttons : List ℤ) (m : ℕ) : ℕ :=
  ((buttons.zipIdx m).map fun p => if p.1 ≠ 0 then 2 ^ p.2 else 0).sum

lemma flagsFrom_succ (buttons : List ℤ) (m : ℕ) :
    flagsFrom buttons (m + 1) = 2 * flagsFrom buttons m := by
  induction buttons generalizing m with
  | nil => rfl
  | cons x buttons ih =>
    have hcons : ∀ m, flagsFrom (x :: buttons) m =
        (if x ≠ 0 then 2 ^ m else 0) + flagsFrom buttons (m + 1) := fun m => rfl
    rw [hcons, hcons, ih (m + 1)]
    split_ifs <;> ring

lemma flagsFrom_cons (x : ℤ) (buttons : List ℤ) :
    flagsFrom (x :: buttons) 0 = (if x ≠ 0 then 1 else 0) + 2 * flagsFrom buttons 0 := by
  rw [← flagsFrom_succ]
  rfl

lemma flagsFrom_lt (buttons : List ℤ) : flagsFrom buttons 0 < 2 ^ buttons.length := by
  induction buttons with
  | nil => exact Nat.one_pos
  | cons x buttons ih =>
    rw [flagsFrom_cons, List.length_cons, pow_succ]
    split_ifs <;> omega

lemma testBit_flagsFrom (buttons : List ℤ) (k : ℕ) :
    (flagsFrom buttons 0).testBit k = buttons[k]?.any (· ≠ 0) := by
  induction buttons generalizing k with
  | nil => simp [flagsFrom]
  | cons x buttons ih =>
    rw [flagsFrom_cons]
    cases k with
    | zero =>
      rw [Nat.testBit_zero]
      by_cases hx : x = 0 <;> simp [hx]
    | succ k =>
      have hhalf : ((if x ≠ 0 then 1 else 0) + 2 * flagsFrom buttons 0) / 2 =
          flagsFrom buttons 0 := by
        split_ifs <;> omega
      rw [Nat.testBit_succ, hhalf, ih]
      rfl

/-- The flags have a bit for each button that is pressed. -/
lemma getStickButton_flags (j : Joystick) (count : ℕ) (button : ℤ) :
    getStickButton ⟨j.button_flags, count⟩ button = pressed j button := by
  have hlt : flagsFrom j.buttons 0 < 2 ^ 16 :=
    (flagsFrom_lt j.buttons).trans_le (Nat.pow_le_pow_right (by decide) j.buttons_length_le)
  have hflags : j.button_flags = flagsFrom j.buttons 0 := Nat.mod_eq_of_lt hlt
  unfold getStickButton pressed
  by_cases hbutton : button < 1
  · rw [if_pos hbutton, decide_eq_false (by omega), Bool.false_and]
  · rw [if_neg hbutton, decide_eq_true (by omega), Bool.true_and, hflags, testBit_flagsFrom]

/-- Behind a time block the buttons are read from the packet, whatever was there before. -/
lemma buttons_of_located {payload : Payload} {j : Joystick} (h : Located payload j)
    (old old' : HAL_JoystickButtons) :
    JoystickDataCache.HAL_GetJoystickButtonsInternal signed payload old =
      JoystickDataCache.HAL_GetJoystickButtonsInternal signed payload old' := by
  have hhead : HeadReadsAs payload j := ⟨h.head.1, h.head.2⟩
  rw [hhead.buttons_eq, hhead.buttons_eq]

/-- The low byte of a word of two `char`s is that of the packet, for either sign of `char`. -/
lemma mod_of_chars (hi lo : UInt8) :
    ((charValue signed hi * 256 + charValue signed lo) % 2 ^ 32).toNat % 2 ^ 8 = lo.toNat := by
  have hlo := lo.toNat_lt
  have hvalue : charValue signed lo = lo.toNat ∨ charValue signed lo = lo.toNat - 256 := by
    cases signed with
    | false => exact Or.inl (charValue_unsigned lo)
    | true =>
      rw [charValue_signed]
      split_ifs
      · exact Or.inl rfl
      · exact Or.inr rfl
  omega

/-- A word of two `char`s that have the same value for either sign of `char`, or have none. -/
lemma word_of_chars {hi lo : UInt8} (hsmall : signed = true → hi.toNat < 128 ∧ lo.toNat < 128) :
    ((charValue signed hi * 256 + charValue signed lo) % 2 ^ 32).toNat =
      hi.toNat * 256 + lo.toNat := by
  have hvalue : ∀ b : UInt8, (signed = true → b.toNat < 128) → charValue signed b = b.toNat := by
    intro b hb
    cases signed with
    | false => exact charValue_unsigned b
    | true => exact charValue_small true ((small_iff b).mpr (hb rfl))
  have hhi := hi.toNat_lt
  have hlo := lo.toNat_lt
  rw [hvalue hi fun hs => (hsmall hs).1, hvalue lo fun hs => (hsmall hs).2]
  omega

/-- The first eight buttons are the bits of the low byte. -/
lemma getStickButton_congr {x y : ℕ} (hmod : x % 2 ^ 8 = y % 2 ^ 8) {button : ℤ}
    (hbutton : button ≤ 8) (count : ℕ) :
    getStickButton ⟨x, count⟩ button = getStickButton ⟨y, count⟩ button := by
  unfold getStickButton
  split_ifs with hsmall
  · rfl
  · have hbit : (button - 1).toNat < 8 := by omega
    have htest : ∀ z : ℕ, z.testBit (button - 1).toNat =
        (z % 2 ^ 8).testBit (button - 1).toNat := fun z => by
      rw [Nat.testBit_mod_two_pow, decide_eq_true hbit, Bool.true_and]
    rw [htest x, hmod, ← htest y]

/-- Nothing of the buttons depends on the sign of `char`: their bytes have the same value for
either, or `char` has none. -/
def SignFree (j : Joystick) : Prop :=
  signed = true → j.button_flags / 256 < 128 ∧ j.button_flags % 256 < 128

/-- Behind a time block a button is read as the generator has it, if it is one of the first eight
or nothing depends on the sign of `char`. -/
lemma getStickButton_of_located {payload : Payload} {j : Joystick} (h : Located payload j)
    {button : ℤ} (hchar : button ≤ 8 ∨ SignFree signed j) (old : HAL_JoystickButtons) :
    getStickButton (JoystickDataCache.HAL_GetJoystickButtonsInternal signed payload old) button =
      pressed j button := by
  have hhead : HeadReadsAs payload j := ⟨h.head.1, h.head.2⟩
  obtain ⟨-, hhigh, hlow, -⟩ := h.counts
  rw [hhead.buttons_eq, ← getStickButton_flags j (payload (JOYSTICK_POS + 3 + j.axes.length)).toNat]
  rcases hchar with hbutton | hfree
  · refine getStickButton_congr ?_ hbutton _
    rw [mod_of_chars, hlow]
    rfl
  · rw [word_of_chars signed (by rw [hhigh, hlow]; exact hfree), hhigh, hlow, Nat.div_add_mod']

/-! ### The operator -/

/-- What the joystick asks for, and what the two references lead to. -/
def asked (j : Joystick) (i : Turn) : Binding → Bool
  | .enableLeftButton => pressed j n.btnEnableLeft
  | .disableLeftButton => pressed j n.btnDisableLeft
  | .enableRightButton => pressed j n.btnEnableRight
  | .disableRightButton => pressed j n.btnDisableRight
  | .enableAll => pressed j 5 && i.rb
  | .emergency => pressed j 7 && i.start

/-- The button of the joystick that a binding reads. -/
def number : Binding → ℤ
  | .enableLeftButton => n.btnEnableLeft
  | .disableLeftButton => n.btnDisableLeft
  | .enableRightButton => n.btnEnableRight
  | .disableRightButton => n.btnDisableRight
  | .enableAll => 5
  | .emergency => 7

lemma built_start (leftBase rightBase motorsPerLeg : ℕ) :
    Built n (start leftBase rightBase motorsPerLeg) := by
  intro hsome
  exact absurd hsome (by simp [start, Process.start, Robot.construct])

lemma built_run {s : System} (h : Built n s) (l : List Turn) :
    Built n (run (step signed n) s l) :=
  run_invariant (I := Built n) (fun _ i h => built_step signed n h i) h l

/-- **The loop of events is the input of the robot.** Every run of the robot with its loop of
events is a run of the robot in which exactly those bindings fire in an iteration whose
conditions hold on what it reads, and did not on what was read before. -/
theorem operator_refines (leftBase rightBase motorsPerLeg : ℕ) (l : List Turn) :
    (run (step signed n) (start leftBase rightBase motorsPerLeg) l).process =
      run (Process.step signed) (.start leftBase rightBase motorsPerLeg)
        (trace signed n (start leftBase rightBase motorsPerLeg) l) :=
  process_run signed n (built_start n leftBase rightBase motorsPerLeg) l

/-- **A binding fires in an iteration** if the joystick of the latest packet asks for it and what
was read before did not. -/
lemma rising_of_packet {s : System} {l : List Turn} {settings : Settings} {j : Joystick}
    {js : List Joystick} {payload : Payload} (hlast : lastPacket l = some payload)
    (hext : Extends payload (create_robot_packet settings)) (htime : settings.send_time_data = true)
    (hsent : 5 < settings.sent_robot_packets) (hjs : settings.joysticks = j :: js) (i : Turn)
    {b : Binding} (hchar : number n b ≤ 8 ∨ SignFree signed j) :
    let sys := run (step signed n) s l
    rising n sys.last (polled sys.process.main i) b = (!up n sys.last b && asked n j i b) := by
  intro sys
  have hlocated : Located payload j := located_of_time hext htime hsent hjs
  have hread : (polled sys.process.main i).buttons =
      JoystickDataCache.HAL_GetJoystickButtonsInternal signed payload {} :=
    (buttons_refresh _).1.trans (nextButtons_run signed n hlast
      fun old => buttons_of_located signed hlocated old {})
  have hraw : getRawButton (number n b) (polled sys.process.main i) = pressed j (number n b) := by
    rw [getRawButton, hread, getStickButton_of_located signed hlocated hchar]
  have hup : up n (polled sys.process.main i) b = asked n j i b := by
    cases b <;> simp only [number] at hraw <;> simp only [up, asked, hraw] <;> rfl
  rw [rising, hup]

/-- **From the joystick to the legs.** When the latest packet is one of the generator, with a
time block and joystick data, an iteration sends to a leg what the mode sends that it enters, and
then the messages of the bindings that the joystick of the packet asks for, together with what
the two references lead to, and what was read before did not. The bindings read one of the first
eight buttons, or nothing of the buttons depends on the sign of `char`. -/
theorem operator_messages (leftBase rightBase motorsPerLeg : ℕ) (l : List Turn) (s : Settings)
    (j : Joystick) (js : List Joystick) (payload : Payload) (hlast : lastPacket l = some payload)
    (hext : Extends payload (create_robot_packet s)) (htime : s.send_time_data = true)
    (hsent : 5 < s.sent_robot_packets) (hjs : s.joysticks = j :: js)
    (hchar : ∀ b, number n b ≤ 8 ∨ SignFree signed j)
    (i : Turn) (it : Iteration) (hop : i.op = .loop it)
    (hsome : (run (step signed n) (start leftBase rightBase motorsPerLeg)
      l).process.robot.m_shm.isSome = true) (side : Side) :
    let sys := run (step signed n) (start leftBase rightBase motorsPerLeg) l
    queue (step signed n sys i).process.robot side =
      queue sys.process.robot side ++ (ModeChange.calls sys.process.main).flatMap onEntry ++
        (bindings.filter fun b => !up n sys.last b && asked n j i b).flatMap (messagesTo side) := by
  intro sys
  have hbuilt : Built n sys := built_run signed n (built_start n leftBase rightBase motorsPerLeg) l
  have hrising : rising n sys.last (polled sys.process.main i) =
      fun b => !up n sys.last b && asked n j i b :=
    funext fun b => rising_of_packet signed n hlast hext htime hsent hjs i (hchar b)
  rw [process_step signed n hbuilt i, asRobot, hop]
  simp only
  rw [queue_loop signed hsome, hrising]

/-- The first button of the generator's joystick is held: the iteration enters teleoperation, and
the left leg is asked twice to be enabled. -/
theorem operator_messages_once :
    (queue (step true (numbers []) (run (step true (numbers [])) (start 1 7 6)
      [⟨.robotInit, false, false⟩,
        ⟨.packet (ofBytes (create_robot_packet (timed buttonAndHat))), false, false⟩])
      ⟨.loop {}, false, false⟩).process.robot .left).map MESSAGE.type =
      [MSG_ENABLE_SUBSYSTEM, MSG_ENABLE_SUBSYSTEM] := by
  have h := operator_messages true (numbers []) 1 7 6
    [⟨.robotInit, false, false⟩,
      ⟨.packet (ofBytes (create_robot_packet (timed buttonAndHat))), false, false⟩]
    (timed buttonAndHat) buttonAndHat [] _ rfl (extends_ofBytes _) rfl (by decide) rfl
    (fun b => Or.inl (by cases b <;> decide)) ⟨.loop {}, false, false⟩ {} rfl rfl .left
  rw [h]
  decide +kernel

end Kuavo.OperatorButtons
