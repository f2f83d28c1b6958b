import Kuavo.DriverStation

/-!
`IterativeRobotBase::loopFunc`: which functions of the robot one iteration of the main loop
calls.
-/

namespace Kuavo

inductive Mode | kNone | kAutonomous | kTeleop
  deriving DecidableEq

/-- The functions that a robot overrides. -/
inductive Callback
  | driverStationConnected
  | autonomousInit | teleopInit
  | autonomousExit | teleopExit
  | autonomousPeriodic | teleopPeriodic
  | robotPeriodic
  deriving DecidableEq

structure IterativeRobotBase where
  m_lastMode : Mode := .kNone
  m_calledDsConnected : Bool := false

/-- The mode that a control word asks for, enabled or not. -/
def modeOf (word : HAL_ControlWord) : Mode :=
  if DSControlWord.isAutonomous word then .kAutonomous
  else if DSControlWord.isTeleop word then .kTeleop
  else .kNone

namespace Mode

def init : Mode → List Callback
  | .kNone => []
  | .kAutonomous => [.autonomousInit]
  | .kTeleop => [.teleopInit]

def exit : Mode → List Callback
  | .kNone => []
  | .kAutonomous => [.autonomousExit]
  | .kTeleop => [.teleopExit]

def periodic : Mode → List Callback
  | .kNone => []
  | .kAutonomous => [.autonomousPeriodic]
  | .kTeleop => [.teleopPeriodic]

end Mode

namespace IterativeRobotBase

/-- One iteration on the control word it sampled: the state after it, and the calls in order. -/
def loopFunc (b : IterativeRobotBase) (word : HAL_ControlWord) :
    IterativeRobotBase × List Callback :=
  let mode := modeOf word
  let connected := !b.m_calledDsConnected && DSControlWord.isDSAttached word
  ({ m_lastMode := mode, m_calledDsConnected := b.m_calledDsConnected || connected },
    (if connected then [.driverStationConnected] else []) ++
      (if b.m_lastMode ≠ mode then b.m_lastMode.exit ++ mode.init else []) ++
      mode.periodic ++ [.robotPeriodic])

@[simp] lemma loopFunc_lastMode (b : IterativeRobotBase) (word : HAL_ControlWord) :
    (b.loopFunc word).1.m_lastMode = modeOf word := rfl

/-- The calls that enable the legs. -/
def EnablesLegs (calls : List Callback) : Prop :=
  .autonomousInit ∈ calls ∨ .teleopInit ∈ calls

instance (calls : List Callback) : Decidable (EnablesLegs calls) :=
  inferInstanceAs (Decidable (_ ∨ _))

lemma enablesLegs_cons (c : Callback) (calls : List Callback) :
    EnablesLegs (c :: calls) ↔
      (c = .autonomousInit ∨ c = .teleopInit) ∨ EnablesLegs calls := by
  unfold EnablesLegs
  rw [List.mem_cons, List.mem_cons, eq_comm, @eq_comm _ Callback.teleopInit]
  exact or_or_or_comm

/-- An iteration ends with its only call of `robotPeriodic`. -/
lemma loopFunc_calls (b : IterativeRobotBase) (word : HAL_ControlWord) :
    ∃ front, (b.loopFunc word).2 = front ++ [.robotPeriodic] ∧ .robotPeriodic ∉ front ∧
      (EnablesLegs (b.loopFunc word).2 ↔ EnablesLegs front) := by
  refine ⟨_, rfl, ?_, ?_⟩
  · rcases modeOf word <;> rcases b.m_lastMode <;>
      rcases (!b.m_calledDsConnected && DSControlWord.isDSAttached word) <;>
      simp [Mode.init, Mode.exit, Mode.periodic]
  · change EnablesLegs (_ ++ [.robotPeriodic]) ↔ _
    simp [EnablesLegs]

/-- An iteration enables the legs exactly on a change into a mode. -/
lemma enablesLegs_loopFunc (b : IterativeRobotBase) (word : HAL_ControlWord) :
    EnablesLegs (b.loopFunc word).2 ↔ modeOf word ≠ .kNone ∧ b.m_lastMode ≠ modeOf word := by
  unfold EnablesLegs loopFunc
  simp only
  have hconn : ∀ c : Callback, c ≠ .driverStationConnected →
      c ∉ (if (!b.m_calledDsConnected && DSControlWord.isDSAttached word) = true
        then [Callback.driverStationConnected] else []) := by
    intro c hc
    split_ifs
    · simpa using hc
    · simp
  have hauto := hconn .autonomousInit (by decide)
  have htele := hconn .teleopInit (by decide)
  rcases hm : modeOf word <;> rcases hl : b.m_lastMode <;>
    simp_all [Mode.init, Mode.exit, Mode.periodic]

end IterativeRobotBase

end Kuavo
