import Kuavo.LegAccesses
import Kuavo.LegSafety
import Kuavo.Robot

/-!
The number of motors per leg, from the configuration file to the arrays of a cycle.

Any number is taken. The joints of a command are looked up behind a check of their index, the
arrays of the staged record are not.
-/

namespace Kuavo.MotorsPerLeg

open Kuavo.LegAccesses Kuavo.LegRun Kuavo.LegSafety Kuavo.Lib.Runs Kuavo.MercuryShm

/-- `Config::load` takes any integer; a file that names none leaves the default. -/
def load (motors_per_leg : Option Int32) : Int32 := motors_per_leg.getD 0

/-- The base ids of the configuration. -/
def baseId : Side → ℕ
  | .left => 1
  | .right => 7

/-- What the constructor's loop compares `idx` with. A sum past the range of an `int` is
undefined. -/
def idxEnd (undef : Int32) (baseId : ℕ) (motorsPerLeg : Int32) : ℤ :=
  if baseId + motorsPerLeg.toInt < 0x80000000 then baseId + motorsPerLeg.toInt else undef.toInt

/-- How many motors the constructor's loop adds. -/
def motorCount (undef : Int32) (baseId : ℕ) (motorsPerLeg : Int32) : ℕ :=
  (idxEnd undef baseId motorsPerLeg - baseId).toNat

/-- A leg after some operations. -/
def leg (undef motorsPerLeg : Int32) (s : Side) (ops : List LegOp) : Legged :=
  (run step (start (baseId s) (motorCount undef (baseId s) motorsPerLeg)) ops).leg

/-- Some cycle of some history of the leg makes the access. -/
def Touches (undef motorsPerLeg : Int32) (s : Side) (a : LegAccess) : Prop :=
  ∃ ops m cp_start cp_end,
    a ∈ (controllerPeriodic (leg undef motorsPerLeg s ops) m cp_start cp_end).log

/-- The cycles of both legs keep to the arrays, and share no joint. -/
structure WithinLayouts (motorsPerLeg : Int32) : Prop where
  stage : ∀ undef s i, Touches undef motorsPerLeg s (.stage i) → i < MOTORS_PER_GROUP
  command : ∀ undef s j, Touches undef motorsPerLeg s (.command j) → j < NUM_ACT_JOINT
  disjoint : ∀ undef j, Touches undef motorsPerLeg .left (.dispatched j) →
    ¬ Touches undef motorsPerLeg .right (.dispatched j)

/-! ### The motors of a leg -/

lemma step_groupOffset (st : LegState) (op : LegOp) :
    (step st op).leg.m_groupOffset = st.leg.m_groupOffset := by
  have hsetEnable : ∀ (l : Legged) b, (l.setEnable b).1.m_groupOffset = l.m_groupOffset := by
    intro l b
    unfold Legged.setEnable
    split_ifs <;> rfl
  change (apply st.leg op).1.m_groupOffset = _
  cases op with
  | onMessage message =>
    change (st.leg.onMessage message).1.m_groupOffset = _
    unfold Legged.onMessage
    split_ifs
    · exact hsetEnable _ _
    · exact hsetEnable _ _
    · exact hsetEnable _ _
    · rfl
  | setEnable b => exact hsetEnable _ _
  | disabledInit => rfl
  | autonomousInit => exact hsetEnable _ _
  | teleopInit => exact hsetEnable _ _
  | robotPeriodic => rfl
  | controllerPeriodic c =>
    cases hr : st.leg.faultReason c with
    | none => exact (Legged.controllerPeriodic_no_fault hr).1.m_groupOffset
    | some reason => exact (Legged.controllerPeriodic_fault hr).1.m_groupOffset
  | setShmPointers shm staging => rfl
  | getRegParam i RID => rfl
  | feedback i r now => rfl

variable {undef motorsPerLeg : Int32} {s : Side}

/-- The first joint of a leg is the one it was built with. -/
lemma leg_groupOffset (ops : List LegOp) :
    (leg undef motorsPerLeg s ops).m_groupOffset = if baseId s = 1 then 0 else MOTORS_PER_GROUP :=
  run_relation (R := fun st st' => st'.leg.m_groupOffset = st.leg.m_groupOffset) (fun _ => rfl)
    (fun _ st op hst => (step_groupOffset st op).trans hst)
    (start (baseId s) (motorCount undef (baseId s) motorsPerLeg)) ops

lemma leg_motors_length (ops : List LegOp) :
    (leg undef motorsPerLeg s ops).motors.length = motorCount undef (baseId s) motorsPerLeg := by
  have hids := run_ids (start (baseId s) (motorCount undef (baseId s) motorsPerLeg)) ops
  have hlength := congrArg List.length hids
  unfold Legged.ids at hlength
  simpa [start, Legged.construct, leg] using hlength

/-- A sum that fits in an `int` leads to as many motors as were asked for. -/
lemma motorCount_of_le (h : motorsPerLeg.toInt ≤ MOTORS_PER_GROUP) :
    motorCount undef (baseId s) motorsPerLeg ≤ MOTORS_PER_GROUP := by
  have hbase : baseId s ≤ 7 := by cases s <;> decide
  unfold motorCount idxEnd
  unfold MOTORS_PER_GROUP at h ⊢
  split_ifs <;> omega

/-- With more, the left leg has a motor too many, whatever an overflow leads to. -/
lemma lt_motorCount (h : MOTORS_PER_GROUP < motorsPerLeg.toInt) :
    MOTORS_PER_GROUP < motorCount 0x7FFFFFFF (baseId .left) motorsPerLeg := by
  have hundef : (0x7FFFFFFF : Int32).toInt = 0x7FFFFFFF := rfl
  have hbase : baseId .left = 1 := rfl
  unfold motorCount idxEnd
  rw [hundef, hbase]
  unfold MOTORS_PER_GROUP at h ⊢
  split_ifs <;> omega

/-! ### What the cycles of a leg touch -/

lemma touches_bounded {a : LegAccess} (h : Touches undef motorsPerLeg s a) :
    ∃ ops, Bounded (leg undef motorsPerLeg s ops) a := by
  obtain ⟨ops, m, cp_start, cp_end, ha⟩ := h
  exact ⟨ops, bounded_controllerPeriodic _ m cp_start cp_end a ha⟩

/-- The check of the index keeps every lookup inside the command. -/
lemma command_lt {j : ℕ} (h : Touches undef motorsPerLeg s (.command j)) : j < NUM_ACT_JOINT := by
  obtain ⟨ops, -, hj⟩ := touches_bounded h
  exact hj

lemma stage_lt {i : ℕ} (h : Touches undef motorsPerLeg s (.stage i)) :
    i < motorCount undef (baseId s) motorsPerLeg := by
  obtain ⟨ops, hi⟩ := touches_bounded h
  exact lt_of_lt_of_eq hi (leg_motors_length ops)

lemma dispatched_eq {j : ℕ} (h : Touches undef motorsPerLeg s (.dispatched j)) :
    ∃ i < motorCount undef (baseId s) motorsPerLeg,
      j = (if baseId s = 1 then 0 else MOTORS_PER_GROUP) + i := by
  obtain ⟨ops, ⟨i, hi, hj⟩, -⟩ := touches_bounded h
  refine ⟨i, lt_of_lt_of_eq hi (leg_motors_length ops), ?_⟩
  rw [hj, leg_groupOffset]

/-- The segment of a controller that commands every joint. -/
def goodSegment : Segment := ⟨goodShm, fun _ => {}⟩

/-- A leg that was given its pointers fills an entry for every motor. -/
lemma touches_stage {i : ℕ} (h : i < motorCount undef (baseId s) motorsPerLeg) :
    Touches undef motorsPerLeg s (.stage i) := by
  have hlength : i < (leg undef motorsPerLeg s [.setShmPointers true true]).motors.length :=
    lt_of_lt_of_eq h (leg_motors_length _).symm
  exact ⟨[.setShmPointers true true], goodSegment, 0, 0,
    stage_mem_log rfl (by decide) rfl hlength 0 0⟩

/-- **When the legs keep to their arrays**, for every number of motors in the configuration:
exactly up to the six that the records are made for. -/
theorem withinLayouts_iff (motors_per_leg : Option Int32) :
    WithinLayouts (load motors_per_leg) ↔ (load motors_per_leg).toInt ≤ MOTORS_PER_GROUP := by
  constructor
  · intro h
    by_contra hnot
    have hcount := lt_motorCount (not_le.mp hnot)
    exact absurd (h.stage 0x7FFFFFFF .left MOTORS_PER_GROUP (touches_stage hcount)) (by decide)
  · intro h
    refine ⟨fun undef s i hi => ?_, fun _ _ _ => command_lt, fun undef j hleft hright => ?_⟩
    · exact lt_of_lt_of_le (stage_lt hi) (motorCount_of_le h)
    · obtain ⟨i, hi, hj⟩ := dispatched_eq hleft
      obtain ⟨i', -, hj'⟩ := dispatched_eq hright
      have hle : motorCount undef (baseId .left) _ ≤ MOTORS_PER_GROUP := motorCount_of_le h
      simp only [baseId, if_true] at hi hle hj
      simp only [baseId, OfNat.ofNat_ne_one, if_false] at hj'
      omega

/-- With seven motors per leg, the left leg stages an entry behind the arrays, and both legs
dispatch the right leg's first joint. -/
theorem seven_motors :
    load (some 7) = 7 ∧ Touches 0 7 .left (.stage MOTORS_PER_GROUP) ∧
      Touches 0 7 .left (.dispatched 6) ∧ Touches 0 7 .right (.dispatched 6) ∧
      ¬ ∀ motors_per_leg, WithinLayouts (load motors_per_leg) := by
  have hstage : Touches 0 7 .left (.stage MOTORS_PER_GROUP) := touches_stage (by decide)
  have hjoint : ∀ s, Touches 0 7 s (.dispatched 6) := fun s =>
    ⟨[.setShmPointers true true, .setEnable true], goodSegment, 0, 0, by cases s <;> decide⟩
  exact ⟨rfl, hstage, hjoint .left, hjoint .right, fun h =>
    absurd ((h (some 7)).stage 0 .left _ hstage) (by decide)⟩

end Kuavo.MotorsPerLeg
