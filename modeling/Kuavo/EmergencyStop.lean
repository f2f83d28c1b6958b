import Kuavo.LegSafety
import Kuavo.Robot

/-!
What the emergency-stop flag of the segment does.

Four triggers of the main loop set it. The check of the leg that would read it is compiled
out, so a cycle runs as it would without the flag: an emergency stop reaches the motors
through the messages that the operator's buttons queue, the controller's own flag and the age
of its commands.
-/

namespace Kuavo.EmergencyStop

open Kuavo.Lib.Runs Kuavo.LegRun Kuavo.LegSafety Kuavo.MercuryShm

/-! ### The triggers -/

/-- The staleness of the IMU has lasted for more than twenty polls. -/
def imuCritical (r : Robot) (stale : UInt8) : Bool :=
  decide (stale &&& Composer.STALE_IMU ≠ 0) && decide (r.m_imu_stale_counter + 1 > 20)

/-- What makes an iteration set the flag. -/
def Triggered (r : Robot) (shm : SharedMemoryLayout) (it : Iteration) : Bool :=
  it.rising .emergency || imuCritical r it.stale || Robot.commandsStale shm it.now_ns ||
    shm.controller_emergency_stop

/-- The segment with the flag set where it was set or `b` is. -/
def withStop (b : Bool) (shm : SharedMemoryLayout) : SharedMemoryLayout :=
  { shm with emergency_stop := shm.emergency_stop || b }

lemma withStop_false (shm : SharedMemoryLayout) : withStop false shm = shm := by
  simp [withStop]

lemma withStop_withStop (a b : Bool) (shm : SharedMemoryLayout) :
    withStop b (withStop a shm) = withStop (a || b) shm := by
  simp [withStop, Bool.or_assoc]

lemma commandsStale_withStop (b : Bool) (shm : SharedMemoryLayout) (now_ns : UInt64) :
    Robot.commandsStale (withStop b shm) now_ns = Robot.commandsStale shm now_ns := rfl

lemma controller_withStop (b : Bool) (shm : SharedMemoryLayout) :
    (withStop b shm).controller_emergency_stop = shm.controller_emergency_stop := rfl

lemma shm_storeEmergencyStop (r : Robot) :
    r.storeEmergencyStop.m_shm = r.m_shm.map (withStop true) := by
  have hstop : withStop true = fun shm => { shm with emergency_stop := true } := by
    funext shm
    simp [withStop]
  rw [hstop]
  rfl

lemma map_withStop_false (o : Option SharedMemoryLayout) : o.map (withStop false) = o := by
  rcases o with _ | shm
  · rfl
  · simp [withStop_false]

lemma shm_actions (l : List Binding) (r : Robot) :
    (l.foldl Robot.action r).m_shm = r.m_shm.map (withStop (decide (.emergency ∈ l))) ∧
      (l.foldl Robot.action r).m_imu_stale_counter = r.m_imu_stale_counter := by
  induction l generalizing r with
  | nil => exact ⟨(map_withStop_false _).symm, rfl⟩
  | cons b l ih =>
    obtain ⟨hshm, hcount⟩ := ih (r.action b)
    rw [List.foldl_cons, hshm, hcount]
    cases b with
    | emergency =>
      refine ⟨?_, rfl⟩
      change (r.storeEmergencyStop.m_shm).map _ = _
      rw [shm_storeEmergencyStop, Option.map_map]
      simp [Function.comp_def, withStop_withStop]
    | enableLeftButton | disableLeftButton | enableRightButton | disableRightButton | enableAll =>
      refine ⟨?_, rfl⟩
      change r.m_shm.map _ = _
      simp

lemma shm_poll (r : Robot) (rising : Binding → Bool) :
    (r.poll rising).m_shm = r.m_shm.map (withStop (rising .emergency)) ∧
      (r.poll rising).m_imu_stale_counter = r.m_imu_stale_counter := by
  obtain ⟨hshm, hcount⟩ := shm_actions (bindings.filter rising) r
  refine ⟨?_, hcount⟩
  have hmem : decide (Binding.emergency ∈ bindings.filter rising) = rising .emergency := by
    simp [bindings, List.mem_filter]
  rw [← hmem]
  exact hshm

lemma shm_checkImu (r : Robot) (stale : UInt8) :
    (r.checkImu stale).m_shm = r.m_shm.map (withStop (imuCritical r stale)) := by
  unfold Robot.checkImu imuCritical
  split_ifs with hstale
  · simp only
    split_ifs with hcount
    · rw [shm_storeEmergencyStop]
      simp [hstale, hcount]
    · simp [hstale, hcount, map_withStop_false]
  · simp [hstale, map_withStop_false]

lemma shm_disableStaleLegs (r : Robot) (stale : UInt8) :
    (r.disableStaleLegs stale).m_shm = r.m_shm := by
  unfold Robot.disableStaleLegs
  simp only
  split_ifs <;> rfl

lemma shm_checkController (r : Robot) (shm : SharedMemoryLayout) (now_ns : UInt64) :
    (r.checkController shm now_ns).m_shm = r.m_shm.map
      (withStop (Robot.commandsStale shm now_ns || shm.controller_emergency_stop)) := by
  unfold Robot.checkController
  rcases hstale : Robot.commandsStale shm now_ns with _ | _ <;>
    rcases hstop : shm.controller_emergency_stop with _ | _
  · simp [map_withStop_false]
  · simp [shm_storeEmergencyStop]
  · simp [shm_storeEmergencyStop]
  · simp [shm_storeEmergencyStop, Function.comp_def, withStop_withStop]

/-- **The triggers.** An iteration sets the flag exactly on one of the four triggers, and
changes nothing else in the segment. -/
theorem shm_robotPeriodic {r : Robot} {shm : SharedMemoryLayout} (hc : r.m_composer = true)
    (hs : r.m_shm = some shm) (it : Iteration) :
    (r.robotPeriodic it).m_shm = some (withStop (Triggered r shm it) shm) := by
  obtain ⟨hpoll, hcount⟩ := shm_poll r it.rising
  rw [hs, Option.map_some] at hpoll
  have hcomposer := (Robot.moves_poll r it.rising).composer
  rw [hc] at hcomposer
  have hquery : ∀ r : Robot, r.queryParam.m_shm = r.m_shm := by
    intro r
    unfold Robot.queryParam
    simp only
    split_ifs <;> rfl
  have himu : imuCritical (r.poll it.rising) it.stale = imuCritical r it.stale := by
    unfold imuCritical
    rw [hcount]
  change (((r.poll it.rising).supervise it).queryParam).m_shm = _
  rw [hquery]
  simp only [Robot.supervise, hcomposer, hpoll, shm_checkController, shm_disableStaleLegs,
    shm_checkImu, himu, Option.map_some, withStop_withStop, commandsStale_withStop,
    controller_withStop]
  unfold Triggered
  rw [Bool.or_assoc, Bool.or_assoc, Bool.or_assoc]

/-! ### The cycles of a leg -/

end Kuavo.EmergencyStop
