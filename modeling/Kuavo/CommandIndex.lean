import Kuavo.BatchPipeline
import Kuavo.LegAccesses
import Kuavo.LegSafety
import Kuavo.Robot

/-!
The index of the command buffers, which another process writes, and its three readers.

A leg and the main loop look at the index before they use it. The Composer does not.
-/

namespace Kuavo.CommandIndex

open Kuavo.Lib Kuavo.Lib.Logged Kuavo.Lib.Copy Kuavo.BatchLog Kuavo.LegAccesses Kuavo.LegSafety
open Kuavo.MercuryShm

/-- An entry of `cmd_buffers` that a reader other than a leg takes. -/
abbrev BufferAccess := UInt32

/-! ### The readers -/

/-- `cmd_buffers[crb]` for the index as it is found. -/
def readBuffer (m : Segment) : Logged BufferAccess Command :=
  access m.shm.cmd_write_idx (m.cmd_buffers m.shm.cmd_write_idx)

/-- The part of `robotPeriodic` that looks at the commands of the controller. -/
def checkController (r : Robot) (m : Segment) (now_ns : UInt64) : Logged BufferAccess Robot := do
  let stale ←
    if m.shm.cmd_write_idx ≤ 1 then do
      let cmd ← readBuffer m
      pure (cmd.timestamp_ns > 0 &&
        (cmd.timestamp_ns > now_ns || now_ns - cmd.timestamp_ns > HEARTBEAT_STALE_NS) : Bool)
    else
      pure false
  let r := if stale then r.storeEmergencyStop else r
  return if m.shm.controller_emergency_stop then r.storeEmergencyStop else r

def supervise (r : Robot) (behind : UInt32 → Command) (it : Iteration) :
    Logged BufferAccess Robot :=
  match r.m_composer, r.m_shm with
  | true, some shm =>
    checkController ((r.checkImu it.stale).disableStaleLegs it.stale) ⟨shm, behind⟩ it.now_ns
  | _, _ => pure r

def robotPeriodic (r : Robot) (behind : UInt32 → Command) (it : Iteration) :
    Logged BufferAccess Robot := do
  let r ← supervise (r.poll it.rising) behind it
  let r := r.queryParam.onLegs (.call .robotPeriodic)
  return { r with m_cycle := r.m_cycle + 1 }

variable {L : Layout BatchLogRecord} (bytes : Command → Vector UInt8 sizeof_Command)

/-- The end of a compose cycle, once the sensor data is there. -/
def compose_cycle (s : BatchPipeline.System L) (m : Segment)
    (sensor : Vector UInt8 sizeof_SensorData) (now : UInt64) :
    Logged BufferAccess (BatchPipeline.System L) := do
  let cmd ← readBuffer m
  return BatchPipeline.compose_cycle s ⟨sensor, bytes cmd⟩ now

/-- The logged check does what the check does. -/
lemma value_checkController (r : Robot) (m : Segment) (now_ns : UInt64) :
    (checkController r m now_ns).value = r.checkController m.shm now_ns := by
  unfold checkController Robot.checkController Robot.commandsStale
  by_cases hidx : m.shm.cmd_write_idx ≤ 1
  · simp only [hidx, if_true, Segment.currentCommand?_of_le hidx, readBuffer, value_bind,
      value_access, value_pure]
    rfl
  · simp only [hidx, if_false, currentCommand?_of_lt (UInt32.not_le.mp hidx), value_bind,
      value_pure]

theorem value_robotPeriodic (r : Robot) (behind : UInt32 → Command) (it : Iteration) :
    (robotPeriodic r behind it).value = r.robotPeriodic it := by
  have hsupervise : ∀ r : Robot, (supervise r behind it).value = r.supervise it := fun r => by
    unfold supervise Robot.supervise
    cases r.m_composer with
    | false => rfl
    | true =>
      cases r.m_shm with
      | none => rfl
      | some shm => exact value_checkController _ ⟨shm, behind⟩ it.now_ns
  unfold robotPeriodic Robot.robotPeriodic
  simp only [value_bind, value_pure, hsupervise]

/-! ### Who keeps to the two buffers -/

/-- Every reader keeps to the two buffers, and a leg that finds another index sends no MIT
command. -/
structure Guarded (m : Segment) : Prop where
  leg : ∀ (l : Legged) cp_start cp_end idx,
    .buffer idx ∈ (controllerPeriodic l m cp_start cp_end).log → idx ≤ 1
  silent : 1 < m.shm.cmd_write_idx → ∀ (l : Legged) cp_start cp_end,
    NoMit (controllerPeriodic l m cp_start cp_end).value.1.2
  robot : ∀ (r : Robot) it, r.m_shm = some m.shm → (robotPeriodic r m.behind it).All (· ≤ 1)
  composer : ∀ (s : BatchPipeline.System L) sensor now,
    (compose_cycle bytes s m sensor now).All (· ≤ 1)

lemma leg_inRange {l : Legged} {m : Segment} {cp_start cp_end : UInt64} {idx : UInt32}
    (h : .buffer idx ∈ (controllerPeriodic l m cp_start cp_end).log) : idx ≤ 1 :=
  bounded_controllerPeriodic l m cp_start cp_end _ h

lemma leg_silent {m : Segment} (h : 1 < m.shm.cmd_write_idx) (l : Legged)
    (cp_start cp_end : UInt64) : NoMit (controllerPeriodic l m cp_start cp_end).value.1.2 := by
  rw [value_controllerPeriodic, noMit_controllerPeriodic_iff]
  rintro ⟨-, -, -, cmd, hcmd, -⟩
  rw [currentCommand?_of_lt h] at hcmd
  exact absurd hcmd (by simp)

lemma robot_inRange (r : Robot) (behind : UInt32 → Command) (it : Iteration) :
    (robotPeriodic r behind it).All (· ≤ 1) := by
  have hcheck : ∀ (r : Robot) (m : Segment), (checkController r m it.now_ns).All (· ≤ 1) := by
    intro r m
    unfold checkController readBuffer
    simp only [all_bind, all_pure, all_ite, all_access, and_true, implies_true]
    exact id
  have hsupervise : ∀ r : Robot, (supervise r behind it).All (· ≤ 1) := fun r => by
    unfold supervise
    cases r.m_composer with
    | false => exact all_pure _
    | true =>
      cases r.m_shm with
      | none => exact all_pure _
      | some shm => exact hcheck _ ⟨shm, behind⟩
  unfold robotPeriodic
  simp only [all_bind, all_pure, and_true]
  exact hsupervise _

lemma composer_inRange_iff (s : BatchPipeline.System L) (m : Segment)
    (sensor : Vector UInt8 sizeof_SensorData) (now : UInt64) :
    (compose_cycle bytes s m sensor now).All (· ≤ 1) ↔ m.shm.cmd_write_idx ≤ 1 := by
  unfold compose_cycle readBuffer
  simp only [all_bind, all_access, all_pure, and_true]

/-- **When the readers keep to the two buffers**, whatever the other process left in the segment:
exactly if the index is 0 or 1. -/
theorem guarded_iff (m : Segment) : Guarded (L := L) bytes m ↔ m.shm.cmd_write_idx ≤ 1 := by
  constructor
  · intro h
    have s : BatchPipeline.System L :=
      BatchPipeline.init L 0 0 0 BatchPipeline.zeroBatch fun _ => BatchPipeline.zeroBatch
    exact (composer_inRange_iff bytes s m (Vector.replicate _ 0) 0).mp (h.composer s _ 0)
  · intro h
    exact ⟨fun _ _ _ _ => leg_inRange, leg_silent, fun r it _ => robot_inRange r m.behind it,
      fun s sensor now => (composer_inRange_iff bytes s m sensor now).mpr h⟩

/-- A segment whose index was left at 2. -/
def strayIndex : Segment where
  shm := { SharedMemoryLayout.created with cmd_write_idx := 2 }
  behind := fun _ => {}

/-- The Composer copies what lies behind the two buffers. -/
theorem composer_strays :
    (compose_cycle (fun _ => Vector.replicate _ 0)
      (BatchPipeline.init (Layout.whole _) 0 0 0 BatchPipeline.zeroBatch
        fun _ => BatchPipeline.zeroBatch) strayIndex (Vector.replicate _ 0) 0).log = [2] ∧
      ¬ ∀ m, Guarded (L := Layout.whole _) (fun _ => Vector.replicate _ 0) m := by
  refine ⟨rfl, fun h => ?_⟩
  have hidx := (composer_inRange_iff _ (BatchPipeline.init (Layout.whole _) 0 0 0
    BatchPipeline.zeroBatch fun _ => BatchPipeline.zeroBatch) strayIndex _ 0).mp
      ((h strayIndex).composer _ (Vector.replicate _ 0) 0)
  exact absurd hidx (by decide)

end Kuavo.CommandIndex
