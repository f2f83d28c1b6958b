import Kuavo.Legged
import Kuavo.Lib.Logged

/-!
The accesses of `Legged::controllerPeriodic` to the arrays it is given: the command buffers of the
segment, the joints of a command, and the arrays of the record that it stages.
-/

namespace Kuavo.LegAccesses

open Kuavo.Lib Kuavo.Lib.Logged Kuavo.MercuryShm

/-- An entry of `cmd_buffers`, of the arrays of a command, and of the arrays of the staged record;
and a joint whose command is sent to its motor. -/
inductive LegAccess
  | buffer (idx : UInt32)
  | command (j : ℕ)
  | dispatched (j : ℕ)
  | stage (i : ℕ)
  deriving DecidableEq

/-- The segment, and what lies where an index behind the command buffers leads to. -/
structure Segment where
  shm : SharedMemoryLayout
  behind : UInt32 → Command

/-- `cmd_buffers[idx]`. -/
def Segment.cmd_buffers (m : Segment) (idx : UInt32) : Command :=
  if h : idx.toNat < 2 then m.shm.cmd_buffers ⟨idx.toNat, h⟩ else m.behind idx

/-- An index that is in range leads to the current command. -/
lemma Segment.currentCommand?_of_le {m : Segment} (h : m.shm.cmd_write_idx ≤ 1) :
    m.shm.currentCommand? = some (m.cmd_buffers m.shm.cmd_write_idx) := by
  have hlt : m.shm.cmd_write_idx.toNat < 2 := Nat.lt_succ_of_le (UInt32.le_iff_toNat_le.mp h)
  unfold SharedMemoryLayout.currentCommand? Segment.cmd_buffers
  rw [dif_pos hlt, dif_pos hlt]

lemma currentCommand?_of_lt {shm : SharedMemoryLayout} (h : 1 < shm.cmd_write_idx) :
    shm.currentCommand? = none :=
  dif_neg (not_lt.mpr (UInt32.lt_iff_toNat_lt.mp h))

/-- One round of the dispatch loop. -/
def dispatchJoint (l : Legged) (cmd : Command) (id i : ℕ) :
    Logged LegAccess (Option (ℕ × MITParam)) :=
  let j := l.m_groupOffset + i
  if h : j < NUM_ACT_JOINT then do
    let enabled ← access (.command j) (cmd.enabled ⟨j, h⟩)
    if enabled ≠ 0 then
      let mit ← access (.command j) (Legged.mitParam cmd ⟨j, h⟩)
      access (.dispatched j) (some (id, mit))
    else
      pure none
  else
    pure none

def dispatch (l : Legged) (cmd : Command) : Logged LegAccess Frames := do
  let sent ← each l.ids.zipIdx fun (id, i) => dispatchJoint l cmd id i
  return (sent.filterMap id).map fun (id, mit) => (id, .setMitControl mit)

def actuate (l : Legged) (m : Segment) (now_ns : UInt64) :
    Logged LegAccess (Legged × Frames) :=
  if l.isEnabled then
    let cmd_idx := m.shm.cmd_write_idx
    if cmd_idx > 1 then
      pure (l.disableAllMotorsOnce .CMD_WRITE_IDX_INVALID)
    else do
      let cmd ← access (.buffer cmd_idx) (m.cmd_buffers cmd_idx)
      if Legged.commandStale cmd now_ns then
        return (l, [])
      else
        let frames ← dispatch l cmd
        return (l, frames)
  else
    pure (l, [])

/-- The loop over the motors fills one entry of each array. -/
def observe (l : Legged) (c : Cycle) : Logged LegAccess (Legged × Option MotorGroupStageData) :=
  if l.staging then do
    let motors ← each l.motors.zipIdx fun (m, i) => access (.stage i) m
    return ({ l with motors := motors } : Legged).observe c
  else
    pure (l, none)

def controllerPeriodic (l : Legged) (m : Segment) (cp_start cp_end : UInt64) :
    Logged LegAccess ((Legged × Frames) × Option MotorGroupStageData) :=
  if l.attached then
    match Legged.shmFault m.shm with
    | some reason => pure (l.disableAllMotorsOnce reason, none)
    | none => do
      let r ← actuate l m cp_start
      let o ← observe r.1 ⟨m.shm, cp_start, cp_end⟩
      return ((o.1, r.2), o.2)
  else
    pure ((l, []), none)

/-! ### The values are those of the model -/

lemma value_dispatchJoint (l : Legged) (cmd : Command) (id i : ℕ) :
    (dispatchJoint l cmd id i).value =
      if h : l.m_groupOffset + i < NUM_ACT_JOINT then
        if cmd.enabled ⟨l.m_groupOffset + i, h⟩ ≠ 0 then
          some (id, Legged.mitParam cmd ⟨l.m_groupOffset + i, h⟩)
        else none
      else none := by
  unfold dispatchJoint
  by_cases h : l.m_groupOffset + i < NUM_ACT_JOINT
  · by_cases he : cmd.enabled ⟨l.m_groupOffset + i, h⟩ = 0 <;> simp [h, he]
  · simp [h]

lemma value_dispatch (l : Legged) (cmd : Command) : (dispatch l cmd).value = l.dispatch cmd := by
  unfold dispatch Legged.dispatch Legged.mitParams
  simp only [value_bind, value_each, value_pure, value_dispatchJoint, List.filterMap_map]
  rfl

lemma value_actuate (l : Legged) (m : Segment) (now_ns : UInt64) :
    (actuate l m now_ns).value = l.actuate m.shm now_ns := by
  unfold actuate Legged.actuate
  by_cases he : l.isEnabled
  · simp only [he, if_true]
    by_cases hidx : m.shm.cmd_write_idx > 1
    · simp only [hidx, if_true, currentCommand?_of_lt hidx, value_pure]
    · have hsome := Segment.currentCommand?_of_le (UInt32.not_lt.mp hidx)
      simp only [hidx, if_false, hsome, value_bind, value_access]
      by_cases hstale : Legged.commandStale (m.cmd_buffers m.shm.cmd_write_idx) now_ns
      · simp [hstale]
      · simp [hstale, value_dispatch]
  · simp [he]

lemma value_observe (l : Legged) (c : Cycle) : (observe l c).value = l.observe c := by
  unfold observe
  by_cases hs : l.staging
  · have hmotors : l.motors.zipIdx.map (fun p => p.1) = l.motors := List.zipIdx_map_fst 0 _
    rw [if_pos hs]
    change ({ l with motors := l.motors.zipIdx.map fun p => p.1 } : Legged).observe c = _
    rw [hmotors]
  · simp [hs, Legged.observe]

/-- The logged cycle computes what `controllerPeriodic` does. -/
theorem value_controllerPeriodic (l : Legged) (m : Segment) (cp_start cp_end : UInt64) :
    (controllerPeriodic l m cp_start cp_end).value =
      l.controllerPeriodic ⟨m.shm, cp_start, cp_end⟩ := by
  unfold controllerPeriodic Legged.controllerPeriodic
  by_cases ha : l.attached
  · simp only [ha, if_true]
    cases Legged.shmFault m.shm with
    | some reason => rfl
    | none => simp only [value_bind, value_pure, value_actuate, value_observe]
  · simp [ha]

/-! ### What a cycle touches -/

/-- One of the two command buffers, a joint that belongs to a motor of the leg and that a command
has, and an entry for a motor of the leg. -/
def Bounded (l : Legged) : LegAccess → Prop
  | .buffer idx => idx ≤ 1
  | .command j | .dispatched j =>
    (∃ i < l.motors.length, j = l.m_groupOffset + i) ∧ j < NUM_ACT_JOINT
  | .stage i => i < l.motors.length

lemma bounded_dispatchJoint (l : Legged) (cmd : Command) (id : ℕ) {i : ℕ}
    (hi : i < l.motors.length) : (dispatchJoint l cmd id i).All (Bounded l) := by
  unfold dispatchJoint
  dsimp only
  split_ifs with hj
  · have hbound : Bounded l (.command (l.m_groupOffset + i)) := ⟨⟨i, hi, rfl⟩, hj⟩
    simp only [all_bind, all_access, all_ite, all_pure]
    exact ⟨hbound, fun _ => ⟨hbound, hbound⟩, fun _ => trivial⟩
  · exact all_pure _

lemma bounded_dispatch (l : Legged) (cmd : Command) : (dispatch l cmd).All (Bounded l) := by
  unfold dispatch
  simp only [all_bind, all_each, all_pure, and_true]
  rintro ⟨id, i⟩ hp
  have hi : i < l.ids.length := List.snd_lt_of_mem_zipIdx hp
  rw [Legged.ids, List.length_map] at hi
  exact bounded_dispatchJoint l cmd id hi

lemma bounded_actuate (l : Legged) (m : Segment) (now_ns : UInt64) :
    (actuate l m now_ns).All (Bounded l) := by
  unfold actuate
  dsimp only
  split_ifs with he hidx
  · exact all_pure _
  · simp only [all_bind, all_access, all_ite, all_pure, and_true]
    exact ⟨UInt32.not_lt.mp hidx, fun _ => trivial, fun _ => bounded_dispatch l _⟩
  · exact all_pure _

/-- The part of a cycle that the flag gates leaves motors and pointers alone. -/
lemma motors_actuate (l : Legged) (shm : SharedMemoryLayout) (now_ns : UInt64) :
    (l.actuate shm now_ns).1.motors = l.motors ∧ (l.actuate shm now_ns).1.staging = l.staging := by
  unfold Legged.actuate
  split_ifs
  · cases shm.currentCommand? with
    | none =>
      simp only [Legged.disableAllMotorsOnce]
      split_ifs <;> exact ⟨rfl, rfl⟩
    | some cmd => exact ⟨rfl, rfl⟩
  · exact ⟨rfl, rfl⟩

lemma bounded_observe {l l' : Legged} (h : l'.motors = l.motors) (c : Cycle) :
    (observe l' c).All (Bounded l) := by
  unfold observe
  split_ifs
  · simp only [all_bind, all_each, all_access, all_pure, and_true, h]
    exact fun p hp => List.snd_lt_of_mem_zipIdx hp
  · exact all_pure _

/-- **What a cycle touches**, whatever the segment holds. -/
theorem bounded_controllerPeriodic (l : Legged) (m : Segment) (cp_start cp_end : UInt64) :
    (controllerPeriodic l m cp_start cp_end).All (Bounded l) := by
  unfold controllerPeriodic
  split_ifs
  · cases Legged.shmFault m.shm with
    | some reason => exact all_pure _
    | none =>
      simp only [all_bind, all_pure, and_true]
      refine ⟨bounded_actuate l m cp_start, bounded_observe ?_ _⟩
      rw [value_actuate, (motors_actuate l m.shm cp_start).1]
  · exact all_pure _

/-- A cycle without a fault in the segment fills an entry for every motor. -/
lemma stage_mem_log {l : Legged} {m : Segment} (ha : l.attached = true)
    (hf : Legged.shmFault m.shm = none) (hs : l.staging = true) {i : ℕ} (hi : i < l.motors.length)
    (cp_start cp_end : UInt64) : .stage i ∈ (controllerPeriodic l m cp_start cp_end).log := by
  obtain ⟨hmotors, hstaging⟩ := motors_actuate l m.shm cp_start
  have hentry : (l.motors[i], i) ∈ l.motors.zipIdx :=
    List.mk_mem_zipIdx_iff_getElem?.mpr (List.getElem?_eq_getElem hi)
  unfold controllerPeriodic
  simp only [ha, if_true, hf, log_bind, value_actuate]
  refine List.mem_append_right _ (List.mem_append_left _ ?_)
  unfold observe
  rw [hstaging, if_pos hs, hmotors, log_bind]
  refine List.mem_append_left _ (List.mem_flatMap.mpr ⟨_, hentry, List.mem_singleton_self _⟩)

end Kuavo.LegAccesses
