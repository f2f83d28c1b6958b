import Kuavo.Robot
import Kuavo.StaleCommand

/-!
The leg's and the main loop's views of the age of a command.

Both compare it with the same threshold, each in its own words. They part on a timestamp ahead
of the clock: a leg samples the clock before it looks at the command and takes such a command
for a new one, while the main loop samples it afterwards and takes it for a dead controller.
-/

namespace Kuavo.CommandFreshness

open Kuavo.LegRun Kuavo.LegSafety Kuavo.Lib.Runs Kuavo.MercuryShm

/-- A leg that comes as far as to look at the age of the command. -/
structure Deciding (l : Legged) (shm : SharedMemoryLayout) (cmd : Command) : Prop where
  attached : l.attached = true
  no_fault : Legged.shmFault shm = none
  isEnabled : l.isEnabled = true
  command : shm.currentCommand? = some cmd

/-- The leg drives its motors by the command exactly if the main loop's check, at the same time,
finds no stale commands. -/
def Alike (l : Legged) (shm : SharedMemoryLayout) (cmd : Command) (now_ns cp_end : UInt64) : Prop :=
  (l.controllerPeriodic ⟨shm, now_ns, cp_end⟩).1.2 =
    if Robot.commandsStale shm now_ns then [] else l.dispatch cmd

/-- The leg's own check decides. -/
lemma frames_of_deciding {l : Legged} {shm : SharedMemoryLayout} {cmd : Command}
    (h : Deciding l shm cmd) (now_ns cp_end : UInt64) :
    (l.controllerPeriodic ⟨shm, now_ns, cp_end⟩).1.2 =
      if Legged.commandStale cmd now_ns then [] else l.dispatch cmd := by
  obtain ⟨hnone, hmit⟩ := Legged.mitFrames_of_command (c := ⟨shm, now_ns, cp_end⟩) h.attached
    h.no_fault h.isEnabled h.command
  rw [(Legged.controllerPeriodic_no_fault hnone).2.2, hmit]

/-- Up to the clock, the two checks are one. -/
lemma commandsStale_of_le {shm : SharedMemoryLayout} {cmd : Command} {now_ns : UInt64}
    (h : shm.currentCommand? = some cmd) (hle : cmd.timestamp_ns ≤ now_ns) :
    Robot.commandsStale shm now_ns = Legged.commandStale cmd now_ns := by
  unfold Robot.commandsStale Legged.commandStale
  rw [h]
  by_cases hpos : cmd.timestamp_ns > 0
  · have hnot : ¬ cmd.timestamp_ns > now_ns := UInt64.not_lt.mpr hle
    simp only [hpos, hle, hnot, and_self, if_true, decide_true, decide_false, Bool.true_and,
      Bool.false_or]
    rfl
  · simp [hpos]

/-- Ahead of the clock, the main loop finds stale what the leg takes for new. -/
lemma stale_of_lt {shm : SharedMemoryLayout} {cmd : Command} {now_ns : UInt64}
    (h : shm.currentCommand? = some cmd) (hlt : now_ns < cmd.timestamp_ns) :
    Robot.commandsStale shm now_ns = true ∧ Legged.commandStale cmd now_ns = false := by
  have hpos : cmd.timestamp_ns > 0 := UInt64.lt_of_le_of_lt UInt64.zero_le hlt
  constructor
  · unfold Robot.commandsStale
    rw [h]
    simp [hpos, hlt]
  · rw [Bool.eq_false_iff, Ne, StaleCommand.commandStale_iff]
    rintro ⟨-, hold⟩
    have hnat := UInt64.lt_iff_toNat_lt.mp hlt
    omega

/-- **Freshness.** Of every command with a timestamp up to the clock, the leg and the main loop
judge alike; by one ahead of it, the leg drives its motors while the main loop finds it stale. -/
theorem alike_up_to_now {l : Legged} {shm : SharedMemoryLayout} {cmd : Command}
    (h : Deciding l shm cmd) (now_ns cp_end : UInt64) :
    (cmd.timestamp_ns ≤ now_ns → Alike l shm cmd now_ns cp_end) ∧
      (now_ns < cmd.timestamp_ns → Robot.commandsStale shm now_ns = true ∧
        (l.controllerPeriodic ⟨shm, now_ns, cp_end⟩).1.2 = l.dispatch cmd) := by
  have hframes := frames_of_deciding h now_ns cp_end
  refine ⟨fun hle => ?_, fun hlt => ?_⟩
  · unfold Alike
    rw [hframes, commandsStale_of_le h.command hle]
  · obtain ⟨hrobot, hleg⟩ := stale_of_lt h.command hlt
    rw [hframes, hleg]
    exact ⟨hrobot, rfl⟩

/-- The command of `goodShm`, with a timestamp. -/
def stamped (timestamp_ns : UInt64) : Command where
  enabled := fun _ => 1
  timestamp_ns := timestamp_ns

def stampedShm (timestamp_ns : UInt64) : SharedMemoryLayout :=
  { goodShm with cmd_buffers := fun _ => stamped timestamp_ns }

/-- A leg that was given its pointers and enabled. -/
def enabledLeg : Legged := (run step (start 1 6) [.setShmPointers true true, .setEnable true]).leg

lemma deciding_enabledLeg (timestamp_ns : UInt64) :
    Deciding enabledLeg (stampedShm timestamp_ns) (stamped timestamp_ns) :=
  ⟨rfl, rfl, rfl, rfl⟩

theorem alike_up_to_now_stamped :
    Alike enabledLeg (stampedShm 5) (stamped 5) 7 8 ∧
      Robot.commandsStale (stampedShm 8) 7 = true ∧
      (enabledLeg.controllerPeriodic ⟨stampedShm 8, 7, 9⟩).1.2 = enabledLeg.dispatch (stamped 8) :=
  ⟨(alike_up_to_now (deciding_enabledLeg 5) 7 8).1 (by decide),
    (alike_up_to_now (deciding_enabledLeg 8) 7 9).2 (by decide)⟩

/-- A command is stamped one nanosecond ahead of the clock. -/
theorem ahead_not_alike :
    Deciding enabledLeg (stampedShm 8) (stamped 8) ∧ (stamped 8).timestamp_ns ≠ 0 ∧
      ¬ Alike enabledLeg (stampedShm 8) (stamped 8) 7 9 :=
  ⟨deciding_enabledLeg 8, by decide, by unfold Alike; decide⟩

end Kuavo.CommandFreshness
