import Kuavo.Lib.DoubleBuffer
import Kuavo.Legged

/-!
The command buffer of `include/mercury_shm.h` between the Mercury Controller and a leg.

The controller publishes a command by a copy into the inactive slot and a store of
`cmd_write_idx`. A cycle of a leg never copies the slot: it reads the timestamp through a
reference when it checks the freshness, and the fields of each joint when it comes to its motor,
with a frame sent between one motor and the next. The index is only ever stored as one minus
itself, so that it stays in range.
-/

namespace Kuavo.CommandBuffer

open Kuavo.Lib.Copy Kuavo.Lib.Runs Kuavo.Lib.DoubleBuffer Kuavo.MercuryShm

/-! ### The controller's copy -/

inductive CommandField | jtorque_cmd | jpos_cmd | jvel_cmd | kp | kd | enabled | timestamp_ns
  deriving DecidableEq

def CommandField.copy (src dst : Command) : CommandField → Command
  | .jtorque_cmd => { dst with jtorque_cmd := src.jtorque_cmd }
  | .jpos_cmd => { dst with jpos_cmd := src.jpos_cmd }
  | .jvel_cmd => { dst with jvel_cmd := src.jvel_cmd }
  | .kp => { dst with kp := src.kp }
  | .kd => { dst with kd := src.kd }
  | .enabled => { dst with enabled := src.enabled }
  | .timestamp_ns => { dst with timestamp_ns := src.timestamp_ns }

def fieldLayout : Layout Command where
  Part := CommandField
  parts := [.jtorque_cmd, .jpos_cmd, .jvel_cmd, .kp, .kd, .enabled, .timestamp_ns]
  copy := fun p src dst => p.copy src dst
  copied := by
    rintro ⟨⟩ ⟨⟩
    rfl

/-! ### The leg's loads -/

/-- What the actuation of one cycle comes to: the timestamps that the freshness check loaded,
and the MIT commands, each with its motor. -/
structure Dispatch where
  checked : List UInt64
  mit : List (ℕ × MITParam)

/-- The freshness check, which loads the timestamp for each comparison and for the difference. -/
def checkFreshness {A : Type*} (now_ns : UInt64) (next : List UInt64 → Bool → Reader Command A) :
    Reader Command A :=
  let second := fun (checked : List UInt64) (cmd_age_ns : UInt64) =>
    Reader.load fun cmd =>
      next (checked ++ [cmd.timestamp_ns])
        (cmd.timestamp_ns > 0 && cmd_age_ns > Legged.COMMAND_STALE_THRESHOLD_NS)
  .load fun cmd₁ =>
    if cmd₁.timestamp_ns > 0 then
      .load fun cmd₂ =>
        if cmd₂.timestamp_ns ≤ now_ns then
          .load fun cmd₃ =>
            second [cmd₁.timestamp_ns, cmd₂.timestamp_ns, cmd₃.timestamp_ns]
              (now_ns - cmd₃.timestamp_ns)
        else second [cmd₁.timestamp_ns, cmd₂.timestamp_ns] 0
    else second [cmd₁.timestamp_ns] 0

/-- The dispatch loop over motors and their places, with the commands sent so far. -/
def dispatchLoop (l : Legged) (checked : List UInt64) :
    List (ℕ × ℕ) → List (ℕ × MITParam) → Reader Command Dispatch
  | [], mit => .done ⟨checked, mit⟩
  | (id, i) :: rest, mit =>
    if h : l.m_groupOffset + i < NUM_ACT_JOINT then
      let j : Fin NUM_ACT_JOINT := ⟨l.m_groupOffset + i, h⟩
      .load fun cmd₀ =>
        if cmd₀.enabled j = 0 then dispatchLoop l checked rest mit
        else
          .load fun cmd₁ => .load fun cmd₂ => .load fun cmd₃ => .load fun cmd₄ => .load fun cmd₅ =>
            dispatchLoop l checked rest
              (mit ++ [(id,
                { kp := cmd₁.kp j
                  kd := cmd₂.kd j
                  q := cmd₃.jpos_cmd j
                  dq := cmd₄.jvel_cmd j
                  tau := cmd₅.jtorque_cmd j })])
    else dispatchLoop l checked rest mit

/-- The part of `controllerPeriodic` that the enable flag gates, behind the load of the index. -/
def controllerPeriodic (l : Legged) (now_ns : UInt64) : Reader Command Dispatch :=
  checkFreshness now_ns fun checked stale =>
    if stale then .done ⟨checked, []⟩ else dispatchLoop l checked l.ids.zipIdx []

/-- `cmd_buffers` and `cmd_write_idx`. The word next to them is `cmd_sequence`, which is counted
up behind the store of the index. -/
def commandBuffer (L : Layout Command) : Protocol Command UInt64 (Legged × UInt64) Dispatch where
  layout := L
  before := []
  after := [fun _ cmd_sequence => cmd_sequence + 1]
  read := fun cycle => controllerPeriodic cycle.1 cycle.2

/-! ### Cycles that nothing comes in between of -/

lemma eval_checkFreshness {A : Type*} (now_ns : UInt64)
    (next : List UInt64 → Bool → Reader Command A) (cmd : Command) :
    ∃ checked, (∀ t ∈ checked, t = cmd.timestamp_ns) ∧
      (checkFreshness now_ns next).eval cmd =
        (next checked (Legged.commandStale cmd now_ns)).eval cmd := by
  by_cases hpos : cmd.timestamp_ns > 0
  · by_cases hle : cmd.timestamp_ns ≤ now_ns
    · refine ⟨List.replicate 4 cmd.timestamp_ns, fun t ht => List.eq_of_mem_replicate ht, ?_⟩
      simp [checkFreshness, Reader.eval, Legged.commandStale, hpos, hle]
    · refine ⟨List.replicate 3 cmd.timestamp_ns, fun t ht => List.eq_of_mem_replicate ht, ?_⟩
      simp [checkFreshness, Reader.eval, Legged.commandStale, hpos, hle]
  · refine ⟨List.replicate 2 cmd.timestamp_ns, fun t ht => List.eq_of_mem_replicate ht, ?_⟩
    simp [checkFreshness, Reader.eval, Legged.commandStale, hpos]

lemma eval_dispatchLoop (l : Legged) (checked : List UInt64) (cmd : Command)
    (places : List (ℕ × ℕ)) (mit : List (ℕ × MITParam)) :
    (dispatchLoop l checked places mit).eval cmd =
      ⟨checked, mit ++ places.filterMap fun (id, i) =>
        if h : l.m_groupOffset + i < NUM_ACT_JOINT then
          if cmd.enabled ⟨l.m_groupOffset + i, h⟩ ≠ 0 then
            some (id, Legged.mitParam cmd ⟨l.m_groupOffset + i, h⟩)
          else none
        else none⟩ := by
  induction places generalizing mit with
  | nil => simp [dispatchLoop, Reader.eval]
  | cons place rest ih =>
    obtain ⟨id, i⟩ := place
    rw [dispatchLoop, List.filterMap_cons]
    by_cases h : l.m_groupOffset + i < NUM_ACT_JOINT
    · simp only [dif_pos h, Reader.eval]
      by_cases henabled : cmd.enabled ⟨l.m_groupOffset + i, h⟩ = 0
      · simp only [henabled, ne_eq, not_true_eq_false, if_false]
        exact ih mit
      · simp only [henabled, ne_eq, not_false_eq_true, if_true, if_false, Reader.eval]
        rw [ih, List.append_assoc]
        rfl
    · simp only [dif_neg h]
      exact ih mit

theorem eval_controllerPeriodic (l : Legged) (now_ns : UInt64) (cmd : Command) :
    (∀ t ∈ ((controllerPeriodic l now_ns).eval cmd).checked, t = cmd.timestamp_ns) ∧
      ((controllerPeriodic l now_ns).eval cmd).mit =
        if Legged.commandStale cmd now_ns then [] else l.mitParams cmd := by
  obtain ⟨checked, hchecked, heq⟩ := eval_checkFreshness now_ns (fun checked stale =>
    if stale then .done ⟨checked, []⟩ else dispatchLoop l checked l.ids.zipIdx []) cmd
  rw [controllerPeriodic, heq]
  by_cases hstale : Legged.commandStale cmd now_ns
  · simp only [hstale, if_true, Reader.eval]
    exact ⟨hchecked, trivial⟩
  · simp only [hstale, Bool.false_eq_true, if_false, eval_dispatchLoop, List.nil_append]
    exact ⟨hchecked, rfl⟩

/-- A cycle that nothing comes in between of is the one of the model in which the command is
loaded at once. -/
theorem actuate_eq_eval {l : Legged} {shm : SharedMemoryLayout} {cmd : Command}
    (now_ns : UInt64) (henabled : l.isEnabled) (hcmd : shm.currentCommand? = some cmd) :
    (l.actuate shm now_ns).2 =
      ((controllerPeriodic l now_ns).eval cmd).mit.map fun (id, mit) =>
        (id, .setMitControl mit) := by
  rw [(eval_controllerPeriodic l now_ns cmd).2, Legged.actuate, if_pos henabled, hcmd]
  by_cases hstale : Legged.commandStale cmd now_ns
  · simp [hstale]
  · simp only [hstale, Bool.false_eq_true, if_false]
    rfl

/-! ### Cycles between the steps of the controller -/

/-- The timestamps checked are those of the record, and so are the enabled flags, the gains and
the set-points behind every command sent. -/
def FromRecord (l : Legged) (d : Dispatch) (cmd : Command) : Prop :=
  (∀ t ∈ d.checked, t = cmd.timestamp_ns) ∧ ∀ p ∈ d.mit, p ∈ l.mitParams cmd

/-- **One record for a whole cycle**, in every run in which no publish copies into the slot
that the cycle has found current. -/
theorem dispatch_from_published (L : Layout Command) (first : Command)
    (l : List (Input Command (Legged × UInt64)))
    (hl : Each step NoOverwrite (init (commandBuffer L) first 0) l) :
    ∀ p ∈ (run step (init (commandBuffer L) first 0) l).results,
      ∃ cmd ∈ first :: (run step (init (commandBuffer L) first 0) l).published,
        FromRecord p.1.1 p.2 cmd := by
  intro p hp
  obtain ⟨cmd, hcmd, heq⟩ := read_of_published hl p hp
  obtain ⟨hchecked, hmit⟩ := eval_controllerPeriodic p.1.1 p.1.2 cmd
  refine ⟨cmd, hcmd, ?_⟩
  rw [heq]
  refine ⟨hchecked, fun q hq => ?_⟩
  have hmem : q ∈ if Legged.commandStale cmd p.1.2 then [] else p.1.1.mitParams cmd := by
    rw [← hmit]
    exact hq
  split_ifs at hmem
  · exact absurd hmem List.not_mem_nil
  · exact hmem

/-- A leg with one motor. -/
def oneMotor : Legged where
  baseId := 1
  motors := [{ deviceId := 1 }]
  m_groupOffset := 0
  m_isEnabled := true
  m_motorResponsive := [true]

/-- All joints enabled, at position `n` and time `n`. -/
def setPoint (n : ℕ) : Command where
  jpos_cmd := fun _ => n
  enabled := fun _ => 1
  timestamp_ns := UInt64.ofNat n

/-- One whole publish, to the return. -/
def publishing (cmd : Command) : List (Input Command (Legged × UInt64)) :=
  .publish cmd :: List.replicate 12 .writeStep

/-- A cycle that is preempted between its freshness check and its first motor, for one publish. -/
theorem dispatch_from_published_publishing :
    let s := run step (init (commandBuffer fieldLayout) {} 0)
      (publishing (setPoint 1) ++ .read (oneMotor, 2) :: List.replicate 5 .readStep ++
        publishing (setPoint 2) ++ List.replicate 7 .readStep)
    s.results.map (fun p => (p.2.checked, p.2.mit)) =
        [([1, 1, 1, 1], [(1, ⟨0, 0, 1, 0, 0⟩)])] ∧
      ∀ p ∈ s.results, ∃ cmd ∈ ({} : Command) :: s.published, FromRecord p.1.1 p.2 cmd :=
  ⟨by decide +kernel, dispatch_from_published fieldLayout {} _ (by decide +kernel)⟩

/-- A cycle that is preempted between its freshness check and its first motor, for two
publishes. -/
def preempted : List (Input Command (Legged × UInt64)) :=
  [.read (oneMotor, 2), .readStep, .readStep, .readStep] ++ publishing (setPoint 1) ++
    publishing (setPoint 2) ++ List.replicate 8 .readStep

/-- The record it checked had no timestamp and enabled no motor, and the others have one. -/
theorem preempted_mixed :
    let s := run step (init (commandBuffer fieldLayout) {} 0) preempted
    s.results.map (fun p => (p.2.checked, p.2.mit)) = [([0, 0], [(1, ⟨0, 0, 2, 0, 0⟩)])] ∧
      ¬ ∀ p ∈ s.results, ∃ cmd ∈ ({} : Command) :: s.published, FromRecord p.1.1 p.2 cmd := by
  have hresults : ∃ p ∈ (run step (init (commandBuffer fieldLayout) {} 0) preempted).results,
      0 ∈ p.2.checked ∧ p.2.mit ≠ [] ∧ p.1.1.mitParams {} = [] := by decide +kernel
  have htimes : ∀ cmd ∈ (run step (init (commandBuffer fieldLayout) {} 0) preempted).published,
      0 ≠ cmd.timestamp_ns := by decide +kernel
  refine ⟨by decide +kernel, fun h => ?_⟩
  obtain ⟨p, hp, hchecked, hmit, hnone⟩ := hresults
  obtain ⟨cmd, hcmd, htime, hmem⟩ := h p hp
  rcases List.mem_cons.mp hcmd with rfl | hcmd
  · obtain ⟨q, hq⟩ := List.exists_mem_of_ne_nil _ hmit
    have hnil := hmem q hq
    rw [hnone] at hnil
    exact List.not_mem_nil hnil
  · exact htimes cmd hcmd (htime 0 hchecked)

end Kuavo.CommandBuffer
