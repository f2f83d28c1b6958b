import Kuavo.Lib.DoubleBuffer
import Kuavo.MercuryShm

/-!
The staging buffers of `include/mercury_shm.h`.

`publish` and `read` are taken step by step; both copy the record field by field. A read is
whole as long as the second publish it overlaps does not reach its slot.
-/

namespace Kuavo.SourceDoubleBuffer

open Kuavo.Lib.Copy Kuavo.Lib.Runs Kuavo.Lib.DoubleBuffer Kuavo.MercuryShm

/-- The two words next to the slots. -/
structure Metadata where
  sequence : UInt64 := 0
  heartbeat_ns : UInt64 := 0

variable {T : Type*}

/-- `publish` stores the metadata before the index. `read` copies into a local variable that is
not initialized. -/
def sourceDoubleBuffer (L : Layout T) (timestamp_ns : T → UInt64) : Protocol T Metadata T T where
  layout := L
  before :=
    [fun _ m => { m with sequence := m.sequence + 1 },
      fun data m => { m with heartbeat_ns := timestamp_ns data }]
  after := []
  read := fun result => Reader.copy L L.parts result

/-- **What was read was published**, in every run in which no publish copies into the slot that
is being read. -/
theorem read_mem_published (L : Layout T) (timestamp_ns : T → UInt64) (r : T)
    (l : List (Input T T))
    (hl : Each step NoOverwrite (init (sourceDoubleBuffer L timestamp_ns) r {}) l) :
    ∀ p ∈ (run step (init (sourceDoubleBuffer L timestamp_ns) r {}) l).results,
      p.2 ∈ r :: (run step (init (sourceDoubleBuffer L timestamp_ns) r {}) l).published := by
  intro p hp
  obtain ⟨x, hx, heq⟩ := read_of_published hl p hp
  have hcopy : p.2 = x := by
    rw [heq]
    exact (eval_copy L L.parts p.1 x).trans (L.finish_parts x p.1)
  rwa [hcopy]

/-! ### The IMU's buffer -/

inductive ImuField | imu_inc | imu_ang_vel | imu_acc | timestamp_ns | sequence
  deriving DecidableEq

def ImuField.copy (src dst : ImuStageData) : ImuField → ImuStageData
  | .imu_inc => { dst with imu_inc := src.imu_inc }
  | .imu_ang_vel => { dst with imu_ang_vel := src.imu_ang_vel }
  | .imu_acc => { dst with imu_acc := src.imu_acc }
  | .timestamp_ns => { dst with timestamp_ns := src.timestamp_ns }
  | .sequence => { dst with sequence := src.sequence }

def imuLayout : Layout ImuStageData where
  Part := ImuField
  parts := [.imu_inc, .imu_ang_vel, .imu_acc, .timestamp_ns, .sequence]
  copy := fun p src dst => p.copy src dst
  copied := fun _ _ => rfl

def imu_stage : Protocol ImuStageData Metadata ImuStageData ImuStageData :=
  sourceDoubleBuffer imuLayout ImuStageData.timestamp_ns

/-- The record of measurement `n`. -/
def measurement (n : ℕ) : ImuStageData where
  imu_inc := ⟨.fin n, .fin n, .fin n⟩
  imu_ang_vel := ⟨.fin n, .fin n, .fin n⟩
  imu_acc := ⟨.fin n, .fin n, .fin n⟩
  timestamp_ns := UInt64.ofNat n
  sequence := UInt64.ofNat n

/-- One whole publish: the index, five fields, two words, the index again, and the return. -/
def publishing (data : ImuStageData) : List (Input ImuStageData ImuStageData) :=
  .publish data :: List.replicate 11 .writeStep

/-- A read that is preempted behind its first field, for two publishes. -/
def preempted : List (Input ImuStageData ImuStageData) :=
  [.read {}, .readStep, .readStep] ++ publishing (measurement 1) ++
    publishing (measurement 2) ++ List.replicate 5 .readStep

/-- A read that is preempted behind its first fields, for one publish. -/
theorem read_mem_published_publishing :
    let s := run step (init imu_stage {} {}) (publishing (measurement 1) ++
      [.read {}, .readStep, .readStep, .readStep] ++ publishing (measurement 2) ++
        List.replicate 4 .readStep)
    s.published = [measurement 1, measurement 2] ∧ s.results.map Prod.snd = [measurement 1] ∧
      ∀ p ∈ s.results, p.2 ∈ ({} : ImuStageData) :: s.published :=
  ⟨by decide +kernel, by decide +kernel,
    read_mem_published imuLayout _ {} _ (by decide +kernel)⟩

/-- The increments of the first record, with everything else of the third. -/
theorem preempted_torn :
    let s := run step (init imu_stage {} {}) preempted
    s.published = [measurement 1, measurement 2] ∧
      s.results.map Prod.snd = [{ measurement 2 with imu_inc := {} }] ∧
      ¬ ∀ p ∈ s.results, p.2 ∈ ({} : ImuStageData) :: s.published := by
  decide +kernel

end Kuavo.SourceDoubleBuffer
