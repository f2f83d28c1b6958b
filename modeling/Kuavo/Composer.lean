import Kuavo.Lib.Bits
import Kuavo.Lib.Runs
import Mathlib.Logic.Function.Basic

/-!
The staleness tracking of `lib/composer/Composer.cpp`, between two threads.

A compose cycle stores the time at which it found a source changed; the main loop's check
samples the clock and then loads the three times one by one. The subtraction of the two is
unsigned, so what counts is whether a loaded time may lie past the sampled one.
-/

namespace Kuavo.Composer

open Kuavo.Lib.Bits Kuavo.Lib.Runs

inductive Source | imu | motor_group_a | motor_group_b
  deriving DecidableEq

def IMU_STALE_TIMEOUT_MS : UInt64 := 50
def MOTOR_GROUP_STALE_TIMEOUT_MS : UInt64 := 100

def STALE_IMU : UInt8 := 0x01
def STALE_MOTOR_GROUP_A : UInt8 := 0x02
def STALE_MOTOR_GROUP_B : UInt8 := 0x04

def Source.timeout_ms : Source → UInt64
  | .imu => IMU_STALE_TIMEOUT_MS
  | .motor_group_a | .motor_group_b => MOTOR_GROUP_STALE_TIMEOUT_MS

def Source.bit : Source → UInt8
  | .imu => STALE_IMU
  | .motor_group_a => STALE_MOTOR_GROUP_A
  | .motor_group_b => STALE_MOTOR_GROUP_B

/-- The sources in the order in which both threads go through them. -/
def sources : List Source := [.imu, .motor_group_a, .motor_group_b]

/-- When each source last changed, and the sequence it had then. -/
structure ChangeTimes where
  last_change_ns : Source → UInt64
  prev_seq : Source → UInt64

/-- `start`: every source counts as changed now. -/
def start (now : UInt64) : ChangeTimes where
  last_change_ns := fun _ => now
  prev_seq := fun _ => 0xFFFFFFFFFFFFFFFF

/-- The part of a compose cycle that tracks one source. -/
def track (c : ChangeTimes) (now : UInt64) (s : Source) (sequence : UInt64) : ChangeTimes :=
  if sequence ≠ c.prev_seq s then
    { prev_seq := Function.update c.prev_seq s sequence
      last_change_ns := Function.update c.last_change_ns s now }
  else c

def elapsed_ms (now last : UInt64) : UInt64 :=
  if last = 0 then 0xFFFFFFFFFFFFFFFF else (now - last) / 1000000

/-- The part of `check_staleness` for one source. -/
def checkSource (now last : UInt64) (s : Source) (mask : UInt8) : UInt8 :=
  if s.timeout_ms ≤ elapsed_ms now last then mask ||| s.bit else mask

/-! ### Two threads -/

/-- A compose cycle, with the time it sampled and the sequences it has still to look at. -/
inductive ComposePc
  | idle
  | tracking (now : UInt64) (rest : List (Source × UInt64))

/-- A check, with the time it sampled, what it loaded and the sources it has still to load. -/
inductive CheckPc
  | idle
  | loading (now : UInt64) (loaded : Source → UInt64) (mask : UInt8) (rest : List Source)

/-- A check that has returned. -/
structure Check where
  now : UInt64
  loaded : Source → UInt64
  mask : UInt8

structure System where
  clock : UInt64
  composer : ChangeTimes
  composePc : ComposePc := .idle
  checkPc : CheckPc := .idle
  checks : List Check := []

inductive Input
  /-- The clock moves on, never back. -/
  | tick (t : UInt64)
  /-- A compose cycle has read the staging buffers and samples the clock. -/
  | compose (sequence : Source → UInt64)
  | composeStep
  /-- The main loop starts a check. -/
  | check
  | checkStep

def step (st : System) : Input → System
  | .tick t => { st with clock := if st.clock ≤ t then t else st.clock }
  | .compose sequence =>
    match st.composePc with
    | .idle =>
      { st with composePc := .tracking st.clock (sources.map fun s => (s, sequence s)) }
    | .tracking _ _ => st
  | .composeStep =>
    match st.composePc with
    | .idle => st
    | .tracking _ [] => { st with composePc := .idle }
    | .tracking now ((s, sequence) :: rest) =>
      { st with
        composer := track st.composer now s sequence
        composePc := .tracking now rest }
  | .check =>
    match st.checkPc with
    | .idle => { st with checkPc := .loading st.clock (fun _ => 0) 0 sources }
    | .loading _ _ _ _ => st
  | .checkStep =>
    match st.checkPc with
    | .idle => st
    | .loading now loaded mask [] =>
      { st with checkPc := .idle, checks := st.checks ++ [⟨now, loaded, mask⟩] }
    | .loading now loaded mask (s :: rest) =>
      let last := st.composer.last_change_ns s
      { st with
        checkPc := .loading now (Function.update loaded s last)
          (checkSource now last s mask) rest }

def startSystem (t0 : UInt64) : System where
  clock := t0
  composer := start t0

/-! ### What a check reports -/

/-- The mask has the bit of the source. -/
def Reports (mask : UInt8) (s : Source) : Prop := mask &&& s.bit ≠ 0

instance (mask : UInt8) (s : Source) : Decidable (Reports mask s) :=
  inferInstanceAs (Decidable (_ ≠ _))

lemma reports_or (mask : UInt8) (s t : Source) :
    Reports (mask ||| s.bit) t ↔ Reports mask t ∨ s = t := by
  unfold Reports
  rw [or_and_distrib]
  by_cases h : s = t
  · subst h
    rw [UInt8.and_self, and_or_absorb]
    cases s <;> simp [Source.bit, STALE_IMU, STALE_MOTOR_GROUP_A, STALE_MOTOR_GROUP_B]
  · have hzero : s.bit &&& t.bit = 0 := by
      cases s <;> cases t <;> first | exact absurd rfl h | rfl
    rw [hzero]
    simp [h]

lemma reports_checkSource (now last : UInt64) (s t : Source) (mask : UInt8) :
    Reports (checkSource now last s mask) t ↔
      Reports mask t ∨ (s = t ∧ s.timeout_ms ≤ elapsed_ms now last) := by
  unfold checkSource
  split_ifs with h
  · rw [reports_or]
    simp [h]
  · simp [h]

/-- A check that is under way has reported the sources it has loaded. -/
structure LoadingOk (now : UInt64) (loaded : Source → UInt64) (mask : UInt8)
    (rest : List Source) : Prop where
  suffix : rest <:+ sources
  mask : ∀ s, Reports mask s ↔ s ∉ rest ∧ s.timeout_ms ≤ elapsed_ms now (loaded s)

/-- What the checks of a system say is what they loaded. -/
structure ChecksOk (st : System) : Prop where
  loading : ∀ now loaded mask rest, st.checkPc = .loading now loaded mask rest →
    LoadingOk now loaded mask rest
  done : ∀ c ∈ st.checks, ∀ s, Reports c.mask s ↔ s.timeout_ms ≤ elapsed_ms c.now (c.loaded s)

lemma nodup_of_suffix {rest : List Source} (h : rest <:+ sources) : rest.Nodup :=
  h.sublist.nodup (by decide)

lemma loadingOk_start (now : UInt64) : LoadingOk now (fun _ => 0) 0 sources := by
  refine ⟨List.suffix_refl _, fun s => ?_⟩
  cases s <;> simp [Reports, sources]

lemma loadingOk_step {now last mask : _} {loaded : Source → UInt64} {s : Source}
    {rest : List Source} (h : LoadingOk now loaded mask (s :: rest)) :
    LoadingOk now (Function.update loaded s last) (checkSource now last s mask) rest := by
  have hnodup := nodup_of_suffix h.suffix
  have hs : s ∉ rest := (List.nodup_cons.mp hnodup).1
  refine ⟨(List.suffix_cons s rest).trans h.suffix, fun t => ?_⟩
  rw [reports_checkSource, h.mask]
  by_cases hts : s = t
  · subst hts
    simp [hs]
  · have hupdate : Function.update loaded s last t = loaded t :=
      Function.update_of_ne (Ne.symm hts) _ _
    rw [hupdate]
    simp [hts, Ne.symm hts]

/-- The clock and the Composer's thread leave the checks alone. -/
lemma checks_step (st : System) {i : Input} (hcheck : i ≠ .check) (hstep : i ≠ .checkStep) :
    (step st i).checks = st.checks ∧ (step st i).checkPc = st.checkPc := by
  cases i with
  | tick t => exact ⟨rfl, rfl⟩
  | compose sequence => rcases hpc : st.composePc with _ | _ <;> simp [step, hpc]
  | composeStep => rcases hpc : st.composePc with _ | ⟨_, _ | ⟨_, _⟩⟩ <;> simp [step, hpc]
  | check => exact absurd rfl hcheck
  | checkStep => exact absurd rfl hstep

lemma ChecksOk.congr {st st' : System} (h : ChecksOk st)
    (hsame : st'.checks = st.checks ∧ st'.checkPc = st.checkPc) : ChecksOk st' :=
  ⟨fun now loaded mask rest he => h.loading now loaded mask rest (hsame.2 ▸ he),
    fun c hc => h.done c (hsame.1 ▸ hc)⟩

lemma checksOk_step {st : System} (h : ChecksOk st) (i : Input) : ChecksOk (step st i) := by
  have hload := h.loading
  have hdone := h.done
  cases i with
  | tick t => exact h.congr (checks_step st (by simp) (by simp))
  | compose sequence => exact h.congr (checks_step st (by simp) (by simp))
  | composeStep => exact h.congr (checks_step st (by simp) (by simp))
  | check =>
    rcases hpc : st.checkPc with _ | _
    · simp only [step, hpc]
      refine ⟨fun now loaded mask rest he => ?_, hdone⟩
      obtain ⟨rfl, rfl, rfl, rfl⟩ := CheckPc.loading.inj he
      exact loadingOk_start _
    · simp only [step, hpc]
      exact ⟨hload, hdone⟩
  | checkStep =>
    rcases hpc : st.checkPc with _ | ⟨now, loaded, mask, _ | ⟨s, rest⟩⟩
    · simp only [step, hpc]
      exact ⟨hload, hdone⟩
    · simp only [step, hpc]
      refine ⟨fun _ _ _ _ he => by simp at he, fun c hc s => ?_⟩
      rcases List.mem_append.mp hc with hold | hnew
      · exact hdone c hold s
      · rw [List.mem_singleton.mp hnew]
        simpa using (hload _ _ _ _ hpc).mask s
    · simp only [step, hpc]
      refine ⟨fun now' loaded' mask' rest' he => ?_, hdone⟩
      obtain ⟨rfl, rfl, rfl, rfl⟩ := CheckPc.loading.inj he
      exact loadingOk_step (hload _ _ _ _ hpc)

/-- **What a check reports** is decided by the times it sampled and loaded. -/
theorem checksOk_run (t0 : UInt64) (l : List Input) : ChecksOk (run step (startSystem t0) l) := by
  have hstart : ChecksOk (startSystem t0) :=
    ⟨fun _ _ _ _ h => by simp [startSystem] at h, fun c hc => by simp [startSystem] at hc⟩
  exact run_invariant (I := ChecksOk) (fun _ i h => checksOk_step h i) hstart l

end Kuavo.Composer
