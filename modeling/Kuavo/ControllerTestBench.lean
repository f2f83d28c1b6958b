import Kuavo.Lib.Runs
import Kuavo.MercuryShm
import Mathlib.Logic.Function.Basic

/-!
`tools/mercury_controller.cpp` beside the life of the shared memory segment it writes.

The Robot creates the segment, says in `lifecycle_state` that it is running, and takes that back
before it unlinks the name. The controller looks at the state where it attaches; from then on
its loop only looks at the age of the composed data. The two processes move in any order, and
both may be killed and started again.
-/

namespace Kuavo.ControllerTestBench

open Kuavo.Lib.Runs Kuavo.MercuryShm

/-- What lies behind the name, or behind a mapping of a name that is gone. -/
structure Segment where
  /-- Whether `ftruncate` gave it its size. -/
  sized : Bool := false
  shm : SharedMemoryLayout := {}
  /-- `compose_timestamp_ns` of the composed record that the index shows. -/
  compose_timestamp_ns : UInt64 := 0
  cmd_sequence : UInt64 := 0

/-- What the Robot has done last to its segment: `robotInit` on the way up, then the destructor. -/
inductive RobotPc
  | down
  | opened (i : ℕ)
  | truncated (i : ℕ)
  | zeroed (i : ℕ)
  | versioned (i : ℕ)
  | running (i : ℕ)
  | up (i : ℕ)
  | shuttingDown (i : ℕ)
  | terminated (i : ℕ)
  | threadsStopped (i : ℕ)

/-- Where the controller stands. `init` and `reattach` share their steps. -/
inductive ControllerPc
  | down
  | attach
  | opened (i : ℕ)
  | mapped (i : ℕ)
  | magicRead (i : ℕ) (magic : UInt32)
  | lifecycleRead (i : ℕ) (magic : UInt32) (lifecycle : ShmLifecycle)
  /-- Attached, at the condition of the loop. -/
  | head (i : ℕ)
  | write (i : ℕ)
  | copy (i : ℕ) (wb : UInt32) (cmd : Command)
  | flip (i : ℕ) (wb : UInt32)
  | count (i : ℕ)
  | read (i : ℕ)
  | age (i : ℕ) (compose_timestamp_ns : UInt64)

/-- A command write that was started: the segment, and the state of it that the cycle began in. -/
structure Write where
  segment : ℕ
  begunIn : ShmLifecycle

structure System where
  clock : UInt64 := 0
  /-- The segment behind `SHM_NAME`. One that nobody has created yet is empty. -/
  name : Option ℕ := none
  next : ℕ := 0
  segments : ℕ → Segment := fun _ => {}
  robot : RobotPc := .down
  controller : ControllerPc := .down
  g_running : Bool := false
  iteration : ℕ := 0
  /-- The state of the segment when the cycle under way began. -/
  begunIn : ShmLifecycle := .RUNNING
  writes : List Write := []

inductive Input
  | tick (t : UInt64)
  | robotStep
  /-- A compose cycle publishes a record it stamped at `t`. -/
  | compose (t : UInt64)
  | robotKilled
  /-- The name is removed from outside. -/
  | remove
  | launch
  | controllerStep
  | mmapFailed
  | signal
  | controllerKilled

namespace System

def onSegment (st : System) (i : ℕ) (f : Segment → Segment) : System :=
  { st with segments := Function.update st.segments i (f (st.segments i)) }

def lifecycle (st : System) (i : ℕ) : ShmLifecycle := (st.segments i).shm.lifecycle_state

end System

def storeLifecycle (state : ShmLifecycle) (s : Segment) : Segment :=
  { s with shm := { s.shm with lifecycle_state := state } }

/-! ### The Robot -/

/-- The next step of `robotInit`, or of the destructor with `detachSharedMemory`. -/
def robotStep (st : System) : System :=
  match st.robot with
  | .down =>
    match st.name with
    | some i => { st with robot := .opened i }
    | none => { st with name := some st.next, next := st.next + 1, robot := .opened st.next }
  | .opened i =>
    { st.onSegment i (fun s => { s with sized := true }) with robot := .truncated i }
  | .truncated i => { st.onSegment i (fun s => { sized := s.sized }) with robot := .zeroed i }
  | .zeroed i =>
    { st.onSegment i (fun s => { s with shm := { s.shm with version := SHM_VERSION } }) with
      robot := .versioned i }
  | .versioned i => { st.onSegment i (storeLifecycle .RUNNING) with robot := .running i }
  | .running i =>
    { st.onSegment i (fun s => { s with shm := { s.shm with magic := SHM_MAGIC } }) with
      robot := .up i }
  | .up i => { st.onSegment i (storeLifecycle .SHUTTING_DOWN) with robot := .shuttingDown i }
  | .shuttingDown i => { st.onSegment i (storeLifecycle .TERMINATED) with robot := .terminated i }
  | .terminated i => { st with robot := .threadsStopped i }
  | .threadsStopped _ => { st with name := none, robot := .down }

/-- The Composer runs from the end of `robotInit` until the destructor has joined its thread. -/
def composing : RobotPc → Option ℕ
  | .up i | .shuttingDown i | .terminated i => some i
  | _ => none

/-! ### The controller -/

/-- More than 100 ms old. The difference is unsigned. -/
def composeStale (now compose_timestamp_ns : UInt64) : Bool :=
  compose_timestamp_ns > 0 && now - compose_timestamp_ns > HEARTBEAT_STALE_NS

/-- The copy into `cmd_buffers[wb]`. -/
def copyCommand (wb : UInt32) (cmd : Command) (s : Segment) : Segment :=
  if h : wb.toNat < 2 then
    { s with
      shm := { s.shm with cmd_buffers := Function.update s.shm.cmd_buffers ⟨wb.toNat, h⟩ cmd } }
  else s

variable (total_iterations : Option ℕ) (trajectory : ℕ → Command)

/-- The loop goes on. Without a duration it has no last iteration. -/
def goesOn (st : System) : Bool :=
  st.g_running && total_iterations.all fun total => decide (st.iteration < total)

def controllerStep (st : System) : System :=
  match st.controller with
  | .down => st
  | .attach =>
    if st.g_running then
      match st.name with
      | some i => { st with controller := .opened i }
      | none => st
    else { st with controller := .down }
  | .opened i =>
    if (st.segments i).sized then { st with controller := .mapped i }
    else { st with controller := .attach }
  | .mapped i => { st with controller := .magicRead i (st.segments i).shm.magic }
  | .magicRead i magic => { st with controller := .lifecycleRead i magic (st.lifecycle i) }
  | .lifecycleRead i magic lifecycle =>
    if magic ≠ SHM_MAGIC ∨ (st.segments i).shm.version ≠ SHM_VERSION ∨ lifecycle ≠ .RUNNING then
      { st with controller := .attach }
    else { st with controller := .head i }
  | .head i =>
    if goesOn total_iterations st then
      { st with controller := .write i, begunIn := st.lifecycle i }
    else { st with controller := .down }
  | .write i =>
    let cmd := { trajectory st.iteration with timestamp_ns := st.clock }
    { st with controller := .copy i (1 - (st.segments i).shm.cmd_write_idx) cmd }
  | .copy i wb cmd =>
    { st.onSegment i (copyCommand wb cmd) with
      controller := .flip i wb
      writes := st.writes ++ [⟨i, st.begunIn⟩] }
  | .flip i wb =>
    { st.onSegment i (fun s => { s with shm := { s.shm with cmd_write_idx := wb } }) with
      controller := .count i }
  | .count i =>
    { st.onSegment i (fun s => { s with cmd_sequence := s.cmd_sequence + 1 }) with
      controller := .read i }
  | .read i => { st with controller := .age i (st.segments i).compose_timestamp_ns }
  | .age i compose_timestamp_ns =>
    { st with
      controller := if composeStale st.clock compose_timestamp_ns then .attach else .head i
      iteration := st.iteration + 1 }

def step (st : System) : Input → System
  | .tick t => { st with clock := if st.clock ≤ t then t else st.clock }
  | .robotStep => robotStep st
  | .compose t =>
    match composing st.robot with
    | some i =>
      if t ≤ st.clock then st.onSegment i (fun s => { s with compose_timestamp_ns := t }) else st
    | none => st
  | .robotKilled => { st with robot := .down }
  | .remove => { st with name := none }
  | .launch =>
    match st.controller with
    | .down => { st with controller := .attach, g_running := true, iteration := 0 }
    | _ => st
  | .controllerStep => controllerStep total_iterations trajectory st
  | .mmapFailed =>
    match st.controller with
    | .opened _ => { st with controller := .attach }
    | _ => st
  | .signal => { st with g_running := false }
  | .controllerKilled => { st with controller := .down }

/-! ### Writes on a running segment -/

/-- Every cycle that has started a write began while its segment was RUNNING. -/
def WritesRunning (st : System) : Prop := ∀ w ∈ st.writes, w.begunIn = .RUNNING

lemma WritesRunning.congr {st st' : System} (h : WritesRunning st)
    (hwrites : st'.writes = st.writes) : WritesRunning st' := by
  unfold WritesRunning
  rw [hwrites]
  exact h

/-- The segment that the controller has found RUNNING, or its data fresh, without having begun
the next cycle. -/
def committed : ControllerPc → Option ℕ
  | .lifecycleRead i magic lifecycle =>
    if magic = SHM_MAGIC ∧ lifecycle = .RUNNING then some i else none
  | .head i => some i
  | _ => none

/-- The segment and the timestamp that the controller judges by their age next. -/
def judging : ControllerPc → Option (ℕ × UInt64)
  | .age i compose_timestamp_ns => some (i, compose_timestamp_ns)
  | _ => none

/-- The segment that the next step of the Robot takes out of RUNNING. -/
def leaving : RobotPc → Option ℕ
  | .truncated i | .up i => some i
  | _ => none

/-- While the controller's loop goes on, the Robot takes no segment out of RUNNING to which the
controller is committed, and the controller's look at the age of the data does not pass a
segment that is not RUNNING. -/
def Heeded (st : System) : Input → Prop
  | .robotStep => goesOn total_iterations st = true →
      ∀ i ∈ leaving st.robot, committed st.controller ≠ some i
  | .controllerStep => goesOn total_iterations { st with iteration := st.iteration + 1 } = true →
      ∀ p ∈ judging st.controller,
        st.lifecycle p.1 ≠ .RUNNING → composeStale st.clock p.2 = true
  | _ => True

instance (st : System) : (i : Input) → Decidable (Heeded total_iterations st i)
  | .robotStep =>
    inferInstanceAs (Decidable (goesOn total_iterations st = true →
      ∀ i ∈ leaving st.robot, committed st.controller ≠ some i))
  | .controllerStep =>
    inferInstanceAs (Decidable
      (goesOn total_iterations { st with iteration := st.iteration + 1 } = true →
        ∀ p ∈ judging st.controller,
          st.lifecycle p.1 ≠ .RUNNING → composeStale st.clock p.2 = true))
  | .tick _ | .compose _ | .robotKilled | .remove | .launch | .mmapFailed | .signal
  | .controllerKilled => isTrue trivial

/-! ### What the Robot says of its segment -/

lemma segments_onSegment (st : System) (i : ℕ) (f : Segment → Segment) (j : ℕ) :
    (st.onSegment i f).segments j = if j = i then f (st.segments i) else st.segments j := by
  by_cases h : j = i
  · subst h
    simp [System.onSegment]
  · simp [System.onSegment, h]

/-- The segments whose version the Robot has written, and not yet taken out of RUNNING. -/
def versioned : RobotPc → Option ℕ
  | .versioned i | .running i | .up i => some i
  | _ => none

/-- The Robot has written the version before it is up, and has left RUNNING before it is
terminated. -/
structure RobotOk (st : System) : Prop where
  version : ∀ i, versioned st.robot = some i → (st.segments i).shm.version = SHM_VERSION
  shuttingDown : ∀ i, st.robot = .shuttingDown i → st.lifecycle i ≠ .RUNNING

/-- What all steps but the Robot's own leave of a segment. -/
structure Kept (st st' : System) : Prop where
  lifecycle : ∀ j, st'.lifecycle j = st.lifecycle j
  version : ∀ j, (st'.segments j).shm.version = (st.segments j).shm.version
  robot : st'.robot = st.robot ∨ st'.robot = .down

lemma kept_onSegment (st : System) (i : ℕ) {f : Segment → Segment}
    (hl : ∀ s, (f s).shm.lifecycle_state = s.shm.lifecycle_state)
    (hv : ∀ s, (f s).shm.version = s.shm.version) : Kept st (st.onSegment i f) := by
  refine ⟨fun j => ?_, fun j => ?_, Or.inl rfl⟩
  · unfold System.lifecycle
    rw [segments_onSegment]
    split_ifs with h
    · rw [h, hl]
    · rfl
  · rw [segments_onSegment]
    split_ifs with h
    · rw [h, hv]
    · rfl

variable {total_iterations trajectory}

variable (total_iterations) in
/-- What a step of the controller does to what it is committed to, and to the log. -/
inductive ControllerMove (st st' : System) : Prop
  /-- It ends up committed to nothing. -/
  | free (hpc' : committed st'.controller = none) (hbegun : st'.begunIn = st.begunIn)
      (hwrites : st'.writes = st.writes)
  /-- It reads the state of the segment it has mapped. -/
  | look (i : ℕ) (magic : UInt32)
      (hpc' : st'.controller = .lifecycleRead i magic (st.lifecycle i))
      (hbegun : st'.begunIn = st.begunIn) (hwrites : st'.writes = st.writes)
  /-- It attaches to the segment whose state it has read. -/
  | attach (i : ℕ) (hpc : committed st.controller = some i) (hpc' : st'.controller = .head i)
      (hgo : goesOn total_iterations st' = goesOn total_iterations st)
      (hbegun : st'.begunIn = st.begunIn) (hwrites : st'.writes = st.writes)
  | cycle (i : ℕ) (hpc : st.controller = .head i) (hgo : goesOn total_iterations st = true)
      (hpc' : st'.controller = .write i) (hbegun : st'.begunIn = st.lifecycle i)
      (hwrites : st'.writes = st.writes)
  | write (i : ℕ) (hpc' : committed st'.controller = none) (hbegun : st'.begunIn = st.begunIn)
      (hwrites : st'.writes = st.writes ++ [⟨i, st.begunIn⟩])
  /-- It finds the data fresh and keeps the segment. -/
  | keep (i : ℕ) (compose_timestamp_ns : UInt64)
      (hpc : judging st.controller = some (i, compose_timestamp_ns))
      (hfresh : composeStale st.clock compose_timestamp_ns = false)
      (hpc' : st'.controller = .head i)
      (hgo : goesOn total_iterations st' =
        goesOn total_iterations { st with iteration := st.iteration + 1 })
      (hbegun : st'.begunIn = st.begunIn) (hwrites : st'.writes = st.writes)

lemma kept_of_segments {st st' : System} (hs : st'.segments = st.segments)
    (hr : st'.robot = st.robot) : Kept st st' :=
  ⟨fun j => by unfold System.lifecycle; rw [hs], fun j => by rw [hs], Or.inl hr⟩

lemma copyCommand_kept (wb : UInt32) (cmd : Command) (s : Segment) :
    (copyCommand wb cmd s).shm.lifecycle_state = s.shm.lifecycle_state ∧
      (copyCommand wb cmd s).shm.version = s.shm.version := by
  unfold copyCommand
  split_ifs
  · exact ⟨rfl, rfl⟩
  · exact ⟨rfl, rfl⟩

variable (total_iterations trajectory) in
/-- **One step of the controller** leaves state and version of every segment, and is one of its
moves. -/
lemma controllerStep_spec (st : System) :
    Kept st (controllerStep total_iterations trajectory st) ∧
      ControllerMove total_iterations st (controllerStep total_iterations trajectory st) := by
  cases hpc : st.controller with
  | down =>
    simp only [controllerStep, hpc]
    exact ⟨kept_of_segments rfl rfl, .free (by rw [hpc]; rfl) rfl rfl⟩
  | attach =>
    simp only [controllerStep, hpc]
    split_ifs
    · rcases st.name with _ | i
      · exact ⟨kept_of_segments rfl rfl, .free (by rw [hpc]; rfl) rfl rfl⟩
      · exact ⟨kept_of_segments rfl rfl, .free rfl rfl rfl⟩
    · exact ⟨kept_of_segments rfl rfl, .free rfl rfl rfl⟩
  | opened i =>
    simp only [controllerStep, hpc]
    split_ifs
    · exact ⟨kept_of_segments rfl rfl, .free rfl rfl rfl⟩
    · exact ⟨kept_of_segments rfl rfl, .free rfl rfl rfl⟩
  | mapped i =>
    simp only [controllerStep, hpc]
    exact ⟨kept_of_segments rfl rfl, .free rfl rfl rfl⟩
  | magicRead i magic =>
    simp only [controllerStep, hpc]
    exact ⟨kept_of_segments rfl rfl, .look i magic rfl rfl rfl⟩
  | lifecycleRead i magic lifecycle =>
    simp only [controllerStep, hpc]
    split_ifs with hbad
    · exact ⟨kept_of_segments rfl rfl, .free rfl rfl rfl⟩
    · simp only [ne_eq, not_or, not_not] at hbad
      obtain ⟨hmagic, -, hl⟩ := hbad
      have hread : committed st.controller = some i := by
        rw [hpc]
        exact if_pos ⟨hmagic, hl⟩
      exact ⟨kept_of_segments rfl rfl, .attach i hread rfl rfl rfl rfl⟩
  | head i =>
    simp only [controllerStep, hpc]
    split_ifs with hgo
    · exact ⟨kept_of_segments rfl rfl, .cycle i hpc hgo rfl rfl rfl⟩
    · exact ⟨kept_of_segments rfl rfl, .free rfl rfl rfl⟩
  | write i =>
    simp only [controllerStep, hpc]
    exact ⟨kept_of_segments rfl rfl, .free rfl rfl rfl⟩
  | copy i wb cmd =>
    simp only [controllerStep, hpc]
    have hkept := kept_onSegment st i (fun s => (copyCommand_kept wb cmd s).1)
      (fun s => (copyCommand_kept wb cmd s).2)
    exact ⟨⟨hkept.lifecycle, hkept.version, hkept.robot⟩, .write i rfl rfl rfl⟩
  | flip i wb =>
    simp only [controllerStep, hpc]
    have hkept := kept_onSegment st i
      (f := fun s => { s with shm := { s.shm with cmd_write_idx := wb } }) (fun _ => rfl)
      (fun _ => rfl)
    exact ⟨⟨hkept.lifecycle, hkept.version, hkept.robot⟩, .free rfl rfl rfl⟩
  | count i =>
    simp only [controllerStep, hpc]
    have hkept := kept_onSegment st i
      (f := fun s => { s with cmd_sequence := s.cmd_sequence + 1 }) (fun _ => rfl) (fun _ => rfl)
    exact ⟨⟨hkept.lifecycle, hkept.version, hkept.robot⟩, .free rfl rfl rfl⟩
  | read i =>
    simp only [controllerStep, hpc]
    exact ⟨kept_of_segments rfl rfl, .free rfl rfl rfl⟩
  | age i ts =>
    simp only [controllerStep, hpc]
    split_ifs with hstale
    · exact ⟨kept_of_segments rfl rfl, .free rfl rfl rfl⟩
    · have hjudging : judging st.controller = some (i, ts) := by rw [hpc]; rfl
      exact ⟨kept_of_segments rfl rfl,
        .keep i ts hjudging (by simpa using hstale) rfl rfl rfl rfl⟩

variable (total_iterations trajectory) in
lemma kept_step (st : System) {i : Input} (h : i ≠ .robotStep) :
    Kept st (step total_iterations trajectory st i) := by
  have hrefl : Kept st st := ⟨fun _ => rfl, fun _ => rfl, Or.inl rfl⟩
  cases i with
  | robotStep => exact absurd rfl h
  | controllerStep => exact (controllerStep_spec total_iterations trajectory st).1
  | compose t =>
    rcases hpc : composing st.robot with _ | i
    · simp only [step, hpc]
      exact hrefl
    · simp only [step, hpc]
      split_ifs
      · exact kept_onSegment st i (fun _ => rfl) (fun _ => rfl)
      · exact hrefl
  | robotKilled => exact ⟨fun _ => rfl, fun _ => rfl, Or.inr rfl⟩
  | launch =>
    rcases hpc : st.controller
    all_goals
      simp only [step, hpc]
      exact ⟨fun _ => rfl, fun _ => rfl, Or.inl rfl⟩
  | mmapFailed =>
    rcases hpc : st.controller
    all_goals
      simp only [step, hpc]
      exact ⟨fun _ => rfl, fun _ => rfl, Or.inl rfl⟩
  | tick t => exact ⟨fun _ => rfl, fun _ => rfl, Or.inl rfl⟩
  | remove => exact ⟨fun _ => rfl, fun _ => rfl, Or.inl rfl⟩
  | signal => exact ⟨fun _ => rfl, fun _ => rfl, Or.inl rfl⟩
  | controllerKilled => exact ⟨fun _ => rfl, fun _ => rfl, Or.inl rfl⟩

lemma robotOk_of_versioned_none {st : System} (hv : versioned st.robot = none)
    (hs : ∀ i, st.robot ≠ .shuttingDown i) : RobotOk st :=
  ⟨fun i hi => by simp [hv] at hi, fun i hi => absurd hi (hs i)⟩

lemma robotOk_of_kept {st st' : System} (hk : Kept st st') (h : RobotOk st) : RobotOk st' := by
  rcases hk.robot with hr | hr
  · refine ⟨fun i hi => ?_, fun i hi => ?_⟩
    · rw [hk.version]
      exact h.version i (hr ▸ hi)
    · rw [hk.lifecycle]
      exact h.shuttingDown i (hr ▸ hi)
  · exact robotOk_of_versioned_none (by rw [hr]; rfl) (by simp [hr])

/-- The segment that a step of the Robot writes is the one it has opened. -/
lemma robotOk_robotStep {st : System} (h : RobotOk st) : RobotOk (robotStep st) := by
  cases hpc : st.robot with
  | down =>
    rcases hname : st.name with _ | i
    · simp only [robotStep, hpc, hname]
      exact robotOk_of_versioned_none rfl (by simp)
    · simp only [robotStep, hpc, hname]
      exact robotOk_of_versioned_none rfl (by simp)
  | opened i =>
    simp only [robotStep, hpc]
    exact robotOk_of_versioned_none rfl (by simp)
  | truncated i =>
    simp only [robotStep, hpc]
    exact robotOk_of_versioned_none rfl (by simp)
  | zeroed i =>
    simp only [robotStep, hpc]
    refine ⟨fun j hj => ?_, fun _ hi => by simp at hi⟩
    obtain rfl : i = j := by simpa [versioned] using hj
    simp [segments_onSegment]
  | versioned i =>
    simp only [robotStep, hpc]
    refine ⟨fun j hj => ?_, fun _ hi => by simp at hi⟩
    obtain rfl : i = j := by simpa [versioned] using hj
    simpa [segments_onSegment, storeLifecycle] using h.version i (by simp [hpc, versioned])
  | running i =>
    simp only [robotStep, hpc]
    refine ⟨fun j hj => ?_, fun _ hi => by simp at hi⟩
    obtain rfl : i = j := by simpa [versioned] using hj
    simpa [segments_onSegment] using h.version i (by simp [hpc, versioned])
  | up i =>
    simp only [robotStep, hpc]
    refine ⟨fun _ hi => by simp [versioned] at hi, fun j hj => ?_⟩
    obtain rfl : i = j := by simpa using hj
    simp [System.lifecycle, segments_onSegment, storeLifecycle]
  | shuttingDown i =>
    simp only [robotStep, hpc]
    exact robotOk_of_versioned_none rfl (by simp)
  | terminated i =>
    simp only [robotStep, hpc]
    exact robotOk_of_versioned_none rfl (by simp)
  | threadsStopped i =>
    simp only [robotStep, hpc]
    exact robotOk_of_versioned_none rfl (by simp)

/-! ### The controller's look -/

variable (total_iterations) in
/-- To whatever segment the controller is committed, it is RUNNING, or the loop is over. -/
structure Inv (st : System) : Prop where
  robot : RobotOk st
  committed : ∀ i, committed st.controller = some i → goesOn total_iterations st = true →
    st.lifecycle i = .RUNNING
  begunIn : st.begunIn = .RUNNING
  writes : WritesRunning st

/-- A step of the Robot takes only the segment it is leaving out of RUNNING. -/
lemma running_robotStep {st : System} (h : RobotOk st) {j : ℕ} (hj : st.lifecycle j = .RUNNING)
    (hleave : leaving st.robot ≠ some j) : (robotStep st).lifecycle j = .RUNNING := by
  unfold System.lifecycle at hj ⊢
  cases hpc : st.robot with
  | down =>
    rcases hname : st.name with _ | i
    · simpa only [robotStep, hpc, hname] using hj
    · simpa only [robotStep, hpc, hname] using hj
  | opened i =>
    simp only [robotStep, hpc, segments_onSegment]
    split_ifs with hij
    · exact hij ▸ hj
    · exact hj
  | truncated i =>
    have hij : j ≠ i := fun he => hleave (by simp [hpc, leaving, he])
    simp only [robotStep, hpc, segments_onSegment, if_neg hij]
    exact hj
  | zeroed i =>
    simp only [robotStep, hpc, segments_onSegment]
    split_ifs with hij
    · exact hij ▸ hj
    · exact hj
  | versioned i =>
    simp only [robotStep, hpc, segments_onSegment]
    split_ifs with hij
    · rfl
    · exact hj
  | running i =>
    simp only [robotStep, hpc, segments_onSegment]
    split_ifs with hij
    · exact hij ▸ hj
    · exact hj
  | up i =>
    have hij : j ≠ i := fun he => hleave (by simp [hpc, leaving, he])
    simp only [robotStep, hpc, segments_onSegment, if_neg hij]
    exact hj
  | shuttingDown i =>
    -- the state that is about to become TERMINATED has left RUNNING already
    have hij : j ≠ i := by
      rintro rfl
      exact h.shuttingDown j hpc hj
    simp only [robotStep, hpc, segments_onSegment, if_neg hij]
    exact hj
  | terminated i =>
    simpa only [robotStep, hpc] using hj
  | threadsStopped i =>
    simpa only [robotStep, hpc] using hj

/-- The Robot's steps leave the controller and its log alone. -/
lemma robotStep_frame (st : System) :
    (robotStep st).controller = st.controller ∧ (robotStep st).begunIn = st.begunIn ∧
      (robotStep st).writes = st.writes ∧ (robotStep st).g_running = st.g_running ∧
      (robotStep st).iteration = st.iteration := by
  rcases hpc : st.robot with _ | i | i | i | i | i | i | i | i | i
  · rcases hname : st.name with _ | i <;> simp [robotStep, hpc, hname]
  all_goals simp [robotStep, hpc, System.onSegment]

lemma goesOn_robotStep (st : System) :
    goesOn total_iterations (robotStep st) = goesOn total_iterations st := by
  obtain ⟨-, -, -, hrunning, hiteration⟩ := robotStep_frame st
  unfold goesOn
  rw [hrunning, hiteration]

lemma inv_robotStep {st : System} (h : Inv total_iterations st)
    (hi : Heeded total_iterations st .robotStep) : Inv total_iterations (robotStep st) := by
  obtain ⟨hcontroller, hbegun, hwrites, -, -⟩ := robotStep_frame st
  refine ⟨robotOk_robotStep h.robot, fun j hj hgo => ?_, hbegun.trans h.begunIn,
    h.writes.congr hwrites⟩
  rw [hcontroller] at hj
  rw [goesOn_robotStep] at hgo
  exact running_robotStep h.robot (h.committed j hj hgo) fun hleave => hi hgo j hleave hj

/-- The controller commits itself to a segment that is RUNNING only, a cycle begins in the state
that it was committed to, and a write is logged with the state its cycle began in. -/
lemma inv_controllerStep {st : System} (h : Inv total_iterations st)
    (hi : Heeded total_iterations st .controllerStep) :
    Inv total_iterations (controllerStep total_iterations trajectory st) := by
  obtain ⟨hkept, hmove⟩ := controllerStep_spec total_iterations trajectory st
  generalize controllerStep total_iterations trajectory st = st' at hkept hmove
  have hok := robotOk_of_kept hkept h.robot
  cases hmove with
  | free hpc' hbegun hwrites =>
    exact ⟨hok, fun j hj => by simp [hpc'] at hj, hbegun.trans h.begunIn, h.writes.congr hwrites⟩
  | look i magic hpc' hbegun hwrites =>
    refine ⟨hok, fun j hj _ => ?_, hbegun.trans h.begunIn, h.writes.congr hwrites⟩
    obtain ⟨⟨-, hl⟩, rfl⟩ : (magic = SHM_MAGIC ∧ st.lifecycle i = .RUNNING) ∧ i = j := by
      simpa [hpc', committed] using hj
    rw [hkept.lifecycle, hl]
  | attach i hpc hpc' hgo hbegun hwrites =>
    refine ⟨hok, fun j hj hgo' => ?_, hbegun.trans h.begunIn, h.writes.congr hwrites⟩
    obtain rfl : i = j := by simpa [hpc', committed] using hj
    rw [hkept.lifecycle]
    exact h.committed i hpc (hgo ▸ hgo')
  | cycle i hpc hgo hpc' hbegun hwrites =>
    refine ⟨hok, fun j hj => by simp [hpc', committed] at hj, ?_, h.writes.congr hwrites⟩
    exact hbegun.trans (h.committed i (by rw [hpc]; rfl) hgo)
  | write i hpc' hbegun hwrites =>
    refine ⟨hok, fun j hj => by simp [hpc'] at hj, hbegun.trans h.begunIn, fun w hw => ?_⟩
    rw [hwrites] at hw
    rcases List.mem_append.mp hw with hw | hw
    · exact h.writes w hw
    · rw [List.mem_singleton.mp hw]
      exact h.begunIn
  | keep i ts hpc hfresh hpc' hgo hbegun hwrites =>
    refine ⟨hok, fun j hj hgo' => ?_, hbegun.trans h.begunIn, h.writes.congr hwrites⟩
    obtain rfl : i = j := by simpa [hpc', committed] using hj
    rw [hkept.lifecycle]
    by_contra hl
    have hstale := hi (hgo ▸ hgo') (i, ts) hpc hl
    rw [hfresh] at hstale
    simp at hstale

/-- A step that takes the controller nowhere else, and lets a loop that is over stay over. -/
lemma inv_of_kept {st st' : System} (h : Inv total_iterations st) (hk : Kept st st')
    (hc : ∀ j, committed st'.controller = some j → committed st.controller = some j ∧
      (goesOn total_iterations st' = true → goesOn total_iterations st = true))
    (hb : st'.begunIn = st.begunIn) (hw : st'.writes = st.writes) : Inv total_iterations st' := by
  refine ⟨robotOk_of_kept hk h.robot, fun j hj hgo => ?_, hb.trans h.begunIn, h.writes.congr hw⟩
  obtain ⟨hj', hgo'⟩ := hc j hj
  rw [hk.lifecycle]
  exact h.committed j hj' (hgo' hgo)

lemma inv_step {st : System} (i : Input) (h : Inv total_iterations st)
    (hi : Heeded total_iterations st i) :
    Inv total_iterations (step total_iterations trajectory st i) := by
  by_cases hrobot : i = .robotStep
  · subst hrobot
    exact inv_robotStep h hi
  have hkept := kept_step total_iterations trajectory st hrobot
  cases i with
  | robotStep => exact absurd rfl hrobot
  | controllerStep => exact inv_controllerStep h hi
  | compose t =>
    refine inv_of_kept h hkept ?_ ?_ ?_
    all_goals
      rcases hc : composing st.robot with _ | k
      · simp [step, hc]
      · by_cases ht : t ≤ st.clock <;> simp [step, hc, ht, System.onSegment, goesOn]
  | launch =>
    rcases hpc : st.controller
    · refine inv_of_kept h hkept ?_ ?_ ?_
      all_goals simp [step, hpc, committed]
    all_goals
      simp only [step, hpc]
      exact h
  | mmapFailed =>
    rcases hpc : st.controller
    case opened k =>
      refine inv_of_kept h hkept ?_ ?_ ?_
      all_goals simp [step, hpc, committed]
    all_goals
      simp only [step, hpc]
      exact h
  | controllerKilled =>
    exact inv_of_kept h hkept (fun j hj => by simp [step, committed] at hj) rfl rfl
  | signal => exact inv_of_kept h hkept (fun _ hj => ⟨hj, by simp [step, goesOn]⟩) rfl rfl
  | tick t => exact inv_of_kept h hkept (fun _ hj => ⟨hj, id⟩) rfl rfl
  | robotKilled => exact inv_of_kept h hkept (fun _ hj => ⟨hj, id⟩) rfl rfl
  | remove => exact inv_of_kept h hkept (fun _ hj => ⟨hj, id⟩) rfl rfl

variable (total_iterations) in
lemma inv_start : Inv total_iterations {} :=
  ⟨⟨fun _ hi => by simp [versioned] at hi, fun _ hi => by simp at hi⟩,
    fun _ hj => by simp [committed] at hj, rfl, fun _ hw => by simp at hw⟩

variable (total_iterations trajectory) in
/-- However the two processes go on heeding each other, they write on running segments only. -/
def Safe (st : System) : Prop :=
  ∀ m, Each (step total_iterations trajectory) (Heeded total_iterations) st m →
    WritesRunning (run (step total_iterations trajectory) st m)

lemma safe_of_inv {st : System} (h : Inv total_iterations st) :
    Safe total_iterations trajectory st :=
  fun _ hm => (hm.invariant (fun _ i hinv hi => inv_step i hinv hi) h).writes

/-- **Writes on a running segment.** In every run of both processes in which the Robot leaves
RUNNING only while the controller is not committed to the segment, and the controller's look at
the age of the data passes no segment that has left it, every cycle that started a write began
while its segment was RUNNING. -/
theorem writesRunning_run (total_iterations : Option ℕ) (trajectory : ℕ → Command)
    (l : List Input)
    (h : Each (step total_iterations trajectory) (Heeded total_iterations) {} l) :
    WritesRunning (run (step total_iterations trajectory) {} l) :=
  safe_of_inv (inv_start total_iterations) l h

/-- The Robot comes up, composes a record, and the controller attaches. -/
def attached : List Input :=
  .tick 1 :: List.replicate 6 .robotStep ++ [.compose 1, .launch] ++
    List.replicate 5 .controllerStep

/-- The Robot shuts down while the controller is in its first cycle, and takes so long to get
there that the controller detaches. -/
def shutDownInCycle : List Input :=
  attached ++ List.replicate 6 .controllerStep ++
    [.tick 200000000, .robotStep, .controllerStep]

theorem writesRunning_run_shutDownInCycle :
    Each (step none fun _ => {}) (Heeded none) {} shutDownInCycle ∧
    (run (step none fun _ => {}) {} shutDownInCycle).writes.length = 1 ∧
    WritesRunning (run (step none fun _ => {}) {} shutDownInCycle) := by
  have hheeded : Each (step none fun _ => {}) (Heeded none) {} shutDownInCycle := by decide
  exact ⟨hheeded, by decide, writesRunning_run none (fun _ => {}) shutDownInCycle hheeded⟩

/-- The Robot shuts down and removes the segment while the controller waits for its next cycle. -/
def shutDownBetweenCycles : List Input :=
  attached ++ List.replicate 4 .robotStep ++ List.replicate 3 .controllerStep

/-- The controller writes to the segment it still has mapped. -/
theorem terminated_written :
    ¬ WritesRunning (run (step none fun _ => {}) {} shutDownBetweenCycles) := by
  intro h
  have hwrites : (run (step none fun _ => {}) {} shutDownBetweenCycles).writes.map Write.begunIn =
      [.TERMINATED] := by decide
  obtain ⟨w, hw, hbegun⟩ := List.map_eq_singleton_iff.mp hwrites
  have hrunning := h w (by rw [hw]; simp)
  rw [hbegun] at hrunning
  simp at hrunning

/-! ### Where a step is not heeded -/

variable (trajectory) in
/-- The next cycle of an attached controller writes, whatever the state of its segment. -/
lemma writes_of_head (st : System) {k : ℕ} (hpc : st.controller = .head k)
    (hgo : goesOn total_iterations st = true) (hl : st.lifecycle k ≠ .RUNNING) :
    Each (step total_iterations trajectory) (Heeded total_iterations) st
        (List.replicate 3 .controllerStep) ∧
      ¬ WritesRunning (run (step total_iterations trajectory) st
        (List.replicate 3 .controllerStep)) := by
  refine ⟨?_, fun hw => ?_⟩
  · simp [List.replicate, Heeded, judging, step, controllerStep, hpc, hgo]
  · have hmem : (⟨k, st.lifecycle k⟩ : Write) ∈ (run (step total_iterations trajectory) st
        (List.replicate 3 .controllerStep)).writes := by
      simp [List.replicate, step, controllerStep, hpc, hgo]
    exact hl (hw _ hmem)

variable (trajectory) in
/-- The same, from the last of its checks where it attaches. -/
lemma writes_of_lifecycleRead {st : System} {k : ℕ}
    (hpc : st.controller = .lifecycleRead k SHM_MAGIC .RUNNING)
    (hversion : (st.segments k).shm.version = SHM_VERSION)
    (hgo : goesOn total_iterations st = true) (hl : st.lifecycle k ≠ .RUNNING) :
    Each (step total_iterations trajectory) (Heeded total_iterations) st
        (List.replicate 4 .controllerStep) ∧
      ¬ WritesRunning (run (step total_iterations trajectory) st
        (List.replicate 4 .controllerStep)) := by
  have hstep : step total_iterations trajectory st .controllerStep =
      { st with controller := .head k } := by
    simp [step, controllerStep, hpc, hversion]
  have hnext := writes_of_head trajectory { st with controller := .head k } rfl hgo hl
  rw [List.replicate_succ, each_cons, run_cons, hstep]
  refine ⟨⟨fun _ p hp => ?_, hnext.1⟩, hnext.2⟩
  simp [hpc, judging] at hp

/-- What the step leaves behind that takes a segment out of RUNNING: the state, and a version
that the Robot has written or writes next. -/
lemma left_robotStep {st : System} (h : RobotOk st) {k : ℕ} (hleave : leaving st.robot = some k) :
    (robotStep st).lifecycle k ≠ .RUNNING ∧
      (((robotStep st).segments k).shm.version = SHM_VERSION ∨
        (robotStep st).robot = .zeroed k) := by
  rcases hpc : st.robot with _ | i | i | i | i | i | i | i | i | i
  case truncated =>
    obtain rfl : i = k := by simpa [hpc, leaving] using hleave
    refine ⟨?_, Or.inr (by simp [robotStep, hpc])⟩
    simp [robotStep, hpc, System.lifecycle, segments_onSegment]
  case up =>
    obtain rfl : i = k := by simpa [hpc, leaving] using hleave
    refine ⟨?_, Or.inl ?_⟩
    · simp [robotStep, hpc, System.lifecycle, segments_onSegment, storeLifecycle]
    · have hversion := h.version i (by simp [hpc, versioned])
      simpa [robotStep, hpc, segments_onSegment, storeLifecycle] using hversion
  all_goals simp [hpc, leaving] at hleave

lemma heeded_robotStep_of_safe {st : System} (h : RobotOk st)
    (hsafe : Safe total_iterations trajectory (robotStep st)) :
    Heeded total_iterations st .robotStep := by
  intro hgo k hleave hcommitted
  rw [← goesOn_robotStep] at hgo
  obtain ⟨hleft, hversion⟩ := left_robotStep h hleave
  obtain ⟨hcontroller, -, -, -, -⟩ := robotStep_frame st
  rcases hpc : st.controller
  case head j =>
    obtain rfl : j = k := by simpa [hpc, committed] using hcommitted
    obtain ⟨hheeded, hbad⟩ := writes_of_head trajectory _ (hcontroller.trans hpc) hgo hleft
    exact hbad (hsafe _ hheeded)
  case lifecycleRead j magic lifecycle =>
    obtain ⟨⟨rfl, rfl⟩, rfl⟩ : (magic = SHM_MAGIC ∧ lifecycle = .RUNNING) ∧ j = k := by
      simpa [hpc, committed] using hcommitted
    have hread := hcontroller.trans hpc
    rcases hversion with hversion | hzeroed
    · obtain ⟨hheeded, hbad⟩ := writes_of_lifecycleRead trajectory hread hversion hgo hleft
      exact hbad (hsafe _ hheeded)
    · -- the segment is zeroed, and the Robot writes its version before the controller looks
      have hnext : robotStep (robotStep st) =
          { (robotStep st).onSegment j
              (fun s => { s with shm := { s.shm with version := SHM_VERSION } }) with
            robot := .versioned j } := by
        generalize robotStep st = st' at hzeroed
        simp [robotStep, hzeroed]
      have hread' : (robotStep (robotStep st)).controller =
          .lifecycleRead j SHM_MAGIC .RUNNING := (robotStep_frame _).1.trans hread
      have hversion' : ((robotStep (robotStep st)).segments j).shm.version = SHM_VERSION := by
        rw [hnext]
        simp [segments_onSegment]
      have hleft' : (robotStep (robotStep st)).lifecycle j ≠ .RUNNING := by
        unfold System.lifecycle at hleft ⊢
        rw [hnext]
        simpa [segments_onSegment] using hleft
      have hgo' : goesOn total_iterations (robotStep (robotStep st)) = true :=
        (goesOn_robotStep _).trans hgo
      obtain ⟨hheeded, hbad⟩ := writes_of_lifecycleRead trajectory hread' hversion' hgo'
        hleft'
      refine hbad (hsafe (.robotStep :: List.replicate 4 .controllerStep) ⟨?_, hheeded⟩)
      intro _ i hi
      simp [hzeroed, leaving] at hi
  all_goals simp [hpc, committed] at hcommitted

lemma heeded_controllerStep_of_safe {st : System}
    (hsafe : Safe total_iterations trajectory
      (controllerStep total_iterations trajectory st)) :
    Heeded total_iterations st .controllerStep := by
  rintro hgo ⟨k, ts⟩ hjudging hl
  have hpc : st.controller = .age k ts := by
    rcases hc : st.controller
    case age i t =>
      obtain ⟨rfl, rfl⟩ : i = k ∧ t = ts := by simpa [hc, judging] using hjudging
      rfl
    all_goals simp [hc, judging] at hjudging
  by_contra hfresh
  have hstep : controllerStep total_iterations trajectory st =
      { st with controller := .head k, iteration := st.iteration + 1 } := by
    simp [controllerStep, hpc, hfresh]
  rw [hstep] at hsafe
  obtain ⟨hheeded, hbad⟩ := writes_of_head trajectory
    { st with controller := .head k, iteration := st.iteration + 1 } rfl hgo hl
  exact hbad (hsafe _ hheeded)

/-- **No step can be spared.** Two processes heed each other in a run exactly where they can go
on from each of its states without a write in a cycle that begins after its segment has left
RUNNING. -/
theorem heeded_run_iff (total_iterations : Option ℕ) (trajectory : ℕ → Command)
    (l : List Input) :
    Each (step total_iterations trajectory) (Heeded total_iterations) {} l ↔
      Each (step total_iterations trajectory)
        (fun st i => Safe total_iterations trajectory
          (step total_iterations trajectory st i)) {} l := by
  have hstep : ∀ st i, Inv total_iterations st → (Heeded total_iterations st i ↔
      Safe total_iterations trajectory (step total_iterations trajectory st i)) := by
    intro st i h
    refine ⟨fun hi => safe_of_inv (inv_step i h hi), fun hsafe => ?_⟩
    cases i with
    | robotStep => exact heeded_robotStep_of_safe h.robot hsafe
    | controllerStep => exact heeded_controllerStep_of_safe hsafe
    | _ => trivial
  exact each_congr (fun st i h hi => inv_step i h hi) hstep (inv_start total_iterations) l

end Kuavo.ControllerTestBench
