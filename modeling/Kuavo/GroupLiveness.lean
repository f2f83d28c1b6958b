import Kuavo.Staleness

/-!
What a motor group's staleness says of its motors, between four threads.

A motor's feedback lands in its leg; the leg's cycle stages a record of its motors, under the
number that follows the Composer's own count of compose cycles; a compose cycle stores its
time when it meets a record with another number; the main loop's check compares that time
with the clock. A staged record is published and read as a whole here.
-/

namespace Kuavo.GroupLiveness

open Kuavo.Composer Kuavo.Lib.Runs Kuavo.MercuryShm Kuavo.Staleness

/-- What a compose cycle read of a source: the time it sampled, and the sequence. -/
structure Look where
  now : UInt64
  sequence : UInt64

structure System where
  composer : Composer.System
  legs : Side → Legged
  /-- `composed_sequence` of the segment. -/
  composed_sequence : UInt64 := 0
  /-- The sequences of the records in the staging buffers. -/
  staged : Source → UInt64 := fun _ => 0
  /-- The sequence of the record that a leg's cycle has built and not published. -/
  publishing : Side → Option UInt64 := fun _ => none
  /-- The staging buffers that the compose cycle has still to read, and what it has read. -/
  unread : List Source := sources
  read : Source → UInt64 := fun _ => 0
  /-- When the Composer was started. -/
  started : UInt64
  /-- When feedback frames reached the motors of each leg. -/
  feedbacks : Side → List UInt64 := fun _ => []
  /-- What the compose cycles so far read of each source, the last one first. -/
  looks : Source → List Look := fun _ => []

inductive Input
  | tick (t : UInt64)
  /-- An operation on a leg. A cycle goes as far as its load of `composed_sequence`. -/
  | leg (s : Side) (op : LegRun.LegOp)
  | publish (s : Side)
  | publishImu (sequence : UInt64)
  | composeStep
  | check
  | checkStep

/-- An operation on a leg. Feedback is stamped with the clock. -/
def legStep (st : System) (s : Side) : LegRun.LegOp → System
  | .controllerPeriodic c =>
    match st.publishing s with
    | some _ => st
    | none =>
      let c := { c with shm := { c.shm with composed_sequence := st.composed_sequence } }
      let r := (st.legs s).controllerPeriodic c
      { st with
        legs := Function.update st.legs s r.1.1
        publishing := Function.update st.publishing s (r.2.map MotorGroupStageData.sequence) }
  | .feedback i r _ =>
    { st with
      legs := Function.update st.legs s (LegRun.feedback (st.legs s) i r st.composer.clock).1
      feedbacks :=
        if i < (st.legs s).motors.length then
          Function.update st.feedbacks s (st.composer.clock :: st.feedbacks s)
        else st.feedbacks }
  | op => { st with legs := Function.update st.legs s (LegRun.apply (st.legs s) op).1 }

/-- The Composer's thread: it reads the three buffers, samples the clock, goes through the
sources and counts the cycle. -/
def composeStep (st : System) : System :=
  match st.unread with
  | s :: rest =>
    { st with
      read := Function.update st.read s (st.staged s)
      unread := rest }
  | [] =>
    match st.composer.composePc with
    | .idle => { st with composer := Composer.step st.composer (.compose st.read) }
    | .tracking now ((s, sequence) :: _) =>
      { st with
        composer := Composer.step st.composer .composeStep
        looks := Function.update st.looks s (⟨now, sequence⟩ :: st.looks s) }
    | .tracking _ [] =>
      { st with
        composer := Composer.step st.composer .composeStep
        composed_sequence := st.composed_sequence + 1
        unread := sources }

def step (st : System) : Input → System
  | .tick t => { st with composer := Composer.step st.composer (.tick t) }
  | .leg s op => legStep st s op
  | .publish s =>
    match st.publishing s with
    | some sequence =>
      { st with
        staged := Function.update st.staged s.group sequence
        publishing := Function.update st.publishing s none }
    | none => st
  | .publishImu sequence => { st with staged := Function.update st.staged .imu sequence }
  | .composeStep => composeStep st
  | .check => { st with composer := Composer.step st.composer .check }
  | .checkStep => { st with composer := Composer.step st.composer .checkStep }

def start (leftBase rightBase motorsPerLeg : ℕ) (t0 : UInt64) : System where
  composer := startSystem t0
  legs := fun
    | .left => (Legged.construct leftBase motorsPerLeg).1
    | .right => (Legged.construct rightBase motorsPerLeg).1
  started := t0

/-! ### Silent groups -/

/-- For the timeout before `now` no feedback frame reached a motor of the leg. -/
structure Silent (st : System) (s : Side) (now : UInt64) : Prop where
  started : st.started.toNat + timeout_ns s.group ≤ now.toNat
  feedbacks : ∀ t ∈ st.feedbacks s, t.toNat + timeout_ns s.group ≤ now.toNat ∨ now < t

/-- A check, done or under way, has reported every silent group it has loaded; and on what a
finished check says the main loop disables the leg. -/
structure SilentReported (st : System) : Prop where
  loaded : ∀ s now last mask, Loaded st.composer now s.group last mask → Silent st s now →
    Reports mask s.group
  legs : ∀ c ∈ st.composer.checks, ∀ s, Silent st s c.now →
    ∀ (r : Robot) (it : Iteration), r.m_composer = true → r.m_shm.isSome = true →
      it.stale = c.mask → ((r.robotPeriodic it).leg s).leg.isEnabled = false

/-- The sequence that the last compose cycle read; before the first one, the sentinel. -/
def lastSequence : List Look → UInt64
  | [] => 0xFFFFFFFFFFFFFFFF
  | look :: _ => look.sequence

/-- The time of the last compose cycle that read another sequence than the one before it;
where there is none, the start. -/
def renewed (started : UInt64) : List Look → UInt64
  | [] => started
  | look :: rest =>
    if look.sequence ≠ lastSequence rest then look.now else renewed started rest

@[simp] lemma lastSequence_cons (look : Look) (rest : List Look) :
    lastSequence (look :: rest) = look.sequence := rfl

@[simp] lemma renewed_cons (started : UInt64) (look : Look) (rest : List Look) :
    renewed started (look :: rest) =
      if look.sequence ≠ lastSequence rest then look.now else renewed started rest := rfl

/-- A load of a silent group finds that the leg's records were renewed for the last time before
the timeout too, or only after the check sampled the clock. -/
def NotRenewed (st : System) (i : Input) : Prop :=
  i = .checkStep → ∀ now loaded mask s rest,
    st.composer.checkPc = .loading now loaded mask (Side.group s :: rest) → Silent st s now →
    (renewed st.started (st.looks s.group)).toNat + timeout_ns s.group ≤ now.toNat ∨
      now < renewed st.started (st.looks s.group)

/-! ### What a step does to the Composer -/

/-- The step of the Composer's own system that an input takes. -/
def composerInput (st : System) : Input → Option Composer.Input
  | .tick t => some (.tick t)
  | .leg _ _ => none
  | .publish _ => none
  | .publishImu _ => none
  | .composeStep =>
    match st.unread, st.composer.composePc with
    | _ :: _, _ => none
    | [], .idle => some (.compose st.read)
    | [], .tracking _ _ => some .composeStep
  | .check => some .check
  | .checkStep => some .checkStep

/-- What a step does to the Composer, the start and the feedback so far. -/
structure Moves (st st' : System) (j : Option Composer.Input) : Prop where
  composer : st'.composer = j.elim st.composer (Composer.step st.composer)
  started : st'.started = st.started
  feedbacks : ∀ s, ∀ t ∈ st.feedbacks s, t ∈ st'.feedbacks s

lemma moves_legStep (st : System) (s : Side) (op : LegRun.LegOp) :
    Moves st (legStep st s op) none := by
  cases op with
  | controllerPeriodic c =>
    rcases hpub : st.publishing s with _ | sequence
    · simp only [legStep, hpub]
      exact ⟨rfl, rfl, fun _ _ h => h⟩
    · simp only [legStep, hpub]
      exact ⟨rfl, rfl, fun _ _ h => h⟩
  | feedback i r now =>
    refine ⟨rfl, rfl, fun s' t h => ?_⟩
    simp only [legStep]
    split_ifs
    · by_cases hs : s' = s
      · subst hs
        simp [h]
      · simpa [Function.update_of_ne hs] using h
    · exact h
  | _ => exact ⟨rfl, rfl, fun _ _ h => h⟩

lemma moves_step (st : System) (i : Input) : Moves st (step st i) (composerInput st i) := by
  cases i with
  | leg s op => exact moves_legStep st s op
  | publish s =>
    rcases hpub : st.publishing s with _ | sequence
    · simp only [step, hpub]
      exact ⟨rfl, rfl, fun _ _ h => h⟩
    · simp only [step, hpub]
      exact ⟨rfl, rfl, fun _ _ h => h⟩
  | composeStep =>
    rcases hunread : st.unread with _ | ⟨s, rest⟩
    · rcases hpc : st.composer.composePc with _ | ⟨now, _ | ⟨⟨s, sequence⟩, rest⟩⟩
      all_goals
        simp only [step, composeStep, composerInput, hunread, hpc]
        exact ⟨rfl, rfl, fun _ _ h => h⟩
    · simp only [step, composeStep, composerInput, hunread]
      exact ⟨rfl, rfl, fun _ _ h => h⟩
  | _ => exact ⟨rfl, rfl, fun _ _ h => h⟩

/-- Only a step of the main loop's check is one for the Composer. -/
lemma composerInput_checkStep {st : System} {i : Input}
    (h : composerInput st i = some .checkStep) : i = .checkStep := by
  cases i with
  | checkStep => rfl
  | composeStep =>
    rcases hunread : st.unread with _ | ⟨s, rest⟩
    · rcases hpc : st.composer.composePc with _ | _
      · simp [composerInput, hunread, hpc] at h
      · simp [composerInput, hunread, hpc] at h
    · simp [composerInput, hunread] at h
  | _ => simp [composerInput] at h

lemma silent_of_step {st : System} {i : Input} {s : Side} {now : UInt64}
    (h : Silent (step st i) s now) : Silent st s now := by
  have hmoves := moves_step st i
  exact ⟨hmoves.started ▸ h.started, fun t ht => h.feedbacks t (hmoves.feedbacks s t ht)⟩

/-! ### The change times -/

/-- The Composer keeps the last sequence it read of each source, and when it was renewed. -/
structure Inv (st : System) : Prop where
  checks : ChecksOk st.composer
  prev_seq : ∀ s, st.composer.composer.prev_seq s = lastSequence (st.looks s)
  last_change_ns : ∀ s,
    st.composer.composer.last_change_ns s = renewed st.started (st.looks s)

lemma changeTimes_step (c : Composer.System) {j : Composer.Input} (h : j ≠ .composeStep) :
    (Composer.step c j).composer = c.composer := by
  cases j with
  | composeStep => exact absurd rfl h
  | tick t => rfl
  | compose sequence => rcases hpc : c.composePc with _ | _ <;> simp [Composer.step, hpc]
  | check => rcases hpc : c.checkPc with _ | _ <;> simp [Composer.step, hpc]
  | checkStep => rcases hpc : c.checkPc with _ | ⟨_, _, _, _ | ⟨_, _⟩⟩ <;> simp [Composer.step, hpc]

/-- What tracking a source does to the last sequence and the last renewal. -/
lemma track_look {c : ChangeTimes} {started : UInt64} {looks : Source → List Look}
    (hprev : ∀ s, c.prev_seq s = lastSequence (looks s))
    (hlast : ∀ s, c.last_change_ns s = renewed started (looks s)) (now : UInt64) (s : Source)
    (sequence : UInt64) (t : Source) :
    (track c now s sequence).prev_seq t =
        lastSequence (Function.update looks s (⟨now, sequence⟩ :: looks s) t) ∧
      (track c now s sequence).last_change_ns t =
        renewed started (Function.update looks s (⟨now, sequence⟩ :: looks s) t) := by
  unfold track
  rw [hprev s]
  by_cases ht : t = s
  · subst ht
    by_cases hne : sequence ≠ lastSequence (looks t)
    · simp [hne]
    · rw [not_not] at hne
      subst hne
      simp [hprev, hlast]
  · by_cases hne : sequence ≠ lastSequence (looks s)
    · simp [hne, Function.update_of_ne ht, hprev, hlast]
    · simp [hne, Function.update_of_ne ht, hprev, hlast]

lemma checksOk_of_moves {st st' : System} {j : Option Composer.Input} (h : Moves st st' j)
    (hc : ChecksOk st.composer) : ChecksOk st'.composer := by
  rw [h.composer]
  cases j with
  | none => exact hc
  | some j => exact checksOk_step hc j

/-- A step that reads no source leaves the change times alone. -/
lemma inv_of_moves {st st' : System} {j : Option Composer.Input} (h : Inv st)
    (hmoves : Moves st st' j) (hj : j ≠ some .composeStep) (hlooks : st'.looks = st.looks) :
    Inv st' := by
  have hsame : st'.composer.composer = st.composer.composer := by
    rw [hmoves.composer]
    cases j with
    | none => rfl
    | some j => exact changeTimes_step st.composer fun he => hj (congrArg some he)
  refine ⟨checksOk_of_moves hmoves h.checks, fun s => ?_, fun s => ?_⟩
  · rw [hsame, hlooks, h.prev_seq]
  · rw [hsame, hlooks, hmoves.started, h.last_change_ns]

lemma inv_composeStep {st : System} (h : Inv st) : Inv (step st .composeStep) := by
  have hmoves := moves_step st .composeStep
  rcases hunread : st.unread with _ | ⟨s, rest⟩
  · rcases hpc : st.composer.composePc with _ | ⟨now, _ | ⟨⟨s, sequence⟩, rest⟩⟩
    · refine inv_of_moves h hmoves ?_ ?_
      · simp [composerInput, hunread, hpc]
      · simp only [step, composeStep, hunread, hpc]
    · refine ⟨checksOk_of_moves hmoves h.checks, fun s => ?_, fun s => ?_⟩
      · simpa only [step, composeStep, hunread, hpc, Composer.step] using h.prev_seq s
      · simpa only [step, composeStep, hunread, hpc, Composer.step] using h.last_change_ns s
    · refine ⟨checksOk_of_moves hmoves h.checks, fun t => ?_, fun t => ?_⟩
      · have ht := (track_look h.prev_seq h.last_change_ns now s sequence t).1
        simpa only [step, composeStep, hunread, hpc, Composer.step] using ht
      · have ht := (track_look h.prev_seq h.last_change_ns now s sequence t).2
        simpa only [step, composeStep, hunread, hpc, Composer.step] using ht
  · refine inv_of_moves h hmoves ?_ ?_
    · simp [composerInput, hunread]
    · simp only [step, composeStep, hunread]

lemma inv_step {st : System} (i : Input) (h : Inv st) : Inv (step st i) := by
  cases i with
  | composeStep => exact inv_composeStep h
  | leg s op =>
    refine inv_of_moves h (moves_legStep st s op) (by simp) ?_
    cases op with
    | controllerPeriodic c =>
      rcases hpub : st.publishing s with _ | _ <;> simp [step, legStep, hpub]
    | _ => rfl
  | publish s =>
    refine inv_of_moves h (moves_step st (.publish s)) (by simp [composerInput]) ?_
    rcases hpub : st.publishing s with _ | _ <;> simp [step, hpub]
  | tick t => exact inv_of_moves h (moves_step st (.tick t)) (by simp [composerInput]) rfl
  | publishImu sequence =>
    exact inv_of_moves h (moves_step st (.publishImu sequence)) (by simp [composerInput]) rfl
  | check => exact inv_of_moves h (moves_step st .check) (by simp [composerInput]) rfl
  | checkStep => exact inv_of_moves h (moves_step st .checkStep) (by simp [composerInput]) rfl

lemma inv_start (leftBase rightBase motorsPerLeg : ℕ) (t0 : UInt64) :
    Inv (start leftBase rightBase motorsPerLeg t0) :=
  ⟨checksOk_run t0 [], fun _ => rfl, fun _ => rfl⟩

/-! ### What a check says of a silent group -/

/-- On a clock past the timeout, a time is reported where it lies before the timeout or ahead. -/
lemma reported_iff {s : Source} {now last : UInt64} (h : timeout_ns s ≤ now.toNat) :
    s.timeout_ms ≤ elapsed_ms now last ↔ last.toNat + timeout_ns s ≤ now.toNat ∨ now < last := by
  by_cases hzero : last = 0
  · subst hzero
    have hmax : elapsed_ms now 0 = 0xFFFFFFFFFFFFFFFF := if_pos rfl
    rw [hmax]
    refine ⟨fun _ => Or.inl (by simpa using h), fun _ => ?_⟩
    cases s <;> decide
  by_cases hle : last ≤ now
  · rw [timeout_le_elapsed hzero hle]
    simp [UInt64.not_lt.mpr hle]
  · have hlt : now < last := UInt64.not_le.mp hle
    have hnat : now.toNat < last.toNat := UInt64.lt_iff_toNat_lt.mp hlt
    have hbound := last.toNat_lt
    -- the difference wraps, and is at least as large as `now`
    have hsub : (now - last).toNat = 2 ^ 64 + now.toNat - last.toNat := by
      rw [UInt64.toNat_sub]
      omega
    have hdiv : ((now - last) / 1000000).toNat = (now - last).toNat / 1000000 := by
      rw [UInt64.toNat_div]
      rfl
    refine ⟨fun _ => Or.inr hlt, fun _ => ?_⟩
    unfold elapsed_ms
    unfold timeout_ns at h
    rw [if_neg hzero, UInt64.le_iff_toNat_le, hdiv, hsub, Nat.le_div_iff_mul_le (by omega)]
    omega

/-- The load of a silent group reports it exactly where it is not renewed. -/
lemma reports_load_iff {st : System} (h : Inv st) {s : Side} {now : UInt64}
    (hsilent : Silent st s now) :
    s.group.timeout_ms ≤ elapsed_ms now (st.composer.composer.last_change_ns s.group) ↔
      (renewed st.started (st.looks s.group)).toNat + timeout_ns s.group ≤ now.toNat ∨
        now < renewed st.started (st.looks s.group) := by
  have htime : timeout_ns s.group ≤ now.toNat := by
    have hstarted := hsilent.started
    omega
  rw [reported_iff htime, h.last_change_ns]

/-- On what a check reports, the main loop disables the leg. -/
lemma silentReported_of_loaded {st : System}
    (h : ∀ s now last mask, Loaded st.composer now s.group last mask → Silent st s now →
      Reports mask s.group) : SilentReported st := by
  refine ⟨h, fun c hc s hsilent r it hcomposer hshm hstale => ?_⟩
  have hreports := h s c.now _ c.mask (.done c hc s.group) hsilent
  rw [Robot.isEnabled_robotPeriodic, hcomposer, hshm, hstale]
  simp [hreports]

/-- **One step** keeps every silent group reported exactly where it finds none renewed. -/
theorem silentReported_step_iff {st : System} (i : Input) (h : Inv st) (hb : SilentReported st) :
    SilentReported (step st i) ↔ NotRenewed st i := by
  have hmoves := moves_step st i
  constructor
  · rintro hnext rfl now loaded mask s rest hpc hsilent
    rw [← reports_load_iff h hsilent]
    have hs : s.group ∉ rest := by
      have hnodup := nodup_of_suffix (h.checks.loading _ _ _ _ hpc).suffix
      exact (List.nodup_cons.mp hnodup).1
    have hload : Loaded (step st .checkStep).composer now s.group
        (Function.update loaded s.group (st.composer.composer.last_change_ns s.group) s.group)
        (checkSource now (st.composer.composer.last_change_ns s.group) s.group mask) :=
      .loading now _ _ rest (by simp only [step, Composer.step, hpc]) s.group hs
    rw [Function.update_self] at hload
    have hreports := hnext.loaded s now _ _ hload ⟨hsilent.started, hsilent.feedbacks⟩
    rwa [loaded_reports (inv_step .checkStep h).checks hload] at hreports
  · intro hi
    refine silentReported_of_loaded fun s now last mask hl hsilent => ?_
    rw [loaded_reports (inv_step i h).checks hl]
    have hold : Silent st s now := silent_of_step hsilent
    have hkept : ∀ mask', Loaded st.composer now s.group last mask' →
        s.group.timeout_ms ≤ elapsed_ms now last := by
      intro mask' hl'
      rw [← loaded_reports h.checks hl']
      exact hb.loaded s now last mask' hl' hold
    rw [hmoves.composer] at hl
    rcases hj : composerInput st i with _ | j
    · rw [hj] at hl
      exact hkept mask hl
    · rw [hj] at hl
      rcases loaded_new j hl with ⟨mask', hl'⟩ | ⟨rfl, rfl, loaded, mask', rest, hpc⟩
      · exact hkept mask' hl'
      · rw [reports_load_iff h hold]
        exact hi (composerInput_checkStep hj) now loaded mask' s rest hpc hold

/-- **Silent groups** are reported, and their legs disabled, in every state of a run exactly
where each check finds the staged records of a silent leg renewed for the last time before the
timeout, or only after it sampled the clock. The leg's own cycles renew them, with or without
feedback. -/
theorem silentReported_run_iff (leftBase rightBase motorsPerLeg : ℕ) (t0 : UInt64)
    (l : List Input) :
    Each step (fun st i => SilentReported (step st i))
        (start leftBase rightBase motorsPerLeg t0) l ↔
      Each step NotRenewed (start leftBase rightBase motorsPerLeg t0) l := by
  have hstart : SilentReported (start leftBase rightBase motorsPerLeg t0) := by
    refine silentReported_of_loaded fun s now last mask hl _ => ?_
    cases hl with
    | done c hc s => simp [start, startSystem] at hc
    | loading now loaded mask rest h s hs => simp [start, startSystem] at h
  exact each_congr (I := fun st => Inv st ∧ SilentReported st)
    (fun _ i h hnext => ⟨inv_step i h.1, hnext⟩)
    (fun _ i h => silentReported_step_iff i h.1 h.2) ⟨inv_start _ _ _ t0, hstart⟩ l

/-- Both legs go through a cycle, the IMU is staged, and then comes a whole compose cycle. -/
def period (t : UInt64) : List Input :=
  [.tick t, .publishImu t,
    .leg .left (.controllerPeriodic ⟨SharedMemoryLayout.created, t, t⟩), .publish .left,
    .leg .right (.controllerPeriodic ⟨SharedMemoryLayout.created, t, t⟩), .publish .right] ++
    List.replicate 8 .composeStep

/-- For 100 ms at 400 Hz no motor answers; then the main loop checks. -/
def unanswered : List Input :=
  [.leg .left (.setShmPointers true true), .leg .right (.setShmPointers true true)] ++
    (List.range 41).flatMap (fun k => period (1000000000 + 2500000 * UInt64.ofNat k)) ++
    .check :: List.replicate 4 .checkStep

/-- Neither group is reported. -/
theorem silent_not_reported :
    ¬ SilentReported (run step (start 1 7 6 1000000000) unanswered) := by
  intro h
  have hrun : (run step (start 1 7 6 1000000000) unanswered).composer.checks.map
      (fun c => (c.now, c.mask)) = [(1100000000, 0)] := by
    decide +kernel
  have hfeedbacks : (run step (start 1 7 6 1000000000) unanswered).feedbacks .left = [] := by
    decide +kernel
  have hstarted : (run step (start 1 7 6 1000000000) unanswered).started = 1000000000 := by
    decide +kernel
  obtain ⟨c, hc, hvalues⟩ := List.map_eq_singleton_iff.mp hrun
  simp only [Prod.mk.injEq] at hvalues
  obtain ⟨hnow, hmask⟩ := hvalues
  have hsilent : Silent (run step (start 1 7 6 1000000000) unanswered) .left c.now := by
    refine ⟨?_, fun t ht => ?_⟩
    · rw [hstarted, hnow]
      decide
    · rw [hfeedbacks] at ht
      simp at ht
  have hreports := h.loaded .left c.now _ c.mask (.done c (by rw [hc]; simp) _) hsilent
  rw [hmask] at hreports
  exact absurd hreports (by decide)

end Kuavo.GroupLiveness
