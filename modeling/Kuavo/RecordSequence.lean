import Kuavo.GroupLiveness

/-!
The sequence of a motor group's record, and whether it tells two records apart.

A leg numbers its records by the Composer's own count of compose cycles, which the Composer
moves on only at the end of a cycle. A history beside the system says which publish of a leg a
record comes from, and which count the leg had loaded for it.
-/

namespace Kuavo.RecordSequence

open Kuavo.GroupLiveness Kuavo.Lib.Runs Kuavo.MercuryShm
open Kuavo.Composer (Source startSystem track)

/-- A record in a staging buffer: the publish it comes from, the first being 1, and the number
that its sequence stands for. -/
structure Record where
  number : ℕ := 0
  count : ℕ := 0

def Record.sequence (r : Record) : UInt64 := UInt64.ofNat r.count

/-- The system, with what happened to its records so far. -/
structure State where
  sys : GroupLiveness.System
  /-- How many compose cycles the Composer has counted. -/
  counted : ℕ := 0
  /-- What the record stands for that a leg's cycle has built last. -/
  built : Side → ℕ := fun _ => 0
  published : Source → Record := fun _ => {}
  /-- What the compose cycle has read of each source, and what the one before tracked. -/
  read : Source → Record := fun _ => {}
  previous : Source → Option Record := fun _ => none

def start (leftBase rightBase motorsPerLeg : ℕ) (t0 : UInt64) : State where
  sys := GroupLiveness.start leftBase rightBase motorsPerLeg t0

/-- The history of a step of the Composer's thread. -/
def recordCompose (st : State) : State :=
  match st.sys.unread, st.sys.composer.composePc with
  | s :: _, _ => { st with read := Function.update st.read s (st.published s) }
  | [], .idle => st
  | [], .tracking _ ((s, _) :: _) =>
    { st with previous := Function.update st.previous s (some (st.read s)) }
  | [], .tracking _ [] => { st with counted := st.counted + 1 }

/-- The history of a step, read in the state it starts from. -/
def record (st : State) : Input → State
  | .leg s (.controllerPeriodic _) =>
    match st.sys.publishing s with
    | some _ => st
    | none => { st with built := Function.update st.built s (st.counted + 1) }
  | .publish s =>
    match st.sys.publishing s with
    | some _ =>
      let r : Record := ⟨(st.published s.group).number + 1, st.built s⟩
      { st with published := Function.update st.published s.group r }
    | none => st
  | .publishImu sequence =>
    let r : Record := ⟨(st.published .imu).number + 1, sequence.toNat⟩
    { st with published := Function.update st.published .imu r }
  | .composeStep => recordCompose st
  | .leg _ _ | .tick _ | .check | .checkStep => st

def step (st : State) (i : Input) : State :=
  { record st i with sys := GroupLiveness.step st.sys i }

/-- The history leaves the system alone. -/
lemma run_sys (st : State) (l : List Input) :
    (run step st l).sys = run GroupLiveness.step st.sys l := by
  induction l generalizing st with
  | nil => rfl
  | cons i l ih => exact ih (step st i)

/-! ### Newer records -/

/-- The compose cycle is about to track a record of the leg that was published after `p`, which
the cycle before it read. -/
structure Newer (st : State) (s : Side) (now sequence : UInt64) (p : Record) : Prop where
  unread : st.sys.unread = []
  tracking : ∃ rest, st.sys.composer.composePc = .tracking now ((s.group, sequence) :: rest)
  previous : st.previous s.group = some p
  newer : p.number < (st.read s.group).number

/-- A newer record has another sequence, and renews the time of the last change. -/
def Renews (st : State) (i : Input) : Prop :=
  i = .composeStep → ∀ s now sequence p, Newer st s now sequence p →
    sequence ≠ lastSequence (st.sys.looks s.group) ∧
      (step st i).sys.composer.composer.last_change_ns s.group = now

/-- Between the leg's loads of `composed_sequence` for the two records, the Composer counted
cycles, and not a multiple of what the counter holds. -/
def CountedBetween (st : State) (i : Input) : Prop :=
  i = .composeStep → ∀ s now sequence p, Newer st s now sequence p →
    (st.read s.group).count % 0x10000000000000000 ≠ p.count % 0x10000000000000000

/-! ### What the history says of the system -/

structure Inv (st : State) : Prop where
  base : GroupLiveness.Inv st.sys
  counted : st.sys.composed_sequence = UInt64.ofNat st.counted
  publishing : ∀ s sequence, st.sys.publishing s = some sequence →
    sequence = UInt64.ofNat (st.built s)
  staged : ∀ s, st.sys.staged s = (st.published s).sequence
  idle : st.sys.unread ≠ [] → st.sys.composer.composePc = .idle
  read : ∀ s, s ∉ st.sys.unread → st.sys.read s = (st.read s).sequence
  tracking : ∀ now rest, st.sys.composer.composePc = .tracking now rest →
    ∀ e ∈ rest, e.2 = (st.read e.1).sequence
  previous : ∀ s r, st.previous s = some r → lastSequence (st.sys.looks s) = r.sequence

lemma ofNat_succ (n : ℕ) : UInt64.ofNat n + 1 = UInt64.ofNat (n + 1) := by
  rw [UInt64.ofNat_add]
  rfl

/-- A leg numbers its record by the count that it loads. -/
lemma sequence_of_controllerPeriodic {l : Legged} {c : Cycle} {d : MotorGroupStageData}
    (h : (l.controllerPeriodic c).2 = some d) : d.sequence = c.shm.composed_sequence + 1 := by
  have hobserve : ∀ l : Legged, (l.observe c).2 = some d →
      d.sequence = c.shm.composed_sequence + 1 := by
    intro l h
    unfold Legged.observe at h
    split_ifs at h
    rw [← Option.some.inj h]
    rfl
  unfold Legged.controllerPeriodic at h
  split_ifs at h
  cases hfault : Legged.shmFault c.shm with
  | some reason => simp [hfault] at h
  | none =>
    rw [hfault] at h
    exact hobserve _ h

/-- The main loop's check and the clock leave the compose cycle alone. -/
lemma composePc_step (c : Composer.System) :
    (Composer.step c .check).composePc = c.composePc ∧
      (Composer.step c .checkStep).composePc = c.composePc := by
  constructor
  · rcases hpc : c.checkPc with _ | _ <;> simp [Composer.step, hpc]
  · rcases hpc : c.checkPc with _ | ⟨_, _, _, _ | ⟨_, _⟩⟩ <;> simp [Composer.step, hpc]

lemma inv_start (leftBase rightBase motorsPerLeg : ℕ) (t0 : UInt64) :
    Inv (start leftBase rightBase motorsPerLeg t0) where
  base := GroupLiveness.inv_start leftBase rightBase motorsPerLeg t0
  counted := rfl
  publishing := fun s sequence h => by simp [start, GroupLiveness.start] at h
  staged := fun _ => rfl
  idle := fun _ => rfl
  read := fun _ _ => rfl
  tracking := fun now rest h => by simp [start, GroupLiveness.start, startSystem] at h
  previous := fun s r h => by simp [start] at h

lemma inv_controllerPeriodic {st : State} (h : Inv st) (s : Side) (c : Cycle) :
    Inv (step st (.leg s (.controllerPeriodic c))) := by
  have hbase := GroupLiveness.inv_step (.leg s (.controllerPeriodic c)) h.base
  rcases hpub : st.sys.publishing s with _ | sequence
  · simp only [step, record, GroupLiveness.step, legStep, hpub] at hbase ⊢
    refine ⟨hbase, h.counted, fun t sequence ht => ?_, h.staged, h.idle, h.read, h.tracking,
      h.previous⟩
    by_cases hts : t = s
    · subst hts
      simp only [Function.update_self, Option.map_eq_some_iff] at ht ⊢
      obtain ⟨d, hd, rfl⟩ := ht
      rw [sequence_of_controllerPeriodic hd, h.counted, ofNat_succ]
    · simp only [Function.update_of_ne hts] at ht ⊢
      exact h.publishing t sequence ht
  · -- the cycle before has not published its record yet
    have hstay : step st (.leg s (.controllerPeriodic c)) = st := by
      simp only [step, record, GroupLiveness.step, legStep, hpub]
    rw [hstay]
    exact h

lemma inv_publish {st : State} (h : Inv st) (s : Side) : Inv (step st (.publish s)) := by
  have hbase := GroupLiveness.inv_step (.publish s) h.base
  rcases hpub : st.sys.publishing s with _ | sequence
  · have hstay : step st (.publish s) = st := by
      simp only [step, record, GroupLiveness.step, hpub]
    rw [hstay]
    exact h
  · simp only [step, record, GroupLiveness.step, hpub] at hbase ⊢
    refine ⟨hbase, h.counted, fun t sequence' ht => ?_, fun t => ?_, h.idle, h.read, h.tracking,
      h.previous⟩
    · by_cases hts : t = s
      · subst hts
        simp at ht
      · simp only [Function.update_of_ne hts] at ht
        exact h.publishing t sequence' ht
    · by_cases hts : t = s.group
      · subst hts
        simp only [Function.update_self]
        exact h.publishing s sequence hpub
      · simp only [Function.update_of_ne hts]
        exact h.staged t

lemma inv_publishImu {st : State} (h : Inv st) (sequence : UInt64) :
    Inv (step st (.publishImu sequence)) := by
  have hbase := GroupLiveness.inv_step (.publishImu sequence) h.base
  refine ⟨hbase, h.counted, h.publishing, fun t => ?_, h.idle, h.read, h.tracking, h.previous⟩
  simp only [step, record, GroupLiveness.step]
  by_cases ht : t = .imu
  · subst ht
    rw [Function.update_self, Function.update_self]
    exact UInt64.ofNat_toNat.symm
  · rw [Function.update_of_ne ht, Function.update_of_ne ht]
    exact h.staged t

lemma mem_sources (s : Source) : s ∈ Composer.sources := by cases s <;> decide

lemma inv_readSource {st : State} (h : Inv st) {s : Source} {rest : List Source}
    (hunread : st.sys.unread = s :: rest) : Inv (step st .composeStep) := by
  have hbase := GroupLiveness.inv_step .composeStep h.base
  have hidle : st.sys.composer.composePc = .idle := h.idle (by simp [hunread])
  simp only [step, record, recordCompose, GroupLiveness.step, composeStep, hunread] at hbase ⊢
  refine ⟨hbase, h.counted, h.publishing, h.staged, fun _ => hidle, fun t ht => ?_,
    fun now rest ht => ?_, h.previous⟩
  · by_cases hts : t = s
    · subst hts
      simp only [Function.update_self]
      exact h.staged t
    · simp only [Function.update_of_ne hts]
      exact h.read t (by simp only [hunread, List.mem_cons, hts, false_or]; exact ht)
  · exact absurd (hidle.symm.trans ht) (by simp)

/-- The clock is sampled, and what was read is handed on. -/
lemma inv_sample {st : State} (h : Inv st) (hunread : st.sys.unread = [])
    (hpc : st.sys.composer.composePc = .idle) : Inv (step st .composeStep) := by
  have hbase := GroupLiveness.inv_step .composeStep h.base
  have hread : ∀ s, st.sys.read s = (st.read s).sequence := fun s => h.read s (by simp [hunread])
  simp only [step, record, recordCompose, GroupLiveness.step, composeStep, hunread, hpc,
    Composer.step] at hbase ⊢
  refine ⟨hbase, h.counted, h.publishing, h.staged, fun hne => absurd rfl hne, fun t _ => hread t,
    fun now rest ht e he => ?_, h.previous⟩
  obtain ⟨-, rfl⟩ := Composer.ComposePc.tracking.inj ht
  obtain ⟨s, -, rfl⟩ := List.mem_map.mp he
  exact hread s

lemma inv_track {st : State} (h : Inv st) {now sequence : UInt64} {s : Source}
    {rest : List (Source × UInt64)} (hunread : st.sys.unread = [])
    (hpc : st.sys.composer.composePc = .tracking now ((s, sequence) :: rest)) :
    Inv (step st .composeStep) := by
  have hbase := GroupLiveness.inv_step .composeStep h.base
  have hread : ∀ s, st.sys.read s = (st.read s).sequence := fun s => h.read s (by simp [hunread])
  have htracking := h.tracking now _ hpc
  simp only [step, record, recordCompose, GroupLiveness.step, composeStep, hunread, hpc,
    Composer.step] at hbase ⊢
  refine ⟨hbase, h.counted, h.publishing, h.staged, fun hne => absurd rfl hne, fun t _ => hread t,
    fun now rest ht e he => ?_, fun t r ht => ?_⟩
  · obtain ⟨-, rfl⟩ := Composer.ComposePc.tracking.inj ht
    exact htracking e (List.mem_cons_of_mem _ he)
  · by_cases hts : t = s
    · subst hts
      simp only [Function.update_self, lastSequence_cons] at ht ⊢
      rw [← Option.some.inj ht]
      exact htracking (t, sequence) List.mem_cons_self
    · simp only [Function.update_of_ne hts] at ht ⊢
      exact h.previous t r ht

/-- The cycle ends, and is counted. -/
lemma inv_count {st : State} (h : Inv st) {now : UInt64} (hunread : st.sys.unread = [])
    (hpc : st.sys.composer.composePc = .tracking now []) : Inv (step st .composeStep) := by
  have hbase := GroupLiveness.inv_step .composeStep h.base
  simp only [step, record, recordCompose, GroupLiveness.step, composeStep, hunread, hpc,
    Composer.step] at hbase ⊢
  refine ⟨hbase, ?_, h.publishing, h.staged, fun _ => rfl, fun t ht => absurd (mem_sources t) ht,
    fun now rest ht => ?_, h.previous⟩
  · simp only [h.counted, ofNat_succ]
  · simp at ht

lemma inv_step {st : State} (i : Input) (h : Inv st) : Inv (step st i) := by
  have hbase := GroupLiveness.inv_step i h.base
  have hpc := composePc_step st.sys.composer
  cases i with
  | leg s op =>
    cases op with
    | controllerPeriodic c => exact inv_controllerPeriodic h s c
    | _ =>
      exact ⟨hbase, h.counted, h.publishing, h.staged, h.idle, h.read, h.tracking, h.previous⟩
  | publish s => exact inv_publish h s
  | publishImu sequence => exact inv_publishImu h sequence
  | composeStep =>
    rcases hunread : st.sys.unread with _ | ⟨s, rest⟩
    · rcases htrack : st.sys.composer.composePc with _ | ⟨now, _ | ⟨⟨s, sequence⟩, rest⟩⟩
      · exact inv_sample h hunread htrack
      · exact inv_count h hunread htrack
      · exact inv_track h hunread htrack
    · exact inv_readSource h hunread
  | tick t =>
    exact ⟨hbase, h.counted, h.publishing, h.staged, h.idle, h.read, h.tracking, h.previous⟩
  | check =>
    exact ⟨hbase, h.counted, h.publishing, h.staged, fun hu => hpc.1.trans (h.idle hu), h.read,
      fun now rest ht => h.tracking now rest (hpc.1.symm.trans ht), h.previous⟩
  | checkStep =>
    exact ⟨hbase, h.counted, h.publishing, h.staged, fun hu => hpc.2.trans (h.idle hu), h.read,
      fun now rest ht => h.tracking now rest (hpc.2.symm.trans ht), h.previous⟩

/-! ### Renewals -/

lemma sequence_ne_iff (r p : Record) :
    r.sequence ≠ p.sequence ↔
      r.count % 0x10000000000000000 ≠ p.count % 0x10000000000000000 := by
  unfold Record.sequence
  rw [ne_eq, ← UInt64.toNat_inj, UInt64.toNat_ofNat', UInt64.toNat_ofNat']

/-- **One step** renews the time for every newer record exactly where a cycle was counted between
the two. -/
theorem renews_iff {st : State} (i : Input) (h : Inv st) : Renews st i ↔ CountedBetween st i := by
  unfold Renews CountedBetween
  refine forall_congr' fun hi => ?_
  subst hi
  refine forall_congr' fun s => forall_congr' fun now => forall_congr' fun sequence =>
    forall_congr' fun p => forall_congr' fun hnewer => ?_
  obtain ⟨rest, hpc⟩ := hnewer.tracking
  have hsequence : sequence = (st.read s.group).sequence :=
    h.tracking now _ hpc (s.group, sequence) List.mem_cons_self
  have hlast := h.previous s.group p hnewer.previous
  rw [hlast, hsequence, sequence_ne_iff]
  refine and_iff_left_of_imp fun hcount => ?_
  have hne : sequence ≠ st.sys.composer.composer.prev_seq s.group := by
    rw [h.base.prev_seq, hlast, hsequence]
    exact (sequence_ne_iff _ _).mpr hcount
  simp only [step, GroupLiveness.step, composeStep, hnewer.unread, hpc, Composer.step, track,
    if_pos hne, Function.update_self]

/-- **Renewals.** In every interleaving of the legs' cycles with the compose cycles, each record
that is newer than the one the compose cycle before read renews the time of its group's last
change exactly where the Composer counted a cycle between the leg's loads for the two. -/
theorem renews_run_iff (leftBase rightBase motorsPerLeg : ℕ) (t0 : UInt64) (l : List Input) :
    Each step Renews (start leftBase rightBase motorsPerLeg t0) l ↔
      Each step CountedBetween (start leftBase rightBase motorsPerLeg t0) l :=
  each_congr (fun _ i h _ => inv_step i h) (fun _ i h => renews_iff i h)
    (inv_start leftBase rightBase motorsPerLeg t0) l

/-- A whole cycle of the left leg. -/
def leftCycle (t : UInt64) : List Input :=
  [.tick t, .leg .left (.controllerPeriodic ⟨SharedMemoryLayout.created, t, t⟩), .publish .left]

/-- The left leg publishes twice, once before a compose cycle and once before its end. The next
compose cycle comes as far as the left leg's record. -/
def beforeEnd : List Input :=
  .leg .left (.setShmPointers true true) :: leftCycle 2 ++ List.replicate 6 .composeStep ++
    leftCycle 3 ++ List.replicate 2 .composeStep ++ .tick 4 :: List.replicate 5 .composeStep

/-- It finds the second record under the sequence of the first. -/
theorem same_sequence : ¬ Each step Renews (start 1 7 6 1) (beforeEnd ++ [.composeStep]) := by
  intro h
  have hnewer : Newer (run step (start 1 7 6 1) beforeEnd) .left 4 1 ⟨1, 1⟩ :=
    ⟨rfl, ⟨_, rfl⟩, rfl, by decide⟩
  have hrenews := (each_append _ _ _).mp h |>.2.1 rfl .left 4 1 ⟨1, 1⟩ hnewer
  exact absurd (rfl : (1 : UInt64) = _) hrenews.1

end Kuavo.RecordSequence
