import Kuavo.BatchPipeline

/-!
The end of logging in `Robot::detachSharedMemory`: the Logger is shut down and joined, and then
the Composer, which may still push.

The loop of `Logger::run` goes on while `running_` is set and does nothing behind it, so what
reaches the ring after its last round stays there.
-/

namespace Kuavo.LogShutdown

open Kuavo.BatchLog Kuavo.BatchPipeline Kuavo.Lib.Runs Kuavo.Lib.Copy Kuavo.Lib.BoundedQueue
open SpscRing (pushed)

/-- Where the main thread is in `detachSharedMemory`. -/
inductive MainPc
  | running
  | joinLogger
  | joinComposer
  | detached
  deriving DecidableEq

structure Process (L : Layout BatchLogRecord) where
  sys : System L
  push_enabled_ : Bool := false
  running_ : Bool := true
  main : MainPc := .running
  /-- What the Logger's thread left behind when it ended. -/
  ended : Option (System L) := none

inductive Input
  /-- The Composer is started. -/
  | start
  | composerLoop (sample : SensorCommandPair) (now : UInt64)
  | composerStep
  /-- The Logger at the head of its loop; `connected` says whether the client has been connected
  for long enough. -/
  | loggerLoop (connected : Bool) (batch : BatchLogRecord)
  | loggerStep (batch : BatchLogRecord)
  /-- `detachSharedMemory` comes to the Logger. -/
  | detach
  | mainStep

variable {L : Layout BatchLogRecord}

def onSys (p : Process L) (i : BatchPipeline.Input) : Process L :=
  { p with sys := BatchPipeline.step p.sys i }

def loggerLoop (p : Process L) (connected : Bool) (batch : BatchLogRecord) : Process L :=
  match p.ended, p.sys.logger.pc with
  | none, .idle =>
    if p.running_ then
      let p := { p with push_enabled_ := p.push_enabled_ || connected }
      if p.push_enabled_ then onSys p (.drainOnce batch) else p
    else { p with ended := some p.sys }
  | _, _ => p

def mainStep (p : Process L) : Process L :=
  match p.main with
  | .running | .detached => p
  | .joinLogger =>
    if p.ended.isSome then { onSys p .shutdown with main := .joinComposer } else p
  | .joinComposer => if p.sys.composer.pc = .exited then { p with main := .detached } else p

def step (p : Process L) : Input → Process L
  | .start => if p.main = .running then onSys p .start else p
  | .composerLoop sample now => onSys p (.composerLoop sample now)
  | .composerStep => onSys p .composerStep
  | .loggerLoop connected batch => loggerLoop p connected batch
  | .loggerStep batch => onSys p (.loggerStep batch)
  | .detach =>
    if p.main = .running then { p with running_ := false, main := .joinLogger } else p
  | .mainStep => mainStep p

def start (L : Layout BatchLogRecord) (robot_id robot_id_ : UInt32) (downsample_every : UInt64)
    (batch_ : BatchLogRecord) (buffer : ℕ → BatchLogRecord) : Process L where
  sys := init L robot_id robot_id_ downsample_every batch_ buffer

/-! ### What still comes -/

/-- A call of `push` that is not certain to fail. -/
def promising : SpscRing.PushPc L → Bool
  | .idle | .drop _ => false
  | .loadHead _ | .loadTail _ _ | .copying _ _ _ => true

/-- Something is in the ring, or a call of `push` may bring it there. -/
def Waiting (ring : SpscRing.State L) : Prop :=
  ring.tail_ < ring.head_ ∨ promising ring.pushPc = true

/-- With no one popping, what waits goes on waiting, and nothing comes from nothing. -/
lemma waiting_pushStep {ring : SpscRing.State L} (h : SpscRing.Inv ringBits ring)
    (hB : (pushed ring).length < 2 ^ 64) :
    Waiting (SpscRing.pushStep ringBits ring) ↔ Waiting ring := by
  obtain ⟨head_, tail_, dropped_, buffer_, pushPc, popPc, pushes, pops⟩ := ring
  cases pushPc with
  | idle => exact Iff.rfl
  | loadHead item => simp [SpscRing.pushStep, Waiting, promising]
  | loadTail item head =>
    obtain rfl : head = head_ := h.push
    by_cases hfull : SpscRing.Capacity ringBits ≤ head - tail_
    · -- a full ring is not empty
      have hlt : tail_ < head := by
        have hitems := (SpscRing.full_iff h.tail_le).mp hfull
        rw [SpscRing.length_items] at hitems
        have hpos : 0 < 2 ^ ringBits.val := Nat.two_pow_pos _
        rw [UInt64.lt_iff_toNat_lt]
        dsimp only at hitems
        omega
      simp [SpscRing.pushStep, if_pos hfull, Waiting, hlt]
    · simp [SpscRing.pushStep, if_neg hfull, Waiting, promising]
  | drop item => simp [SpscRing.pushStep, Waiting, promising]
  | copying item head rest =>
    cases rest with
    | cons part rest => simp [SpscRing.pushStep, Waiting, promising]
    | nil =>
      obtain rfl : head = head_ := h.push.1
      have hnext : head.toNat + 1 < 2 ^ 64 := (SpscRing.counters_lt h rfl hB).1
      have hle : tail_.toNat ≤ head.toNat := h.tail_le
      have hlt : tail_ < head + 1 := by
        rw [UInt64.lt_iff_toNat_lt, Lib.Bits.toNat_succ hnext]
        omega
      simp [SpscRing.pushStep, Waiting, promising, hlt]

/-- Something waits in the ring or in the Composer's batch. -/
def Loaded (s : System L) : Prop := Waiting s.ring ∨ s.composer.pending ≠ []

lemma waiting_push {ring : SpscRing.State L} (hidle : ring.pushPc = .idle) (b : BatchLogRecord) :
    Waiting (SpscRing.step ringBits ring (.push b)) := by
  simp [SpscRing.step, hidle, Waiting, promising]

/-- A step of the Composer composes a sample, which then waits, or leaves it at what waited. -/
def Carries (s t : System L) : Prop :=
  (t.composed = s.composed ∧ (Loaded t ↔ Loaded s)) ∨
    ∃ sample, t.composed = s.composed ++ [sample] ∧ Loaded t

lemma carries_composerStep {s : System L} (h : BatchPipeline.Inv s)
    (hB : (pushed s.ring).length < 2 ^ 64) : Carries s (composerStep s) := by
  have hpc := h.composer.pc
  cases hs : s.composer.pc with
  | exited => exact Or.inl (by simp [composerStep, hs])
  | loop => exact Or.inl (by simp [composerStep, hs])
  | flushing last =>
    have hwait := waiting_pushStep h.ring.inv hB
    have hpending : s.composer.pending = [] := by rw [Composer.pending, hs]
    cases hr : SpscRing.pushReturned (SpscRing.pushStep ringBits s.ring) with
    | none => exact Or.inl (by simp [composerStep, hs, hr, Loaded, hwait])
    | some ok =>
      exact Or.inl (by simp [composerStep, hs, hr, Loaded, hwait, pending_flushed, hpending])

lemma carries_compose_cycle {s : System L} (h : BatchPipeline.Inv s)
    (hs : s.composer.pc = .loop) (sample : SensorCommandPair) (now : UInt64) :
    Carries s (compose_cycle s sample now) := by
  have hpc := h.composer.pc
  rw [hs] at hpc
  refine Or.inr ⟨sample, ?_⟩
  unfold compose_cycle
  dsimp only
  split_ifs with hfull
  · exact ⟨rfl, Or.inl (waiting_push (not_not.mp hpc.1) _)⟩
  · have hloop : (s.composer.accumulate sample).pc = .loop := hs
    refine ⟨rfl, Or.inr ?_⟩
    dsimp only
    rw [pending_loop hloop, take_accumulate sample hpc.2]
    simp

lemma carries_composerLoop {s : System L} (h : BatchPipeline.Inv s) (sample : SensorCommandPair)
    (now : UInt64) : Carries s (composerLoop s sample now) := by
  have hpc := h.composer.pc
  cases hs : s.composer.pc with
  | exited => exact Or.inl (by simp [composerLoop, hs])
  | flushing last => exact Or.inl (by simp [composerLoop, hs])
  | loop =>
    rw [hs] at hpc
    by_cases hrunning : s.composer.running_ = true
    · rw [show composerLoop s sample now = compose_cycle s sample now by
        simp only [composerLoop, hs, if_pos hrunning]]
      exact carries_compose_cycle h hs sample now
    · left
      have hpending := pending_loop hs
      have hlen : s.composer.batch_.samples.toList.length = BATCH_SIZE := Vector.length_toList
      by_cases hidx : 0 < s.composer.batch_idx_
      · -- the samples that waited are in the last batch
        have hne : s.composer.pending ≠ [] := by
          rw [hpending, ← List.length_pos_iff, List.length_take, hlen]
          exact lt_min hidx (by decide)
        have hflush : Waiting (flush s now true).ring := waiting_push (not_not.mp hpc.1) _
        rw [show composerLoop s sample now = flush s now true by
          simp only [composerLoop, hs, if_neg hrunning, if_pos hidx]]
        exact ⟨rfl, fun _ => Or.inr hne, fun _ => Or.inl hflush⟩
      · rw [show composerLoop s sample now =
            { s with composer := { s.composer with pc := .exited } } by
          simp only [composerLoop, hs, if_neg hrunning, if_neg hidx]]
        simp [Loaded, Composer.pending, hs]

/-! ### Behind the end of the Logger's thread -/

/-- What `t` has beyond `e`, with only the Composer moving in between. -/
structure Beyond (e t : System L) : Prop where
  composed : e.composed.length ≤ t.composed.length
  loaded : Loaded t ↔ Loaded e ∨ t.composed ≠ e.composed

lemma Beyond.refl (e : System L) : Beyond e e := ⟨le_rfl, by simp⟩

lemma Beyond.trans_carries {e s t : System L} (h : Beyond e s) (hst : Carries s t) :
    Beyond e t := by
  rcases hst with ⟨hsame, hiff⟩ | ⟨sample, hmore, hloaded⟩
  · exact ⟨hsame ▸ h.composed, by rw [hiff, hsame]; exact h.loaded⟩
  · have hlen := congrArg List.length hmore
    have hold := h.composed
    rw [List.length_append, List.length_singleton] at hlen
    refine ⟨by omega, fun _ => Or.inr fun heq => ?_, fun _ => hloaded⟩
    rw [heq] at hlen
    omega

structure Inv (p : Process L) : Prop where
  sys : BatchPipeline.Inv p.sys
  /-- The Logger's thread ends only when it is told to. -/
  alive : p.main = .running → p.running_ = true ∧ p.ended = none
  /-- The main thread has joined what it waits for. -/
  joined : p.main = .joinComposer ∨ p.main = .detached → p.ended ≠ none
  exited : p.main = .detached → p.sys.composer.pc = .exited
  ended : ∀ e, p.ended = some e → p.sys.logger.pc = .idle ∧ Beyond e p.sys

lemma inv_start (L : Layout BatchLogRecord) (robot_id robot_id_ : UInt32)
    (downsample_every : UInt64) (batch_ : BatchLogRecord) (buffer : ℕ → BatchLogRecord) :
    Inv (start L robot_id robot_id_ downsample_every batch_ buffer) :=
  ⟨BatchPipeline.inv_init L robot_id robot_id_ downsample_every batch_ buffer,
    fun _ => ⟨rfl, rfl⟩, fun h => by simp [start] at h, fun h => by simp [start] at h,
    fun e h => by simp [start] at h⟩

/-- A step of the Composer's thread, which never comes back from its end. -/
lemma Inv.composer {p : Process L} (h : Inv p) {i : BatchPipeline.Input}
    (hinv : BatchPipeline.Inv (BatchPipeline.step p.sys i))
    (hcarries : Carries p.sys (BatchPipeline.step p.sys i))
    (hexited : p.sys.composer.pc = .exited →
      (BatchPipeline.step p.sys i).composer.pc = .exited)
    (hlogger : (BatchPipeline.step p.sys i).logger = p.sys.logger) : Inv (onSys p i) := by
  refine ⟨hinv, h.alive, h.joined, fun hm => hexited (h.exited hm), fun e he => ?_⟩
  obtain ⟨hidle, hbeyond⟩ := h.ended e he
  refine ⟨?_, hbeyond.trans_carries hcarries⟩
  simp only [onSys, hlogger]
  exact hidle

lemma logger_composerLoop (s : System L) (sample : SensorCommandPair) (now : UInt64) :
    (composerLoop s sample now).logger = s.logger := by
  unfold composerLoop compose_cycle
  cases s.composer.pc with
  | loop =>
    dsimp only
    split_ifs <;> rfl
  | exited | flushing last => rfl

lemma logger_composerStep (s : System L) : (composerStep s).logger = s.logger := by
  unfold composerStep
  cases s.composer.pc with
  | flushing last =>
    dsimp only
    split <;> rfl
  | exited | loop => rfl

/-- A step of the Logger's thread, which has not ended. -/
lemma Inv.logger {p : Process L} (h : Inv p) (hnone : p.ended = none) {i : BatchPipeline.Input}
    (hinv : BatchPipeline.Inv (BatchPipeline.step p.sys i)) (push_enabled_ : Bool) :
    Inv (onSys { p with push_enabled_ := push_enabled_ } i) := by
  have hmain : ¬ (p.main = .joinComposer ∨ p.main = .detached) := fun hm => h.joined hm hnone
  exact ⟨hinv, h.alive, fun hm => absurd hm hmain, fun hm => absurd (Or.inr hm) hmain,
    fun e he => absurd (hnone.symm.trans he) (by simp)⟩

lemma length_pushed_le (p : Process L) (i : Input) :
    (pushed p.sys.ring).length ≤ (pushed (step p i).sys.ring).length := by
  have hsys := fun j => BatchPipeline.length_pushed_le p.sys j
  cases i with
  | start =>
    simp only [step]
    split_ifs
    · exact hsys .start
    · exact le_rfl
  | composerLoop sample now => exact hsys (.composerLoop sample now)
  | composerStep => exact hsys .composerStep
  | loggerLoop connected batch =>
    simp only [step, loggerLoop]
    split
    · split_ifs
      · exact hsys (.drainOnce batch)
      · exact le_rfl
      · exact le_rfl
    · exact le_rfl
  | loggerStep batch => exact hsys (.loggerStep batch)
  | detach =>
    simp only [step]
    split_ifs <;> exact le_rfl
  | mainStep =>
    simp only [step, mainStep]
    split
    · exact le_rfl
    · exact le_rfl
    · split_ifs
      · exact hsys .shutdown
      · exact le_rfl
    · split_ifs <;> exact le_rfl

/-- A round of the Logger's loop, which may be the last one. -/
lemma Inv.loggerLoop {p : Process L} (h : Inv p) (connected : Bool) (batch : BatchLogRecord)
    (hB : (pushed (loggerLoop p connected batch).sys.ring).length < 2 ^ 64) :
    Inv (LogShutdown.loggerLoop p connected batch) := by
  unfold LogShutdown.loggerLoop at hB ⊢
  cases hended : p.ended with
  | some e => exact h
  | none =>
    cases hidle : p.sys.logger.pc with
    | draining i => exact h
    | idle =>
      rw [hended, hidle] at hB
      dsimp only at hB ⊢
      split_ifs at hB ⊢ with hrunning henabled
      · have hinv := BatchPipeline.inv_step p.sys (.drainOnce batch) h.sys hB
        have hres := h.logger hended hinv (p.push_enabled_ || connected)
        rw [hended] at hres
        exact hres
      · have hres : Inv { p with push_enabled_ := p.push_enabled_ || connected } :=
          ⟨h.sys, h.alive, h.joined, h.exited, h.ended⟩
        rw [hended] at hres
        exact hres
      · refine ⟨h.sys, fun hm => absurd (h.alive hm).1 hrunning, fun _ => by simp, h.exited,
          fun e he => ?_⟩
        obtain rfl : p.sys = e := Option.some.inj he
        exact ⟨hidle, Beyond.refl _⟩

/-- The main thread joins the Logger's thread, and then the Composer's. -/
lemma Inv.mainStep {p : Process L} (h : Inv p)
    (hB : (pushed (mainStep p).sys.ring).length < 2 ^ 64) : Inv (LogShutdown.mainStep p) := by
  unfold LogShutdown.mainStep at hB ⊢
  cases hmain : p.main with
  | running => exact h
  | detached => exact h
  | joinLogger =>
    rw [hmain] at hB
    dsimp only at hB ⊢
    split_ifs at hB ⊢ with hsome
    · have hinv := BatchPipeline.inv_step p.sys .shutdown h.sys hB
      refine ⟨hinv, fun hm => by simp at hm, fun _ => Option.isSome_iff_ne_none.mp hsome,
        fun hm => by simp at hm, fun e he => ?_⟩
      obtain ⟨hidle, hbeyond⟩ := h.ended e he
      exact ⟨hidle, hbeyond.trans_carries (Or.inl ⟨rfl, Iff.rfl⟩)⟩
    · exact h
  | joinComposer =>
    dsimp only
    split_ifs with hexited
    · exact ⟨h.sys, fun hm => by simp at hm, fun _ => h.joined (Or.inl hmain), fun _ => hexited,
        h.ended⟩
    · exact h

theorem inv_step (p : Process L) (i : Input) (h : Inv p)
    (hB : (pushed (step p i).sys.ring).length < 2 ^ 64) : Inv (step p i) := by
  have hB' := (length_pushed_le p i).trans_lt hB
  cases i with
  | start =>
    simp only [step] at hB ⊢
    split_ifs at hB ⊢ with hmain
    · have hnone := (h.alive hmain).2
      exact h.logger hnone (BatchPipeline.inv_step p.sys .start h.sys hB) p.push_enabled_
    · exact h
  | composerLoop sample now =>
    refine h.composer (BatchPipeline.inv_step p.sys _ h.sys hB)
      (carries_composerLoop h.sys sample now) (fun hexited => ?_)
      (logger_composerLoop p.sys sample now)
    simp [BatchPipeline.step, composerLoop, hexited]
  | composerStep =>
    refine h.composer (BatchPipeline.inv_step p.sys _ h.sys hB)
      (carries_composerStep h.sys hB') (fun hexited => ?_) (logger_composerStep p.sys)
    simp [BatchPipeline.step, composerStep, hexited]
  | loggerLoop connected batch => exact h.loggerLoop connected batch hB
  | loggerStep batch =>
    cases hnone : p.ended with
    | none => exact h.logger hnone (BatchPipeline.inv_step p.sys _ h.sys hB) p.push_enabled_
    | some e =>
      -- the thread has ended between two rounds
      have hidle := (h.ended e hnone).1
      rw [show step p (.loggerStep batch) = p by
        simp [step, onSys, BatchPipeline.step, loggerStep, hidle]]
      exact h
  | detach =>
    simp only [step]
    split_ifs with hmain
    · exact ⟨h.sys, fun hm => by simp at hm, fun hm => by simp at hm, fun hm => by simp at hm,
        h.ended⟩
    · exact h
  | mainStep => exact h.mainStep hB

/-! ### The end of the run -/

/-- Nothing is left of the log: the ring is empty, no call of `push` that may succeed is in
progress, and no sample waits for its batch to be flushed. -/
structure Quiet (s : System L) : Prop where
  empty : s.ring.head_ ≤ s.ring.tail_
  push : promising s.ring.pushPc = false
  pending : s.composer.pending = []

lemma quiet_iff (s : System L) : Quiet s ↔ ¬ Loaded s := by
  unfold Loaded Waiting
  rw [not_or, not_or, UInt64.not_lt, not_not, Bool.not_eq_true]
  exact ⟨fun h => ⟨⟨h.empty, h.push⟩, h.pending⟩, fun h => ⟨h.1.1, h.1.2, h.2⟩⟩

/-- Once the Composer has exited, all that was pushed has been popped or is in the ring. -/
lemma popped_all_iff {s : System L} (h : BatchPipeline.Inv s) (hexited : s.composer.pc = .exited) :
    accepted s.ring.pushes = returned s.ring.pops ↔ ¬ Loaded s := by
  have hpc := h.composer.pc
  rw [hexited] at hpc
  have hidle : s.ring.pushPc = .idle := not_not.mp hpc.1
  have hpending := (pending_lt h).2 hexited
  have hloaded : Loaded s ↔ s.ring.tail_ < s.ring.head_ := by
    simp [Loaded, Waiting, hidle, promising, hpending]
  rw [hloaded, UInt64.not_lt, SpscRing.empty_iff (k := ringBits),
    SpscRing.accepted_eq h.ring.fifo]
  simp

/-- **What becomes of the end of the log.** When both threads have been joined, all batches
that were pushed successfully have been popped exactly if the Logger's thread left nothing
behind when it ended, and no sample was composed since. -/
theorem log_drained_iff (L : Layout BatchLogRecord) (robot_id robot_id_ : UInt32)
    (downsample_every : UInt64) (batch_ : BatchLogRecord) (buffer : ℕ → BatchLogRecord)
    (l : List Input)
    (hB : (pushed (run step
      (start L robot_id robot_id_ downsample_every batch_ buffer) l).sys.ring).length < 2 ^ 64)
    (hend : (run step
      (start L robot_id robot_id_ downsample_every batch_ buffer) l).main = .detached) :
    let p := run step (start L robot_id robot_id_ downsample_every batch_ buffer) l
    ∃ e, p.ended = some e ∧
      (accepted p.sys.ring.pushes = returned p.sys.ring.pops ↔
        Quiet e ∧ p.sys.composed = e.composed) := by
  intro p
  have hinv : Inv p :=
    (each_of_final (B := fun p : Process L => (pushed p.sys.ring).length < 2 ^ 64)
      (fun p i h => (length_pushed_le p i).trans_lt h) hB).invariant (I := Inv) inv_step
      (inv_start L robot_id robot_id_ downsample_every batch_ buffer)
  obtain ⟨e, he⟩ := Option.ne_none_iff_exists'.mp (hinv.joined (Or.inr hend))
  refine ⟨e, he, ?_⟩
  rw [popped_all_iff hinv.sys (hinv.exited hend), (hinv.ended e he).2.loaded, not_or, not_not,
    quiet_iff]

/-- A run to its end: the Logger's thread ends, a sample is composed, and the Composer flushes
it as it exits. -/
def lateSample : List Input :=
  [.start, .loggerLoop true zeroBatch, .loggerStep zeroBatch, .loggerStep zeroBatch, .detach,
    .loggerLoop true zeroBatch, .composerLoop zeroSample 0, .mainStep, .composerLoop zeroSample 0,
    .composerStep, .composerStep, .composerStep, .composerStep, .composerLoop zeroSample 0,
    .mainStep]

theorem log_drained_iff_lateSample :
    let p := run step (start (Layout.whole _) 1 1 5 zeroBatch fun _ => zeroBatch) lateSample
    ∃ e, p.ended = some e ∧
      (accepted p.sys.ring.pushes = returned p.sys.ring.pops ↔
        Quiet e ∧ p.sys.composed = e.composed) :=
  log_drained_iff (Layout.whole _) 1 1 5 zeroBatch (fun _ => zeroBatch) lateSample
    (by decide +kernel) (by decide +kernel)

/-- The batch of that sample is pushed, and no one pops it. -/
theorem lateSample_lost :
    let p := run step (start (Layout.whole _) 1 1 5 zeroBatch fun _ => zeroBatch) lateSample
    p.main = .detached ∧ p.push_enabled_ = true ∧ (accepted p.sys.ring.pushes).length = 1 ∧
      returned p.sys.ring.pops = [] := by
  decide +kernel

end Kuavo.LogShutdown
