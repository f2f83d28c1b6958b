import Kuavo.Lib.Runs
import Mathlib.Logic.Function.Basic

/-!
The thread of `lib/robot/ControlledSubsystemBase.h`: the loop of `Run`, the queue of
`lib/common/FdEvent.h` that other threads push messages to, and the two flags by which a
caller pauses it.

Each lock, queue operation, read or write of the eventfd and access to a flag is a step of its
own, and steps of different threads come in any order.
-/

namespace Kuavo.ControlledSubsystem

open Kuavo.Lib.Runs

/-- The largest value of the counter of an eventfd. -/
def EVENTFD_MAX : ℕ := 0xFFFFFFFFFFFFFFFE

/-- Where a thread that calls `Fifo::push` is. -/
inductive PushPc (T : Type*)
  | idle
  | lock (item : T)
  | push (item : T)
  | unlock
  | notify

/-- Where the thread is in `Run`; from `wait` to `execute` it is in the loop that pops. -/
inductive RunPc (T : Type*)
  | head
  | poll
  | wait
  | lock
  | pop
  | unlock (item : Option T)
  | execute (item : T)
  | periodic
  /-- Before the store of `m_inControllerPeriodic`. -/
  | enter
  /-- Before the load of `m_pauseRequested`. -/
  | test
  | controllerPeriodic
  | leave
  | returned

/-- Where the thread that pauses and resumes is. -/
inductive CallerPc
  | idle
  | spin
  deriving DecidableEq

/-- Who holds `lock_`. -/
inductive Holder (P : Type*)
  | free
  | pusher (p : P)
  | runner
  deriving DecidableEq

structure State (P T : Type*) where
  lock_ : Holder P := .free
  queue_ : List T := []
  /-- The counter of the eventfd. -/
  fd_event_ : ℕ := 0
  pushPc : P → PushPc T := fun _ => .idle
  runPc : RunPc T := .head
  m_entryThreadRunning : Bool := true
  m_ready : Bool := false
  m_pauseRequested : Bool := false
  m_inControllerPeriodic : Bool := false
  callerPc : CallerPc := .idle
  /-- Whether `pause` has returned without a timeout and `resume` was not called since. -/
  paused : Bool := false
  /-- The items that were queued, and those that were executed, in order. -/
  pushed : List T := []
  executed : List T := []

/-- What `poll` returns. An interrupted call goes on like one that timed out. -/
inductive PollResult
  | ready | timeout | error

/-- `due` says whether the next period has begun. -/
inductive Input (P T : Type*)
  | push (p : P) (item : T)
  | pushStep (p : P)
  | runStep (poll : PollResult) (due : Bool)
  | markReady
  | stopThread
  | startThread (created : Bool)
  | pause
  /-- One turn of the loop in `pause`; `timeout` says whether 5 ms are over. -/
  | pauseStep (timeout : Bool)
  | resume

variable {P T : Type*} [DecidableEq P]

def notify (counter : ℕ) : ℕ := if counter < EVENTFD_MAX then counter + 1 else counter

def setPushPc (s : State P T) (p : P) (pc : PushPc T) : State P T :=
  { s with pushPc := Function.update s.pushPc p pc }

def pushStep (s : State P T) (p : P) : State P T :=
  match s.pushPc p with
  | .idle => s
  | .lock item =>
    match s.lock_ with
    | .free => setPushPc { s with lock_ := .pusher p } p (.push item)
    | _ => s
  | .push item =>
    setPushPc { s with queue_ := s.queue_ ++ [item], pushed := s.pushed ++ [item] } p .unlock
  | .unlock => setPushPc { s with lock_ := .free } p .notify
  | .notify => setPushPc { s with fd_event_ := notify s.fd_event_ } p .idle

/-- The loop goes on until `pop` gives nothing. -/
def popped : Option T → RunPc T
  | some f => .execute f
  | none => .periodic

def runStep (s : State P T) (poll : PollResult) (due : Bool) : State P T :=
  match s.runPc with
  | .head => { s with runPc := if s.m_entryThreadRunning then .poll else .returned }
  | .poll =>
    match poll with
    | .ready => if 0 < s.fd_event_ then { s with runPc := .wait } else s
    | .timeout => { s with runPc := .periodic }
    | .error => { s with runPc := .head }
  | .wait => { s with fd_event_ := 0, runPc := .lock }
  | .lock =>
    match s.lock_ with
    | .free => { s with lock_ := .runner, runPc := .pop }
    | _ => s
  | .pop => { s with queue_ := s.queue_.tail, runPc := .unlock s.queue_.head? }
  | .unlock item => { s with lock_ := .free, runPc := popped item }
  | .execute item => { s with executed := s.executed ++ [item], runPc := .wait }
  | .periodic => { s with runPc := if due && s.m_ready then .enter else .head }
  | .enter => { s with m_inControllerPeriodic := true, runPc := .test }
  | .test => { s with runPc := if s.m_pauseRequested then .leave else .controllerPeriodic }
  | .controllerPeriodic => { s with runPc := .leave }
  | .leave => { s with m_inControllerPeriodic := false, runPc := .head }
  | .returned => s

/-- A thread starts a call only when it has returned from the last. `stopThread` joins the
thread, and a thread is started again only after that. -/
def step (s : State P T) : Input P T → State P T
  | .push p item =>
    match s.pushPc p with
    | .idle => setPushPc s p (.lock item)
    | _ => s
  | .pushStep p => pushStep s p
  | .runStep poll due => runStep s poll due
  | .markReady => { s with m_ready := true }
  | .stopThread => { s with m_entryThreadRunning := false }
  | .startThread created =>
    match s.m_entryThreadRunning, s.runPc with
    | false, .returned =>
      if created then
        { s with m_entryThreadRunning := true, m_pauseRequested := false, runPc := .head }
      else { s with m_pauseRequested := false }
    | _, _ => s
  | .pause =>
    match s.callerPc with
    | .idle => { s with m_pauseRequested := true, callerPc := .spin }
    | .spin => s
  | .pauseStep timeout =>
    match s.callerPc with
    | .idle => s
    | .spin =>
      if s.m_inControllerPeriodic then
        if timeout then { s with callerPc := .idle } else s
      else { s with callerPc := .idle, paused := true }
  | .resume =>
    match s.callerPc with
    | .idle => { s with m_pauseRequested := false, paused := false }
    | .spin => s

/-- Before the thread's first turn, with nothing queued. -/
def start : State P T := {}

/-! ### What one step does -/

inductive PushMove (s : State P T) (p : P) : State P T → Prop
  | stay : PushMove s p s
  | lock (item : T) (hpc : s.pushPc p = .lock item) (hlock : s.lock_ = .free) :
      PushMove s p (setPushPc { s with lock_ := .pusher p } p (.push item))
  | push (item : T) (hpc : s.pushPc p = .push item) :
      PushMove s p
        (setPushPc { s with queue_ := s.queue_ ++ [item], pushed := s.pushed ++ [item] } p .unlock)
  | unlock (hpc : s.pushPc p = .unlock) :
      PushMove s p (setPushPc { s with lock_ := .free } p .notify)
  | notify (hpc : s.pushPc p = .notify) :
      PushMove s p (setPushPc { s with fd_event_ := notify s.fd_event_ } p .idle)

lemma pushMove_pushStep (s : State P T) (p : P) : PushMove s p (pushStep s p) := by
  unfold pushStep
  cases hpc : s.pushPc p with
  | idle => exact .stay
  | lock item =>
    cases hlock : s.lock_ with
    | free => exact .lock item hpc hlock
    | pusher q => exact .stay
    | runner => exact .stay
  | push item => exact .push item hpc
  | unlock => exact .unlock hpc
  | notify => exact .notify hpc

inductive RunMove (s : State P T) : State P T → Prop
  | stay : RunMove s s
  | head (hpc : s.runPc = .head) :
      RunMove s { s with runPc := if s.m_entryThreadRunning then .poll else .returned }
  | ready (hpc : s.runPc = .poll) (hfd : 0 < s.fd_event_) : RunMove s { s with runPc := .wait }
  | timeout (hpc : s.runPc = .poll) : RunMove s { s with runPc := .periodic }
  | error (hpc : s.runPc = .poll) : RunMove s { s with runPc := .head }
  | wait (hpc : s.runPc = .wait) : RunMove s { s with fd_event_ := 0, runPc := .lock }
  | lock (hpc : s.runPc = .lock) (hlock : s.lock_ = .free) :
      RunMove s { s with lock_ := .runner, runPc := .pop }
  | pop (hpc : s.runPc = .pop) :
      RunMove s { s with queue_ := s.queue_.tail, runPc := .unlock s.queue_.head? }
  | unlock (item : Option T) (hpc : s.runPc = .unlock item) :
      RunMove s { s with lock_ := .free, runPc := popped item }
  | execute (item : T) (hpc : s.runPc = .execute item) :
      RunMove s { s with executed := s.executed ++ [item], runPc := .wait }
  | periodic (due : Bool) (hpc : s.runPc = .periodic) :
      RunMove s { s with runPc := if due && s.m_ready then .enter else .head }
  | enter (hpc : s.runPc = .enter) :
      RunMove s { s with m_inControllerPeriodic := true, runPc := .test }
  | test (hpc : s.runPc = .test) :
      RunMove s { s with runPc := if s.m_pauseRequested then .leave else .controllerPeriodic }
  | controllerPeriodic (hpc : s.runPc = .controllerPeriodic) :
      RunMove s { s with runPc := .leave }
  | leave (hpc : s.runPc = .leave) :
      RunMove s { s with m_inControllerPeriodic := false, runPc := .head }

omit [DecidableEq P] in
lemma runMove_runStep (s : State P T) (poll : PollResult) (due : Bool) :
    RunMove s (runStep s poll due) := by
  unfold runStep
  cases hpc : s.runPc with
  | head => exact .head hpc
  | poll =>
    cases poll with
    | ready =>
      dsimp only
      split_ifs with hfd
      · exact .ready hpc hfd
      · exact .stay
    | timeout => exact .timeout hpc
    | error => exact .error hpc
  | wait => exact .wait hpc
  | lock =>
    cases hlock : s.lock_ with
    | free => exact .lock hpc hlock
    | pusher q => exact .stay
    | runner => exact .stay
  | pop => exact .pop hpc
  | unlock item => exact .unlock item hpc
  | execute item => exact .execute item hpc
  | periodic => exact .periodic due hpc
  | enter => exact .enter hpc
  | test => exact .test hpc
  | controllerPeriodic => exact .controllerPeriodic hpc
  | leave => exact .leave hpc
  | returned => exact .stay

@[simp] lemma setPushPc_self (s : State P T) (p : P) (pc : PushPc T) :
    (setPushPc s p pc).pushPc p = pc := by
  simp [setPushPc]

@[simp] lemma setPushPc_other (s : State P T) {p q : P} (h : q ≠ p) (pc : PushPc T) :
    (setPushPc s p pc).pushPc q = s.pushPc q := by
  simp [setPushPc, h]

/-! ### The lock -/

/-- The part of `push` that holds the lock. -/
def PushPc.inSection : PushPc T → Bool
  | .push _ | .unlock => true
  | _ => false

/-- The part of `pop` that holds the lock. -/
def RunPc.inSection : RunPc T → Bool
  | .pop | .unlock _ => true
  | _ => false

/-- The lock is held by the thread that is in its section. -/
structure Exclusive (s : State P T) : Prop where
  pusher : ∀ p, (s.pushPc p).inSection = true ↔ s.lock_ = .pusher p
  runner : s.runPc.inSection = true ↔ s.lock_ = .runner

omit [DecidableEq P] in
lemma exclusive_start : Exclusive (start : State P T) :=
  ⟨fun p => by simp [start, PushPc.inSection], by simp [start, RunPc.inSection]⟩

lemma exclusive_setPushPc {s : State P T} (hs : Exclusive s) {p : P} {pc : PushPc T}
    (hpc : pc.inSection = (s.pushPc p).inSection) : Exclusive (setPushPc s p pc) := by
  refine ⟨fun q => ?_, hs.runner⟩
  by_cases hq : q = p
  · subst hq
    rw [setPushPc_self, hpc]
    exact hs.pusher q
  · rw [setPushPc_other s hq]
    exact hs.pusher q

/-- A thread takes the lock when it is free, or gives it back. -/
lemma exclusive_setLock {s : State P T} (hs : Exclusive s) {p : P} {pc : PushPc T}
    (hbefore : s.lock_ = .free ∨ s.lock_ = .pusher p) {h : Holder P}
    (hafter : h = if pc.inSection then .pusher p else .free) :
    Exclusive (setPushPc { s with lock_ := h } p pc) := by
  subst hafter
  refine ⟨fun q => ?_, ?_⟩
  · by_cases hq : q = p
    · subst hq
      cases hin : pc.inSection <;> simp [hin, setPushPc]
    · have hno : (s.pushPc q).inSection = false := by
        have h := hs.pusher q
        rcases hbefore with hb | hb <;> rw [hb] at h <;> simpa [Ne.symm hq] using h
      rw [setPushPc_other _ hq, hno]
      cases pc.inSection <;> simp [setPushPc, Ne.symm hq]
  · have hno : s.runPc.inSection = false := by
      have h := hs.runner
      rcases hbefore with hb | hb <;> rw [hb] at h <;> simpa using h
    cases pc.inSection <;> simp [setPushPc, hno]

lemma exclusive_pushMove {s t : State P T} {p : P} (hs : Exclusive s) (h : PushMove s p t) :
    Exclusive t := by
  cases h with
  | stay => exact hs
  | lock item hpc hlock => exact exclusive_setLock hs (Or.inl hlock) rfl
  | push item hpc =>
    have hs' : Exclusive { s with queue_ := s.queue_ ++ [item], pushed := s.pushed ++ [item] } :=
      ⟨hs.pusher, hs.runner⟩
    exact exclusive_setPushPc hs' (by simp [hpc, PushPc.inSection])
  | unlock hpc => exact exclusive_setLock hs (Or.inr ((hs.pusher p).mp (by rw [hpc]; rfl))) rfl
  | notify hpc =>
    have hs' : Exclusive { s with fd_event_ := notify s.fd_event_ } := ⟨hs.pusher, hs.runner⟩
    exact exclusive_setPushPc hs' (by simp [hpc, PushPc.inSection])

omit [DecidableEq P] in
/-- Outside of `pop` the thread of `Run` leaves the lock alone. -/
lemma exclusive_setRunPc {s t : State P T} (hs : Exclusive s) (hlock : t.lock_ = s.lock_)
    (hpush : t.pushPc = s.pushPc) (hpc : t.runPc.inSection = s.runPc.inSection) :
    Exclusive t := by
  refine ⟨fun p => ?_, ?_⟩
  · rw [hlock, hpush]
    exact hs.pusher p
  · rw [hlock, hpc]
    exact hs.runner

omit [DecidableEq P] in
lemma exclusive_runMove {s t : State P T} (hs : Exclusive s) (h : RunMove s t) :
    Exclusive t := by
  cases h with
  | stay => exact hs
  | lock hpc hlock =>
    refine ⟨fun p => ?_, by simp [RunPc.inSection]⟩
    have h := hs.pusher p
    rw [hlock] at h
    simpa using h
  | unlock item hpc =>
    have hlock : s.lock_ = .runner := hs.runner.mp (by rw [hpc]; rfl)
    refine ⟨fun p => ?_, ?_⟩
    · have h := hs.pusher p
      rw [hlock] at h
      simpa using h
    · cases item <;> simp [popped, RunPc.inSection]
  | head hpc => exact exclusive_setRunPc hs rfl rfl (by rw [hpc]; dsimp only; split_ifs <;> rfl)
  | periodic due hpc =>
    exact exclusive_setRunPc hs rfl rfl (by rw [hpc]; dsimp only; split_ifs <;> rfl)
  | test hpc => exact exclusive_setRunPc hs rfl rfl (by rw [hpc]; dsimp only; split_ifs <;> rfl)
  | ready hpc | timeout hpc | error hpc | wait hpc | pop hpc | execute item hpc | enter hpc
  | controllerPeriodic hpc | leave hpc =>
    exact exclusive_setRunPc hs rfl rfl (by rw [hpc]; rfl)

theorem exclusive_step (s : State P T) (i : Input P T) (hs : Exclusive s) :
    Exclusive (step s i) := by
  cases i with
  | push p item =>
    simp only [step]
    cases hpc : s.pushPc p with
    | idle => exact exclusive_setPushPc hs (by rw [hpc]; rfl)
    | _ => exact hs
  | pushStep p => exact exclusive_pushMove hs (pushMove_pushStep s p)
  | runStep poll due => exact exclusive_runMove hs (runMove_runStep s poll due)
  | startThread created =>
    simp only [step]
    split
    · rename_i _ hpc
      have hin : (RunPc.head : RunPc T).inSection = s.runPc.inSection := by
        rw [hpc]
        rfl
      split_ifs
      · exact exclusive_setRunPc hs rfl rfl hin
      · exact ⟨hs.pusher, hs.runner⟩
    · exact hs
  | pause | resume | pauseStep timeout =>
    simp only [step]
    repeat' split
    all_goals exact ⟨hs.pusher, hs.runner⟩
  | markReady | stopThread => exact ⟨hs.pusher, hs.runner⟩

theorem exclusive_run (l : List (Input P T)) : Exclusive (run step (start : State P T) l) :=
  run_invariant exclusive_step exclusive_start l

/-- **Mutual exclusion.** At most one thread is in the section of `push` or `pop`. -/
theorem mutual_exclusion (l : List (Input P T)) {p q : P}
    (hp : ((run step (start : State P T) l).pushPc p).inSection = true) :
    (run step (start : State P T) l).runPc.inSection = false ∧
      (((run step (start : State P T) l).pushPc q).inSection = true → q = p) := by
  have hs := exclusive_run l
  have hlock := (hs.pusher p).mp hp
  constructor
  · have h := hs.runner
    rw [hlock] at h
    simpa using h
  · intro hq
    have h := (hs.pusher q).mp hq
    rw [hlock] at h
    exact (Holder.pusher.inj h).symm

/-! ### The queue -/

/-- The item that was popped and is not executed yet. -/
def RunPc.inHand : RunPc T → List T
  | .unlock (some f) | .execute f => [f]
  | _ => []

/-- Outside of the loop that pops, or about to leave it. -/
def RunPc.outside : RunPc T → Bool
  | .wait | .lock | .pop | .unlock (some _) | .execute _ => false
  | _ => true

/-- The item is queued, and the eventfd not written yet. -/
def PushPc.yetToNotify : PushPc T → Bool
  | .unlock | .notify => true
  | _ => false

/-- Someone is to see to it that the loop that pops is entered. -/
def Awake (s : State P T) : Prop :=
  s.queue_ ≠ [] → 0 < s.fd_event_ ∨ ∃ p, (s.pushPc p).yetToNotify = true

structure QueueInv (s : State P T) : Prop where
  order : s.executed ++ s.runPc.inHand ++ s.queue_ = s.pushed
  awake : s.runPc.outside = true → Awake s

omit [DecidableEq P] in
lemma queueInv_start : QueueInv (start : State P T) :=
  ⟨rfl, fun _ h => absurd rfl h⟩

/-- A thread that is not yet to notify can move without anyone being left asleep. -/
lemma Awake.setPushPc {s : State P T} (h : Awake s) {p : P} (pc : PushPc T)
    (hp : (s.pushPc p).yetToNotify = false) : Awake (setPushPc s p pc) := by
  intro hq
  rcases h hq with hfd | ⟨q, hyet⟩
  · exact Or.inl hfd
  · have hqp : q ≠ p := by
      rintro rfl
      rw [hp] at hyet
      exact absurd hyet (by simp)
    exact Or.inr ⟨q, by rw [setPushPc_other s hqp]; exact hyet⟩

lemma awake_of_yetToNotify (s : State P T) (p : P) {pc : PushPc T}
    (hpc : pc.yetToNotify = true) : Awake (setPushPc s p pc) :=
  fun _ => Or.inr ⟨p, by rw [setPushPc_self]; exact hpc⟩

lemma notify_pos (counter : ℕ) : 0 < notify counter := by
  unfold notify EVENTFD_MAX
  split_ifs <;> omega

lemma queueInv_pushMove {s t : State P T} {p : P} (hs : QueueInv s) (h : PushMove s p t) :
    QueueInv t := by
  cases h with
  | stay => exact hs
  | lock item hpc hlock =>
    exact ⟨hs.order, fun ho => (hs.awake ho).setPushPc (.push item) (by rw [hpc]; rfl)⟩
  | push item hpc =>
    refine ⟨?_, fun _ => awake_of_yetToNotify _ p rfl⟩
    simp only [setPushPc, ← hs.order, List.append_assoc]
  | unlock hpc => exact ⟨hs.order, fun _ => awake_of_yetToNotify _ p rfl⟩
  | notify hpc => exact ⟨hs.order, fun _ _ => Or.inl (notify_pos s.fd_event_)⟩

omit [DecidableEq P] in
/-- A move that touches neither queue nor eventfd, with nothing in hand before and after. -/
lemma QueueInv.setRunPc {s : State P T} (hs : QueueInv s) {pc : RunPc T}
    (hhand : pc.inHand = s.runPc.inHand) (hout : pc.outside = true → s.runPc.outside = true) :
    QueueInv { s with runPc := pc } :=
  ⟨by rw [hhand]; exact hs.order, fun ho => hs.awake (hout ho)⟩

omit [DecidableEq P] in
lemma queueInv_runMove {s t : State P T} (hs : QueueInv s) (h : RunMove s t) : QueueInv t := by
  cases h with
  | stay => exact hs
  | head hpc =>
    refine hs.setRunPc ?_ ?_ <;> rw [hpc] <;> split_ifs <;> simp [RunPc.inHand, RunPc.outside]
  | periodic due hpc =>
    refine hs.setRunPc ?_ ?_ <;> rw [hpc] <;> split_ifs <;> simp [RunPc.inHand, RunPc.outside]
  | test hpc =>
    refine hs.setRunPc ?_ ?_ <;> rw [hpc] <;> split_ifs <;> simp [RunPc.inHand, RunPc.outside]
  | ready hpc | timeout hpc | error hpc | controllerPeriodic hpc =>
    refine hs.setRunPc ?_ ?_ <;> rw [hpc] <;> simp [RunPc.inHand, RunPc.outside]
  | enter hpc | leave hpc =>
    have hout := hs.awake (by rw [hpc]; rfl)
    have hord := hs.order
    rw [hpc] at hord
    exact ⟨hord, fun _ => hout⟩
  | wait hpc | lock hpc hlock =>
    have hord := hs.order
    rw [hpc] at hord
    exact ⟨hord, fun ho => absurd ho (by simp [RunPc.outside])⟩
  | pop hpc =>
    have hord := hs.order
    rw [hpc] at hord
    cases hq : s.queue_ with
    | nil =>
      -- the loop is left only with an empty queue
      rw [hq] at hord
      exact ⟨hord, fun _ h => absurd rfl h⟩
    | cons f rest =>
      refine ⟨?_, fun ho => absurd ho (by simp [RunPc.outside])⟩
      simpa [hq, RunPc.inHand] using hord
  | unlock item hpc =>
    have hord := hs.order
    rw [hpc] at hord
    cases item with
    | none => exact ⟨hord, fun _ => hs.awake (by rw [hpc]; rfl)⟩
    | some f => exact ⟨hord, fun ho => absurd ho (by simp [popped, RunPc.outside])⟩
  | execute item hpc =>
    have hord := hs.order
    rw [hpc] at hord
    refine ⟨?_, fun ho => absurd ho (by simp [RunPc.outside])⟩
    simpa [RunPc.inHand] using hord

theorem queueInv_step (s : State P T) (i : Input P T) (hs : QueueInv s) : QueueInv (step s i) := by
  cases i with
  | push p item =>
    simp only [step]
    cases hpc : s.pushPc p with
    | idle => exact ⟨hs.order, fun ho => (hs.awake ho).setPushPc (.lock item) (by rw [hpc]; rfl)⟩
    | _ => exact hs
  | pushStep p => exact queueInv_pushMove hs (pushMove_pushStep s p)
  | runStep poll due => exact queueInv_runMove hs (runMove_runStep s poll due)
  | startThread created =>
    simp only [step]
    split
    · rename_i _ hpc
      have hord := hs.order
      rw [hpc] at hord
      split_ifs
      · exact ⟨hord, fun _ => hs.awake (by rw [hpc]; rfl)⟩
      · exact ⟨hs.order, hs.awake⟩
    · exact hs
  | pause | resume | pauseStep timeout =>
    simp only [step]
    repeat' split
    all_goals exact ⟨hs.order, hs.awake⟩
  | markReady | stopThread => exact ⟨hs.order, hs.awake⟩

/-- **Every item is executed once, in the order of the pushes, and no wake-up is lost.** What
was pushed is what was executed, the item in hand and the queue; and while the thread is
blocked in `poll`, a queued item has made the eventfd readable or is about to. -/
theorem executed_in_order (l : List (Input P T)) :
    let s := run step (start : State P T) l
    s.executed ++ s.runPc.inHand ++ s.queue_ = s.pushed ∧
      (s.runPc = .poll → s.queue_ ≠ [] →
        0 < s.fd_event_ ∨ ∃ p, (s.pushPc p).yetToNotify = true) := by
  intro s
  have hs : QueueInv s := run_invariant queueInv_step queueInv_start l
  exact ⟨hs.order, fun hpc => hs.awake (by rw [hpc]; rfl)⟩

/-! ### Pause and resume -/

/-- Between the two stores of `m_inControllerPeriodic`. -/
def RunPc.entered : RunPc T → Bool
  | .test | .controllerPeriodic | .leave => true
  | _ => false

/-- Each side sets its own flag before it looks at the other's. -/
structure PauseInv (s : State P T) : Prop where
  flag : s.runPc.entered = true → s.m_inControllerPeriodic = true
  requested : s.callerPc = .spin ∨ s.paused = true → s.m_pauseRequested = true
  out : s.paused = true → s.runPc ≠ .controllerPeriodic

/-- The thread is not started between `pause` and `resume`. -/
def NoStart (s : State P T) : Input P T → Prop
  | .startThread _ => s.callerPc = .idle ∧ s.paused = false
  | _ => True

omit [DecidableEq P] in
lemma pauseInv_start : PauseInv (start : State P T) :=
  ⟨fun h => absurd h (by simp [start, RunPc.entered]), fun h => absurd h (by simp [start]),
    fun h => absurd h (by simp [start])⟩

omit [DecidableEq P] in
/-- A move of the thread that does not enter. -/
lemma PauseInv.setRunPc {s : State P T} (hs : PauseInv s) {pc : RunPc T}
    (hpc : pc.entered = false) : PauseInv { s with runPc := pc } := by
  refine ⟨fun h => ?_, hs.requested, fun _ h => ?_⟩
  · rw [hpc] at h
    exact absurd h (by simp)
  · obtain rfl : pc = .controllerPeriodic := h
    exact absurd hpc (by simp [RunPc.entered])

lemma pauseInv_pushMove {s t : State P T} {p : P} (hs : PauseInv s) (h : PushMove s p t) :
    PauseInv t := by
  cases h <;> exact ⟨hs.flag, hs.requested, hs.out⟩

omit [DecidableEq P] in
lemma pauseInv_runMove {s t : State P T} (hs : PauseInv s) (h : RunMove s t) : PauseInv t := by
  cases h with
  | stay => exact hs
  | head hpc => exact hs.setRunPc (by split_ifs <;> rfl)
  | periodic due hpc => exact hs.setRunPc (by split_ifs <;> rfl)
  | ready hpc hfd | timeout hpc | error hpc => exact hs.setRunPc rfl
  | wait hpc | lock hpc hlock | pop hpc | execute item hpc =>
    exact ⟨fun h => absurd h (by simp [RunPc.entered]), hs.requested, fun _ h => by simp at h⟩
  | unlock item hpc =>
    cases item <;>
      exact ⟨fun h => absurd h (by simp [popped, RunPc.entered]), hs.requested,
        fun _ h => by simp [popped] at h⟩
  | enter hpc => exact ⟨fun _ => rfl, hs.requested, fun _ h => by simp at h⟩
  | test hpc =>
    have hflag := hs.flag (by rw [hpc]; rfl)
    refine ⟨fun _ => hflag, hs.requested, fun hp h => ?_⟩
    -- who is paused has asked before, and the test sees it
    have hreq := hs.requested (Or.inr hp)
    simp [hreq] at h
  | controllerPeriodic hpc =>
    have hflag := hs.flag (by rw [hpc]; rfl)
    exact ⟨fun _ => hflag, hs.requested, fun _ h => by simp at h⟩
  | leave hpc =>
    exact ⟨fun h => absurd h (by simp [RunPc.entered]), hs.requested, fun _ h => by simp at h⟩

theorem pauseInv_step (s : State P T) (i : Input P T) (hs : PauseInv s) (hi : NoStart s i) :
    PauseInv (step s i) := by
  cases i with
  | push p item =>
    simp only [step]
    cases s.pushPc p with
    | idle => exact ⟨hs.flag, hs.requested, hs.out⟩
    | _ => exact hs
  | pushStep p => exact pauseInv_pushMove hs (pushMove_pushStep s p)
  | runStep poll due => exact pauseInv_runMove hs (runMove_runStep s poll due)
  | startThread created =>
    obtain ⟨hidle, hpaused⟩ := hi
    simp only [step]
    split
    · split_ifs
      · exact ⟨fun h => absurd h (by simp [RunPc.entered]), by simp [hidle, hpaused],
          by simp [hpaused]⟩
      · exact ⟨hs.flag, by simp [hidle, hpaused], by simp [hpaused]⟩
    · exact hs
  | pause =>
    simp only [step]
    cases hpc : s.callerPc with
    | idle => exact ⟨hs.flag, fun _ => rfl, hs.out⟩
    | spin => exact hs
  | pauseStep timeout =>
    simp only [step]
    cases hpc : s.callerPc with
    | idle => exact hs
    | spin =>
      have hreq := hs.requested (Or.inl hpc)
      dsimp only
      split_ifs with hin
      · exact ⟨hs.flag, fun _ => hreq, hs.out⟩
      · exact hs
      · refine ⟨hs.flag, fun _ => hreq, fun _ hrun => hin ?_⟩
        exact hs.flag (by rw [hrun]; rfl)
  | resume =>
    simp only [step]
    cases hpc : s.callerPc with
    | idle => exact ⟨hs.flag, by simp, by simp⟩
    | spin => exact hs
  | markReady | stopThread => exact ⟨hs.flag, hs.requested, hs.out⟩

/-- **Pausing excludes `controllerPeriodic`.** From the moment `pause` returns without its
timeout until `resume` is called, the thread is not in `controllerPeriodic`. -/
theorem paused_excludes_controllerPeriodic (l : List (Input P T))
    (hl : Each step NoStart (start : State P T) l) :
    (run step (start : State P T) l).paused = true →
      (run step (start : State P T) l).runPc ≠ .controllerPeriodic :=
  (hl.invariant pauseInv_step pauseInv_start).out

/-- `pause` is called while the thread is about to enter. -/
theorem paused_excludes_controllerPeriodic_entering :
    let l : List (Input Unit ℕ) := [.markReady, .runStep .timeout true, .runStep .timeout true,
      .runStep .timeout true, .pause, .runStep .timeout true, .pauseStep false,
      .runStep .timeout true, .runStep .timeout true, .pauseStep false, .runStep .timeout true,
      .runStep .timeout true, .runStep .timeout true, .runStep .timeout true]
    (run step start l).paused = true ∧ (run step start l).runPc ≠ .controllerPeriodic := by
  intro l
  have hl : Each step NoStart (start : State Unit ℕ) l := by simp [l, NoStart]
  have hp : (run step (start : State Unit ℕ) l).paused = true := by decide
  exact ⟨hp, paused_excludes_controllerPeriodic l hl hp⟩

end Kuavo.ControlledSubsystem
