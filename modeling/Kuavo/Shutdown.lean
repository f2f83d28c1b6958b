import Kuavo.LegSafety
import Kuavo.Robot

/-!
The destruction of the robot.

The main thread disables the legs while their threads still run, joins the threads, closes the
sockets, and destroys the legs. What a leg's destructor sends comes after the sockets are
closed and reaches no motor, so all depends on what `setEnable(false)` finds.
-/

namespace Kuavo

open Kuavo.Lib.Runs Kuavo.Lib.LastSent Kuavo.LegRun Kuavo.MercuryShm

/-! ### Threads that are not joined yet -/

inductive ThreadOp
  | process
  | cycle (c : Cycle)

def ThreadOp.unitOp : ThreadOp → UnitOp
  | .process => .process
  | .cycle c => .call (.controllerPeriodic c)

/-- The messages that a thread takes from its queue. -/
def processes : List ThreadOp → ℕ
  | [] => 0
  | .process :: ops => processes ops + 1
  | .cycle _ :: ops => processes ops

/-- What the thread of a leg does until the main thread disables the leg, and from then on until
it is joined. -/
structure Background where
  before : List ThreadOp := []
  after : List ThreadOp := []

namespace LegUnit

def threads (u : LegUnit) (ops : List ThreadOp) : LegUnit := run step u (ops.map ThreadOp.unitOp)

/-- A thread that takes a message goes on until the queue is empty. -/
def Drained (u : LegUnit) (bg : Background) : Prop :=
  processes bg.before + processes bg.after = 0 ∨
    u.send_queue_.length ≤ processes bg.before + processes bg.after

/-- `setEnable(false)`, `stopThread` and `setShmPointers`. -/
def detach (u : LegUnit) (bg : Background) : LegUnit :=
  let u := (u.threads bg.before).step (.call (.setEnable false))
  let u := u.threads bg.after
  u.step (.call (.setShmPointers false false))

/-- A closed socket sends nothing. -/
def sendto (m_isClosed : Bool) (u : LegUnit) (frames : Frames) : LegUnit :=
  if m_isClosed then u else { u with st := ⟨u.st.leg, u.st.sent ++ frames⟩ }

end LegUnit

/-- The flag that `close` leaves, and whether it closed the socket. -/
def UdpServer.close (m_isClosed : Bool) : Bool × Bool := (true, !m_isClosed)

/-! ### `~Robot` -/

namespace Robot

def storeLifecycle (r : Robot) (state : ShmLifecycle) : Robot :=
  { r with m_shm := r.m_shm.map fun shm => { shm with lifecycle_state := state } }

def detachSharedMemory (r : Robot) (bg : Side → Background) : Robot :=
  match r.m_shm with
  | none =>
    -- nothing is detached and the threads go on
    { r with
      leftLeg := r.leftLeg.threads (bg .left).before
      rightLeg := r.rightLeg.threads (bg .right).before }
  | some _ =>
    { r with
      leftLeg := r.leftLeg.detach (bg .left)
      rightLeg := r.rightLeg.detach (bg .right)
      m_shm := none
      m_composer := false
      m_imu_stale_counter := 0 }

/-- The destructor of the robot and of its legs, the right one first. -/
def destroy (r : Robot) (bg : Side → Background) : Robot :=
  let r := (r.storeLifecycle .SHUTTING_DOWN).storeLifecycle .TERMINATED
  let r := r.detachSharedMemory bg
  let (m_isClosed, _) := UdpServer.close false
  let r := { r with rightLeg := r.rightLeg.sendto m_isClosed r.rightLeg.leg.destroy }
  { r with leftLeg := r.leftLeg.sendto m_isClosed r.leftLeg.leg.destroy }

/-- What a destruction does to a leg on the open sockets. -/
lemma leg_destroy (r : Robot) (bg : Side → Background) (s : Side) :
    (r.destroy bg).leg s =
      if r.m_shm.isSome then (r.leg s).detach (bg s) else (r.leg s).threads (bg s).before := by
  rcases hs : r.m_shm with _ | shm
  · cases s <;> simp [destroy, detachSharedMemory, storeLifecycle, hs, UdpServer.close,
      LegUnit.sendto, leg]
  · cases s <;> simp [destroy, detachSharedMemory, storeLifecycle, hs, UdpServer.close,
      LegUnit.sendto, leg]

end Robot

namespace Shutdown

open Kuavo.LegSafety
open Kuavo.LegPower (Answerable Settled lastAsk PowerOp)

/-! ### Disable frames on the way to a clear flag -/

/-- An operation that clears the flag of a leg tells its motors, but for `disabledInit`. -/
lemma sent_of_cleared {st : LegState} {op : LegOp} (hop : op ≠ .disabledInit)
    (hon : st.leg.isEnabled = true) (hoff : (step st op).leg.isEnabled = false) :
    (apply st.leg op).2 = toAll st.leg.ids .disableMotor := by
  change (apply st.leg op).1.isEnabled = false at hoff
  rcases apply_cases st.leg op with ⟨ha, -⟩ | ⟨ha, -⟩ | rfl | ⟨c, reason, rfl, hr⟩ | ⟨hq, -⟩
  · rw [ha] at hoff
    have hset : (st.leg.setEnable true).1.isEnabled = true := (Legged.setEnable_true st.leg).1
    rw [hset] at hoff
    exact absurd hoff.symm Bool.false_ne_true
  · rw [ha, (Legged.setEnable_false st.leg).2.2.2, hon]
    rfl
  · exact absurd rfl hop
  · have hsame := (Legged.controllerPeriodic_fault hr).1.m_isEnabled
    have hflag : st.leg.isEnabled = false := hsame.symm.trans hoff
    rw [hon] at hflag
    exact absurd hflag.symm Bool.false_ne_true
  · have hflag : st.leg.isEnabled = false := hq.m_isEnabled.symm.trans hoff
    rw [hon] at hflag
    exact absurd hflag.symm Bool.false_ne_true

/-- A run at whose end the flag is clear has sent every motor a disable frame. -/
lemma sentDuring_of_cleared {st : LegState} {l : List LegOp} (hl : .disabledInit ∉ l)
    (hon : st.leg.isEnabled = true) (hoff : (run step st l).leg.isEnabled = false) {k : ℕ}
    (hk : k ∈ st.leg.ids) : (k, .disableMotor) ∈ sentDuring st l := by
  induction l generalizing st with
  | nil =>
    rw [run_nil, hon] at hoff
    exact absurd hoff (by simp)
  | cons op l ih =>
    obtain ⟨hop, hl⟩ : LegOp.disabledInit ≠ op ∧ LegOp.disabledInit ∉ l := by simpa using hl
    unfold sentDuring
    refine List.mem_append.mpr ?_
    rcases hnext : (step st op).leg.isEnabled with _ | _
    · rw [sent_of_cleared hop.symm hon hnext]
      exact Or.inl (mem_toAll.mpr ⟨hk, rfl⟩)
    · exact Or.inr (ih hl hnext hoff (by rw [step_ids]; exact hk))

/-! ### What the threads of the legs come to -/

/-- What a message asks for. -/
def askOf (message : MESSAGE) : Option Bool :=
  if message.type = MSG_ENABLE_SUBSYSTEM then some true
  else if message.type = MSG_DISABLE_SUBSYSTEM then some false
  else if message.type = MSG_EMERGENCY_STOP then some false
  else none

lemma messageOp_ask (message : MESSAGE) :
    (messageOp message).filterMap PowerOp.ask = (askOf message).toList ∧
      PowerOp.clearFlag ∉ messageOp message ∧ ∀ op ∈ messageOp message, op.ask ≠ none := by
  unfold messageOp askOf
  split_ifs <;> simp [PowerOp.ask]

/-- What the messages of a queue ask for last. -/
def queueAsk (u : LegUnit) : Option Bool := (u.send_queue_.filterMap askOf).getLast?

/-- The steps of a thread as requests: those of the messages it took, and faults in between. -/
structure ThreadPower (u : LegUnit) (ops : List ThreadOp) (p : LegPower.Power)
    (l : List PowerOp) : Prop where
  refines : Refines (u.threads ops).st (run LegPower.step p l)
  noClear : .clearFlag ∉ l
  ask : l.filterMap PowerOp.ask = (u.send_queue_.take (processes ops)).filterMap askOf
  queue : (u.threads ops).send_queue_ = u.send_queue_.drop (processes ops)
  noFault : (∀ c, ThreadOp.cycle c ∉ ops) → ∀ op ∈ l, op.ask ≠ none

lemma threadPower_exists {u : LegUnit} {p : LegPower.Power} (h : Refines u.st p)
    (ops : List ThreadOp) : ∃ l, ThreadPower u ops p l := by
  induction ops generalizing u p with
  | nil =>
    exact ⟨[], h, by simp, by simp [processes], by simp [processes, LegUnit.threads], by simp⟩
  | cons op ops ih =>
    cases op with
    | process =>
      rcases hq : u.send_queue_ with _ | ⟨message, rest⟩
      · -- an empty queue gives the thread nothing to do
        have hsame : u.step .process = u := by simp [LegUnit.step, hq]
        obtain ⟨l, hl⟩ := ih h
        have hthreads : u.threads (.process :: ops) = u.threads ops := by
          simp [LegUnit.threads, ThreadOp.unitOp, hsame]
        refine ⟨l, hthreads ▸ hl.refines, hl.noClear, ?_, ?_, fun hc => hl.noFault fun c hmem => ?_⟩
        · rw [hl.ask, hq]
          simp
        · rw [hthreads, hl.queue, hq]
          simp
        · exact hc c (List.mem_cons_of_mem _ hmem)
      · have hstep : u.step .process = ⟨LegRun.step u.st (.onMessage message), rest⟩ := by
          simp [LegUnit.step, hq]
        obtain ⟨hask, hclear, hfault⟩ := messageOp_ask message
        obtain ⟨l, hl⟩ := ih (u := u.step .process)
          (p := run LegPower.step p (messageOp message)) (by rw [hstep]; exact refines_step h _)
        refine ⟨messageOp message ++ l, ?_, ?_, ?_, ?_, fun hc op hop => ?_⟩
        · rw [run_append]
          exact hl.refines
        · simp [hclear, hl.noClear]
        · rw [List.filterMap_append, hask, hl.ask, hstep, hq]
          rcases ha : askOf message with _ | b <;> simp [processes, ha]
        · change ((u.step .process).threads ops).send_queue_ = _
          rw [hl.queue, hstep, hq]
          simp [processes]
        · rcases List.mem_append.mp hop with hop | hop
          · exact hfault op hop
          · exact hl.noFault (fun c hmem => hc c (List.mem_cons_of_mem _ hmem)) op hop
    | cycle c =>
      have hstep := refines_step h (.controllerPeriodic c)
      obtain ⟨l, hl⟩ := ih (u := u.step (.call (.controllerPeriodic c))) hstep
      refine ⟨powerOp u.st.leg (.controllerPeriodic c) ++ l, ?_, ?_, ?_, hl.queue, fun hc => ?_⟩
      · rw [run_append]
        exact hl.refines
      · have hclear : PowerOp.clearFlag ∉ powerOp u.st.leg (.controllerPeriodic c) := by
          rcases hf : (u.st.leg.faultReason c).isSome with _ | _ <;> simp [powerOp, hf]
        simp [hclear, hl.noClear]
      · have hnone : (powerOp u.st.leg (.controllerPeriodic c)).filterMap PowerOp.ask = [] := by
          rcases hf : (u.st.leg.faultReason c).isSome with _ | _ <;>
            simp [powerOp, hf, PowerOp.ask]
        rw [List.filterMap_append, hnone, hl.ask]
        rfl
      · exact absurd (List.mem_cons_self) (hc c)

/-- A detached leg has run the requests of its thread, with a request to switch off among them
that all but the messages taken later follow. -/
lemma detach_power {u : LegUnit} {p : LegPower.Power} (h : Refines u.st p) (bg : Background) :
    ∃ l m, Refines (u.detach bg).st (run LegPower.step p (l ++ .disable :: m)) ∧
      .clearFlag ∉ l ++ .disable :: m ∧
      l.filterMap PowerOp.ask = (u.send_queue_.take (processes bg.before)).filterMap askOf ∧
      m.filterMap PowerOp.ask = ((u.send_queue_.drop (processes bg.before)).take
        (processes bg.after)).filterMap askOf ∧
      ((∀ c, ThreadOp.cycle c ∉ bg.before ++ bg.after) → ∀ op ∈ l ++ .disable :: m,
        op.ask ≠ none) := by
  obtain ⟨l, hl⟩ := threadPower_exists h bg.before
  have hdisable := refines_step hl.refines (.setEnable false)
  obtain ⟨m, hm⟩ := threadPower_exists
    (u := (u.threads bg.before).step (.call (.setEnable false))) hdisable bg.after
  have hend := refines_step hm.refines (.setShmPointers false false)
  refine ⟨l, m, ?_, ?_, hl.ask, ?_, fun hc op hop => ?_⟩
  · rw [run_append]
    exact hend
  · simp [hl.noClear, hm.noClear]
  · rw [hm.ask]
    change List.filterMap askOf (List.take _ (u.threads bg.before).send_queue_) = _
    rw [hl.queue]
  · rcases List.mem_append.mp hop with hop | hop
    · exact hl.noFault (fun c hmem => hc c (List.mem_append_left _ hmem)) op hop
    · rcases List.mem_cons.mp hop with rfl | hop
      · simp [PowerOp.ask]
      · exact hm.noFault (fun c hmem => hc c (List.mem_append_right _ hmem)) op hop

/-! ### The destruction of one leg -/

/-- A request to switch off reaches the motors, or has nothing to do. -/
def Reaches (u : LegUnit) : Prop :=
  u.leg.isEnabled = true ∨ ∀ k ∈ u.leg.ids, lastPower u.st k ≠ some true

/-- The messages of the queue end by asking for motors that are there to be on. -/
def EnableQueued (u : LegUnit) : Prop := queueAsk u = some true ∧ u.leg.ids ≠ []

/-- Between two states of a leg, every motor that was last switched on is sent a disable
frame. -/
def DisablesOn (u u' : LegUnit) : Prop :=
  ∃ frames, u'.st.sent = u.st.sent ++ frames ∧
    ∀ k ∈ u.leg.ids, lastPower u.st k = some true → (k, .disableMotor) ∈ frames

lemma answerable_of_reaches {u : LegUnit} {p : LegPower.Power} (h : Refines u.st p)
    (hr : Reaches u) (hids : u.leg.ids ≠ []) : Answerable p := by
  rcases hr with he | hoff
  · exact Or.inl (h.isEnabled.symm.trans he)
  · obtain ⟨k, hk⟩ := List.exists_mem_of_ne_nil _ hids
    have hpower := h.power k hk
    rcases hon : p.on with _ | _
    · exact Or.inr hon
    · rw [hon] at hpower
      exact absurd hpower (hoff k hk)

/-- A leg that is not enabled is detached in silence if its thread does nothing. -/
lemma detach_quiet {u : LegUnit} (h : u.leg.isEnabled = false) :
    (u.detach {}).st.sent = u.st.sent := by
  have hsilent : (u.st.leg.setEnable false).2 = [] := by
    have hflag : u.st.leg.isEnabled = false := h
    rw [(Legged.setEnable_false u.st.leg).2.2.2, hflag]
    rfl
  change (u.st.sent ++ (u.st.leg.setEnable false).2) ++ [] = u.st.sent
  rw [hsilent, List.append_nil, List.append_nil]

lemma threads_run (u : LegUnit) (ops : List ThreadOp) :
    ∃ l, (u.threads ops).st = run LegRun.step u.st l ∧ LegOp.disabledInit ∉ l := by
  induction ops generalizing u with
  | nil => exact ⟨[], rfl, by simp⟩
  | cons op ops ih =>
    obtain ⟨l, hl, hclear⟩ := ih (u.step op.unitOp)
    refine ⟨u.ops op.unitOp ++ l, ?_, ?_⟩
    · rw [run_append, ← LegUnit.st_step]
      exact hl
    · cases op with
      | process =>
        have hmessages : LegOp.disabledInit ∉ u.ops .process := by
          intro hmem
          obtain ⟨message, -, hmessage⟩ := List.mem_map.mp hmem
          simp at hmessage
        simp [ThreadOp.unitOp, hmessages, hclear]
      | cycle c => simp [LegUnit.ops, ThreadOp.unitOp, hclear]

lemma detach_run (u : LegUnit) (bg : Background) :
    ∃ l m, (u.detach bg).st = run LegRun.step u.st ((l ++ [.setEnable false]) ++ m) ∧
      LegOp.disabledInit ∉ l := by
  obtain ⟨l, hl, hclear⟩ := threads_run u bg.before
  obtain ⟨m, hm, -⟩ := threads_run ((u.threads bg.before).step (.call (.setEnable false))) bg.after
  refine ⟨l, m ++ [.setShmPointers false false], ?_, hclear⟩
  rw [run_append, run_concat, run_concat, ← hl]
  change LegRun.step (LegUnit.threads _ bg.after).st _ = _
  rw [hm]
  rfl

lemma detach_ids (u : LegUnit) (bg : Background) : (u.detach bg).leg.ids = u.leg.ids := by
  obtain ⟨l, m, hrun, -⟩ := detach_run u bg
  change (u.detach bg).st.leg.ids = _
  rw [hrun, run_ids]
  rfl

/-- **One leg.** Whatever its thread does meanwhile, a leg that the request reaches sends a
disable frame to every motor that was on, when it is detached. -/
lemma disablesOn_of_reaches {u : LegUnit} (h : Reaches u) (bg : Background) :
    DisablesOn u (u.detach bg) := by
  obtain ⟨l, m, hrun, hclear⟩ := detach_run u bg
  refine ⟨sentDuring u.st ((l ++ [.setEnable false]) ++ m), by rw [hrun, run_sent],
    fun k hk hon => ?_⟩
  rcases h with he | hoff
  · have hcleared : (run LegRun.step u.st (l ++ [.setEnable false])).leg.isEnabled = false := by
      rw [run_concat]
      exact (Legged.setEnable_false _).1
    rw [sentDuring_append]
    exact List.mem_append_left _ (sentDuring_of_cleared (by simpa using hclear) he hcleared hk)
  · exact absurd hon (hoff k hk)

lemma reaches_of_disablesOn {u : LegUnit} (h : DisablesOn u (u.detach {})) : Reaches u := by
  rcases he : u.leg.isEnabled with _ | _
  · obtain ⟨frames, hsent, hframes⟩ := h
    rw [detach_quiet he] at hsent
    have hnil : frames = [] := List.self_eq_append_right.mp hsent
    refine Or.inr fun k hk hon => ?_
    have hmem := hframes k hk hon
    rw [hnil] at hmem
    exact absurd hmem (by simp)
  · exact Or.inl he

/-- **One leg, at the end.** The motors of a leg that the request reaches are off, unless its
thread takes a queue that asks for them to be on. -/
lemma detach_off {u : LegUnit} {p : LegPower.Power} (h : Refines u.st p) (hr : Reaches u)
    (hq : ¬ EnableQueued u) {bg : Background} (hd : u.Drained bg) :
    AllPower (u.detach bg).st false := by
  obtain ⟨l, m, hrefines, hclear, hl, hm, -⟩ := detach_power h bg
  intro k hk
  have hids : u.leg.ids ≠ [] := by
    change k ∈ (u.detach bg).leg.ids at hk
    rw [detach_ids] at hk
    exact List.ne_nil_of_mem hk
  have hlast : lastAsk (l ++ .disable :: m) = some false := by
    have hask : (l ++ .disable :: m).filterMap PowerOp.ask =
        l.filterMap PowerOp.ask ++ false :: m.filterMap PowerOp.ask := by
      simp [PowerOp.ask]
    unfold lastAsk
    rw [hask]
    rcases hn : m.filterMap PowerOp.ask with _ | ⟨b, rest⟩
    · simp
    · -- the thread took messages after the request, and so it took all of them
      have hall : processes bg.before + processes bg.after ≠ 0 := by
        intro hzero
        have hnone : processes bg.after = 0 := by omega
        rw [hm, hnone] at hn
        simp at hn
      have hlen := hd.resolve_left hall
      have htake : (u.send_queue_.drop (processes bg.before)).take (processes bg.after) =
          u.send_queue_.drop (processes bg.before) :=
        List.take_of_length_le (by rw [List.length_drop]; omega)
      rw [htake] at hm
      have hqueue : u.send_queue_.filterMap askOf =
          l.filterMap PowerOp.ask ++ (b :: rest) := by
        rw [← hn, hl, hm, ← List.filterMap_append, List.take_append_drop]
      have hne : queueAsk u ≠ some true := fun he => hq ⟨he, hids⟩
      unfold queueAsk at hne
      rw [hqueue] at hne
      have hsame : (l.filterMap PowerOp.ask ++ false :: b :: rest).getLast? =
          (l.filterMap PowerOp.ask ++ b :: rest).getLast? := by
        simp [List.getLast?_append, List.getLast?_cons]
      rw [hsame]
      rcases hlast : (l.filterMap PowerOp.ask ++ b :: rest).getLast? with _ | c
      · simp at hlast
      · rw [hlast] at hne
        cases c with
        | false => rfl
        | true => exact absurd rfl hne
  have hsettled := LegPower.settled_of_lastAsk (answerable_of_reaches h hr hids) hclear hlast
  rw [hrefines.power k hk, hsettled.on]

/-- The thread takes the whole queue after the request. -/
def takeAll (u : LegUnit) : Background := { after := List.replicate u.send_queue_.length .process }

lemma processes_replicate (n : ℕ) : processes (List.replicate n .process) = n := by
  induction n with
  | zero => rfl
  | succ n ih => simp [List.replicate_succ, processes, ih]

lemma drained_takeAll (u : LegUnit) : u.Drained (takeAll u) := by
  refine Or.inr ?_
  simp [takeAll, processes_replicate]

lemma not_enableQueued_of_off {u : LegUnit} {p : LegPower.Power} (h : Refines u.st p)
    (hoff : AllPower (u.detach (takeAll u)).st false) : ¬ EnableQueued u := by
  rintro ⟨hask, hids⟩
  obtain ⟨l, m, hrefines, -, hl, hm, hall⟩ := detach_power h (takeAll u)
  have hasks := hall fun c hc => by simp [takeAll] at hc
  have hnil : l = [] := by
    cases l with
    | nil => rfl
    | cons op l =>
      have hop := hasks op (by simp)
      rcases ha : op.ask with _ | b
      · exact absurd ha hop
      · simp [takeAll, processes, ha] at hl
  subst hnil
  have hlast : lastAsk m = some true := by
    have htake : processes (takeAll u).after = u.send_queue_.length := processes_replicate _
    have hdrop : processes (takeAll u).before = 0 := rfl
    unfold lastAsk
    rw [hm, htake, hdrop, List.drop_zero, List.take_length]
    exact hask
  have hcleared : (LegPower.step p .disable).isEnabled = false := by
    by_cases he : p.isEnabled <;> simp [LegPower.step, he]
  have hon := LegPower.on_of_lastAsk hcleared (fun op hop => hasks op (by simp [hop])) hlast
  obtain ⟨k, hk⟩ := List.exists_mem_of_ne_nil _ hids
  have hk' : k ∈ (u.detach (takeAll u)).leg.ids := by
    rw [detach_ids]
    exact hk
  have hpower := hrefines.power k hk'
  change lastPower _ k = some (run LegPower.step (LegPower.step p .disable) m).on at hpower
  rw [hoff k hk', hon] at hpower
  simp at hpower

lemma threads_idle {u : LegUnit} (h : u.Idle) (ops : List ThreadOp) :
    (u.threads ops).st.sent = u.st.sent ∧ (u.threads ops).leg.ids = u.leg.ids := by
  induction ops generalizing u with
  | nil => exact ⟨rfl, rfl⟩
  | cons op ops ih =>
    have hstep : (u.step op.unitOp).Idle ∧ (u.step op.unitOp).st.sent = u.st.sent ∧
        (u.step op.unitOp).leg.ids = u.leg.ids := by
      cases op with
      | process =>
        have hsame : u.step .process = u := by simp [LegUnit.step, h.queue]
        change (u.step .process).Idle ∧ (u.step .process).st.sent = _ ∧
          (u.step .process).leg.ids = _
        rw [hsame]
        exact ⟨h, rfl, rfl⟩
      | cycle c =>
        refine ⟨Process.idle_controllerPeriodic h c, ?_, step_ids u.st (.controllerPeriodic c)⟩
        have hattached : u.st.leg.attached = false := h.attached
        change u.st.sent ++ (u.st.leg.controllerPeriodic c).1.2 = _
        simp [Legged.controllerPeriodic, hattached]
    obtain ⟨hidle, hsent, hids⟩ := hstep
    obtain ⟨hsent', hids'⟩ := ih hidle
    exact ⟨hsent'.trans hsent, hids'.trans hids⟩

/-! ### The destruction of the robot -/

/-- The destruction sends, on the open sockets, a disable frame to every motor whose last frame
that switched it was an enable frame. -/
def DisablesAll (r : Robot) (bg : Side → Background) : Prop :=
  ∀ s, DisablesOn (r.leg s) ((r.destroy bg).leg s)

/-- No motor is left on. -/
def LeavesOff (r : Robot) (bg : Side → Background) : Prop :=
  ∀ s, AllPower ((r.destroy bg).leg s).st false

def AllDrained (r : Robot) (bg : Side → Background) : Prop := ∀ s, (r.leg s).Drained (bg s)

/-- What is known of the legs of a robot that a process has reached. -/
structure Known (r : Robot) : Prop where
  refines : ∀ s, ∃ p, Refines (r.leg s).st p
  idle : r.m_shm = none → ∀ s, (r.leg s).Idle

lemma disablesAll_iff {r : Robot} (h : Known r) :
    (∀ bg, AllDrained r bg → DisablesAll r bg) ↔ ∀ s, Reaches (r.leg s) := by
  rcases hs : r.m_shm with _ | shm
  · have hsent : ∀ bg s, ((r.destroy bg).leg s).st.sent = (r.leg s).st.sent := by
      intro bg s
      rw [Robot.leg_destroy, hs]
      exact (threads_idle (h.idle hs s) _).1
    refine ⟨fun hall s => ?_, fun hall bg _ s => ⟨[], by rw [hsent, List.append_nil], ?_⟩⟩
    · obtain ⟨frames, hframes, hmem⟩ := hall (fun _ => {}) (fun _ => Or.inl rfl) s
      rw [hsent] at hframes
      have hnil : frames = [] := List.self_eq_append_right.mp hframes
      refine Or.inr fun k hk hon => ?_
      have hfalse := hmem k hk hon
      rw [hnil] at hfalse
      exact absurd hfalse (by simp)
    · intro k hk hon
      rcases hall s with he | hoff
      · rw [(h.idle hs s).isEnabled] at he
        exact absurd he Bool.false_ne_true
      · exact absurd hon (hoff k hk)
  · have hleg : ∀ bg s, (r.destroy bg).leg s = (r.leg s).detach (bg s) := by
      intro bg s
      rw [Robot.leg_destroy, hs, Option.isSome_some, if_pos rfl]
    refine ⟨fun hall s => ?_, fun hall bg _ s => ?_⟩
    · have hdetach := hall (fun _ => {}) (fun _ => Or.inl rfl) s
      rw [hleg] at hdetach
      exact reaches_of_disablesOn hdetach
    · rw [hleg]
      exact disablesOn_of_reaches (hall s) (bg s)

/-- Where a leg sends nothing, its motors end off exactly if none is on. -/
lemma allPower_iff_of_sent_eq {u u' : LegUnit} {p : LegPower.Power} (h : Refines u.st p)
    (hsent : u'.st.sent = u.st.sent) (hids : u'.leg.ids = u.leg.ids) :
    AllPower u'.st false ↔ ∀ k ∈ u.leg.ids, lastPower u.st k ≠ some true := by
  have hlast : ∀ k, lastPower u'.st k = lastPower u.st k := by
    intro k
    unfold lastPower
    rw [hsent]
  change (∀ k ∈ u'.leg.ids, lastPower u'.st k = some false) ↔ _
  simp only [hids, hlast]
  refine forall₂_congr fun k hk => ?_
  have hpower : lastPower u.st k = some p.on := h.power k hk
  rw [hpower]
  rcases p.on with _ | _ <;> simp

lemma leavesOff_iff {r : Robot} (h : Known r) :
    (∀ bg, AllDrained r bg → LeavesOff r bg) ↔
      ∀ s, Reaches (r.leg s) ∧ ¬ EnableQueued (r.leg s) := by
  rcases hs : r.m_shm with _ | shm
  · have hiff : ∀ bg s, AllPower ((r.destroy bg).leg s).st false ↔
        ∀ k ∈ (r.leg s).leg.ids, lastPower (r.leg s).st k ≠ some true := by
      intro bg s
      obtain ⟨p, hp⟩ := h.refines s
      obtain ⟨hsent, hids⟩ := threads_idle (h.idle hs s) (bg s).before
      rw [Robot.leg_destroy, hs]
      exact allPower_iff_of_sent_eq hp hsent hids
    refine ⟨fun hall s => ⟨Or.inr ?_, fun hq => ?_⟩, fun hall bg _ s => ?_⟩
    · exact (hiff (fun _ => {}) s).mp (hall (fun _ => {}) (fun _ => Or.inl rfl) s)
    · have hask := hq.1
      unfold queueAsk at hask
      rw [(h.idle hs s).queue] at hask
      simp at hask
    · rcases (hall s).1 with he | hoff
      · rw [(h.idle hs s).isEnabled] at he
        exact absurd he Bool.false_ne_true
      · exact (hiff bg s).mpr hoff
  · have hleg : ∀ bg s, (r.destroy bg).leg s = (r.leg s).detach (bg s) := by
      intro bg s
      rw [Robot.leg_destroy, hs, Option.isSome_some, if_pos rfl]
    refine ⟨fun hall s => ⟨?_, ?_⟩, fun hall bg hd s => ?_⟩
    · rcases he : (r.leg s).leg.isEnabled with _ | _
      · have hoff := hall (fun _ => {}) (fun _ => Or.inl rfl) s
        obtain ⟨p, hp⟩ := h.refines s
        rw [hleg] at hoff
        exact Or.inr ((allPower_iff_of_sent_eq hp (detach_quiet he) (detach_ids _ {})).mp hoff)
      · exact Or.inl he
    · obtain ⟨p, hp⟩ := h.refines s
      have hoff := hall (fun t => takeAll (r.leg t)) (fun t => drained_takeAll (r.leg t)) s
      rw [hleg] at hoff
      exact not_enableQueued_of_off hp hoff
    · obtain ⟨p, hp⟩ := h.refines s
      obtain ⟨hr, hq⟩ := hall s
      rw [hleg]
      exact detach_off hp hr hq (hd s)

/-- **Destruction.** From every state that a process reaches, whatever the threads of the legs
do meanwhile, the destruction of the robot sends a disable frame to every motor that was last
switched on exactly when every leg is enabled or has no such motor; and it leaves every motor
off exactly when besides no queue ends by asking for motors to be on. -/
theorem destroy_iff (signed : Bool) (leftBase rightBase motorsPerLeg : ℕ) (l : List RobotOp) :
    let r := (run (Process.step signed) (.start leftBase rightBase motorsPerLeg) l).robot
    ((∀ bg, AllDrained r bg → DisablesAll r bg) ↔ ∀ s, Reaches (r.leg s)) ∧
    ((∀ bg, AllDrained r bg → LeavesOff r bg) ↔
      ∀ s, Reaches (r.leg s) ∧ ¬ EnableQueued (r.leg s)) := by
  intro r
  have hknown : Known r := by
    refine ⟨fun s => ?_, Process.idle_run leftBase rightBase motorsPerLeg l⟩
    obtain ⟨p, -, hp⟩ := Process.leg_refines leftBase rightBase motorsPerLeg l s
    exact ⟨p, hp⟩
  exact ⟨disablesAll_iff hknown, leavesOff_iff hknown⟩

/-- A robot that ends before a mode change leaves its motors as their constructors switched them:
where the segment could not be created, and where the main loop has not started. -/
theorem destroy_before_enable :
    ¬ (∀ bg, AllDrained (Process.start 1 7 6).robot bg →
      DisablesAll (Process.start 1 7 6).robot bg) ∧
    ¬ (∀ bg, AllDrained (run (Process.step false) (.start 1 7 6) [.robotInit]).robot bg →
      DisablesAll (run (Process.step false) (.start 1 7 6) [.robotInit]).robot bg) := by
  refine ⟨fun h => ?_, fun h => ?_⟩
  · obtain ⟨frames, hsent, hframes⟩ := h (fun _ => {}) (fun _ => Or.inl rfl) .left
    have hnil : frames = [] := List.self_eq_append_right.mp hsent
    have hmem := hframes 1 (by decide) (by decide)
    rw [hnil] at hmem
    exact absurd hmem (by simp)
  · obtain ⟨frames, hsent, hframes⟩ := h (fun _ => {}) (fun _ => Or.inl rfl) .left
    have hnil : frames = [] := List.self_eq_append_right.mp hsent
    have hmem := hframes 1 (by decide) (by decide)
    rw [hnil] at hmem
    exact absurd hmem (by simp)

end Shutdown

end Kuavo
