import Kuavo.LegRun

/-!
A leg between two threads.

The main thread calls `setEnable` for mode changes and stale motors, while the leg's own
thread runs cycles and processes messages. Here both move in single operations on the flag
and the latch and single motor frames, in any order. Run alone, the operations are the whole
ones of `Kuavo.Legged`.

The latch speaks for the motors as long as the main thread switches none of them on after
the leg's thread has switched it off for a fault.
-/

namespace Kuavo.LegThreads

open Kuavo.Lib.LastSent Kuavo.Lib.Runs Kuavo.LegRun Kuavo.MercuryShm

/-- How far a call of `setEnable` has come. -/
inductive CallPc
  | idle
  | loadEnabled (_enable : Bool)
  | clearLatch
  /-- The motors still to enable, and then the store of the flag. -/
  | sendEnable (rest : List ℕ)
  | sendDisable (rest : List ℕ)
  deriving DecidableEq

/-- How far the leg's thread has come with a message or a cycle. A cycle to go on with is
carried along through `disableAllMotorsOnce`. -/
inductive LegPc
  | idle
  | call (p : CallPc)
  | compareExchange (next : Option Cycle)
  | faultDisable (rest : List ℕ) (next : Option Cycle)
  | loadEnabled (c : Cycle)
  | dispatch (rest : List (ℕ × MITParam)) (c : Cycle)
  | observe (c : Cycle)

structure Threads where
  leg : Legged
  sent : Frames
  main : CallPc := .idle
  legPc : LegPc := .idle

inductive Input
  /-- The main thread calls `setEnable`. -/
  | mainCall (_enable : Bool)
  | mainStep
  | setShmPointers (shm staging : Bool)
  /-- The leg's thread takes a message, or starts a cycle. -/
  | legMessage (message : MESSAGE)
  | legCycle (c : Cycle)
  | legStep

/-! ### One operation of a thread -/

def callStep (l : Legged) : CallPc → Legged × Frames × CallPc
  | .idle => (l, [], .idle)
  | .loadEnabled true => (l, [], if l.isEnabled then .idle else .clearLatch)
  | .loadEnabled false => (l, [], if l.isEnabled then .sendDisable l.ids else .idle)
  | .clearLatch =>
    ({ l with
        m_motorsFaultDisabled := false
        m_motorResponsive := l.m_motorResponsive.map fun _ => false },
      [], .sendEnable l.ids)
  | .sendEnable [] => (l.enable, [], .idle)
  | .sendEnable (k :: rest) => (l, [(k, .enableMotor)], .sendEnable rest)
  | .sendDisable [] => (l.disable, [], .idle)
  | .sendDisable (k :: rest) => (l, [(k, .disableMotor)], .sendDisable rest)

/-- The call a message makes. -/
def messagePc (message : MESSAGE) : CallPc :=
  if message.type = MSG_ENABLE_SUBSYSTEM then .loadEnabled true
  else if message.type = MSG_DISABLE_SUBSYSTEM then .loadEnabled false
  else if message.type = MSG_EMERGENCY_STOP then .loadEnabled false
  else .idle

/-- A call on the leg's thread is over when the call is. -/
def LegPc.ofCall : CallPc → LegPc
  | .idle => .idle
  | p => .call p

/-- What follows `disableAllMotorsOnce`. -/
def LegPc.afterFault : Option Cycle → LegPc
  | none => .idle
  | some c => .observe c

def cyclePc (l : Legged) (c : Cycle) : LegPc :=
  if l.attached then
    match Legged.shmFault c.shm with
    | some _ => .compareExchange none
    | none => .loadEnabled c
  else .idle

def legStep (l : Legged) : LegPc → Legged × Frames × LegPc
  | .idle => (l, [], .idle)
  | .call p => ((callStep l p).1, (callStep l p).2.1, .ofCall (callStep l p).2.2)
  | .compareExchange next =>
    if l.m_motorsFaultDisabled then (l, [], .afterFault next)
    else ({ l with m_motorsFaultDisabled := true }, [], .faultDisable l.ids next)
  | .faultDisable [] next => (l, [], .afterFault next)
  | .faultDisable (k :: rest) next => (l, [(k, .disableMotor)], .faultDisable rest next)
  | .loadEnabled c =>
    if l.isEnabled then
      match c.shm.currentCommand? with
      | none => (l, [], .compareExchange (some c))
      | some cmd =>
        (l, [], .dispatch (if Legged.commandStale cmd c.cp_start then [] else l.mitParams cmd) c)
    else (l, [], .observe c)
  | .dispatch [] c => (l, [], .observe c)
  | .dispatch ((k, mit) :: rest) c => (l, [(k, .setMitControl mit)], .dispatch rest c)
  | .observe c => ((l.observe c).1, [], .idle)

def step (st : Threads) : Input → Threads
  | .mainCall b => if st.main = .idle then { st with main := .loadEnabled b } else st
  | .mainStep =>
    { st with
      leg := (callStep st.leg st.main).1
      sent := st.sent ++ (callStep st.leg st.main).2.1
      main := (callStep st.leg st.main).2.2 }
  | .setShmPointers shm staging =>
    if st.main = .idle then { st with leg := (st.leg.setShmPointers shm staging).1 } else st
  | .legMessage message =>
    match st.legPc with
    | .idle => { st with legPc := .ofCall (messagePc message) }
    | _ => st
  | .legCycle c =>
    match st.legPc with
    | .idle => { st with legPc := cyclePc st.leg c }
    | _ => st
  | .legStep =>
    { st with
      leg := (legStep st.leg st.legPc).1
      sent := st.sent ++ (legStep st.leg st.legPc).2.1
      legPc := (legStep st.leg st.legPc).2.2 }

def start (baseId motorsPerLeg : ℕ) : Threads where
  leg := (Legged.construct baseId motorsPerLeg).1
  sent := (Legged.construct baseId motorsPerLeg).2

/-- Nothing is in progress. -/
def Quiescent (st : Threads) : Prop := st.main = .idle ∧ st.legPc = .idle

/-! ### Run alone, a call is `setEnable` -/

lemma mainStep_eq (st : Threads) :
    step st .mainStep = { st with
      leg := (callStep st.leg st.main).1
      sent := st.sent ++ (callStep st.leg st.main).2.1
      main := (callStep st.leg st.main).2.2 } := rfl

lemma run_sendEnable (l : Legged) (sent : Frames) (rest : List ℕ) (q : LegPc) :
    run step ⟨l, sent, .sendEnable rest, q⟩ (List.replicate (rest.length + 1) .mainStep) =
      ⟨l.enable, sent ++ toAll rest .enableMotor, .idle, q⟩ := by
  induction rest generalizing sent with
  | nil => rfl
  | cons k rest ih =>
    rw [List.length_cons, List.replicate_succ, run_cons]
    have hstep : step ⟨l, sent, .sendEnable (k :: rest), q⟩ .mainStep =
        ⟨l, sent ++ [(k, .enableMotor)], .sendEnable rest, q⟩ := rfl
    rw [hstep, ih]
    simp [toAll]

lemma run_sendDisable (l : Legged) (sent : Frames) (rest : List ℕ) (q : LegPc) :
    run step ⟨l, sent, .sendDisable rest, q⟩ (List.replicate (rest.length + 1) .mainStep) =
      ⟨l.disable, sent ++ toAll rest .disableMotor, .idle, q⟩ := by
  induction rest generalizing sent with
  | nil => rfl
  | cons k rest ih =>
    rw [List.length_cons, List.replicate_succ, run_cons]
    have hstep : step ⟨l, sent, .sendDisable (k :: rest), q⟩ .mainStep =
        ⟨l, sent ++ [(k, .disableMotor)], .sendDisable rest, q⟩ := rfl
    rw [hstep, ih]
    simp [toAll]

/-- **Agreement.** A call that no other thread interrupts is the whole `setEnable`. -/
theorem call_alone (l : Legged) (sent : Frames) (b : Bool) (q : LegPc) :
    ∃ n, run step ⟨l, sent, .idle, q⟩ (.mainCall b :: List.replicate n .mainStep) =
      ⟨(l.setEnable b).1, sent ++ (l.setEnable b).2, .idle, q⟩ := by
  have hcall : step ⟨l, sent, .idle, q⟩ (.mainCall b) = ⟨l, sent, .loadEnabled b, q⟩ := rfl
  unfold Legged.setEnable
  rcases he : l.isEnabled with _ | _
  · cases b with
    | false =>
      refine ⟨1, ?_⟩
      rw [run_cons, hcall, List.replicate_one, run_cons, run_nil, mainStep_eq]
      simp [callStep, he]
    | true =>
      refine ⟨l.ids.length + 1 + 1 + 1, ?_⟩
      have hload : step ⟨l, sent, .loadEnabled true, q⟩ .mainStep = ⟨l, sent, .clearLatch, q⟩ := by
        simp [mainStep_eq, callStep, he]
      rw [run_cons, hcall, List.replicate_succ, run_cons, hload, List.replicate_succ, run_cons]
      have hclear : step ⟨l, sent, .clearLatch, q⟩ .mainStep =
          ⟨(callStep l .clearLatch).1, sent, .sendEnable l.ids, q⟩ := by
        simp [mainStep_eq, callStep]
      rw [hclear, run_sendEnable]
      simp [callStep, Legged.ids]
  · cases b with
    | false =>
      refine ⟨l.ids.length + 1 + 1, ?_⟩
      have hload : step ⟨l, sent, .loadEnabled false, q⟩ .mainStep =
          ⟨l, sent, .sendDisable l.ids, q⟩ := by
        simp [mainStep_eq, callStep, he]
      rw [run_cons, hcall, List.replicate_succ, run_cons, hload, run_sendDisable]
      simp
    | true =>
      refine ⟨1, ?_⟩
      rw [run_cons, hcall, List.replicate_one, run_cons, run_nil, mainStep_eq]
      simp [callStep, he]

/-- The leg's thread gets from one state to another without the main thread. -/
def LegReaches (st t : Threads) : Prop := ∃ n, run step st (List.replicate n .legStep) = t

lemma LegReaches.refl (st : Threads) : LegReaches st st := ⟨0, rfl⟩

lemma LegReaches.head {st t : Threads} (h : LegReaches (step st .legStep) t) : LegReaches st t := by
  obtain ⟨n, hn⟩ := h
  exact ⟨n + 1, hn⟩

lemma legReaches_afterFault (l : Legged) (sent : Frames) (m : CallPc) (next : Option Cycle) :
    LegReaches ⟨l, sent, m, .afterFault next⟩
      ⟨next.elim l fun c => (l.observe c).1, sent, m, .idle⟩ := by
  cases next with
  | none => exact LegReaches.refl _
  | some c =>
    refine LegReaches.head ?_
    change LegReaches ⟨(l.observe c).1, sent ++ [], m, .idle⟩ _
    rw [List.append_nil]
    exact LegReaches.refl _

lemma legReaches_faultDisable (l : Legged) (sent : Frames) (m : CallPc) (rest : List ℕ)
    (next : Option Cycle) :
    LegReaches ⟨l, sent, m, .faultDisable rest next⟩
      ⟨next.elim l fun c => (l.observe c).1, sent ++ toAll rest .disableMotor, m, .idle⟩ := by
  induction rest generalizing sent with
  | nil =>
    refine LegReaches.head ?_
    change LegReaches ⟨l, sent ++ [], m, .afterFault next⟩ _
    rw [toAll_nil, List.append_nil]
    exact legReaches_afterFault l sent m next
  | cons k rest ih =>
    refine LegReaches.head ?_
    change LegReaches ⟨l, sent ++ [(k, .disableMotor)], m, .faultDisable rest next⟩ _
    have happend : sent ++ toAll (k :: rest) MotorCmd.disableMotor =
        sent ++ [(k, MotorCmd.disableMotor)] ++ toAll rest MotorCmd.disableMotor := by
      simp [toAll]
    rw [happend]
    exact ih _

/-- `disableAllMotorsOnce` in single operations. -/
lemma legReaches_compareExchange (l : Legged) (sent : Frames) (m : CallPc) (next : Option Cycle)
    (reason : DisableReason) :
    LegReaches ⟨l, sent, m, .compareExchange next⟩
      ⟨next.elim (l.disableAllMotorsOnce reason).1
          fun c => ((l.disableAllMotorsOnce reason).1.observe c).1,
        sent ++ (l.disableAllMotorsOnce reason).2, m, .idle⟩ := by
  refine LegReaches.head ?_
  unfold Legged.disableAllMotorsOnce
  rcases hl : l.m_motorsFaultDisabled with _ | _
  · have hstep : step ⟨l, sent, m, .compareExchange next⟩ .legStep =
        ⟨{ l with m_motorsFaultDisabled := true }, sent, m, .faultDisable l.ids next⟩ := by
      simp [step, legStep, hl]
    rw [hstep]
    exact legReaches_faultDisable _ sent m l.ids next
  · have hstep : step ⟨l, sent, m, .compareExchange next⟩ .legStep =
        ⟨l, sent, m, .afterFault next⟩ := by
      simp [step, legStep, hl]
    rw [hstep]
    simp only [if_true, List.append_nil]
    exact legReaches_afterFault l sent m next

lemma legReaches_dispatch (l : Legged) (sent : Frames) (m : CallPc) (rest : List (ℕ × MITParam))
    (c : Cycle) :
    LegReaches ⟨l, sent, m, .dispatch rest c⟩
      ⟨(l.observe c).1, sent ++ rest.map fun (id, mit) => (id, .setMitControl mit), m, .idle⟩ := by
  induction rest generalizing sent with
  | nil =>
    refine LegReaches.head (LegReaches.head ?_)
    change LegReaches ⟨(l.observe c).1, sent ++ [] ++ [], m, .idle⟩ _
    rw [List.map_nil, List.append_nil]
    exact LegReaches.refl _
  | cons e rest ih =>
    obtain ⟨k, mit⟩ := e
    refine LegReaches.head ?_
    change LegReaches ⟨l, sent ++ [(k, .setMitControl mit)], m, .dispatch rest c⟩ _
    have hnext := ih (sent ++ [(k, .setMitControl mit)])
    rw [List.append_assoc] at hnext
    exact hnext

/-- **Agreement.** A cycle that the main thread does not interrupt is the whole
`controllerPeriodic`. -/
theorem cycle_alone (l : Legged) (sent : Frames) (m : CallPc) (c : Cycle) :
    LegReaches (step ⟨l, sent, m, .idle⟩ (.legCycle c))
      ⟨(l.controllerPeriodic c).1.1, sent ++ (l.controllerPeriodic c).1.2, m, .idle⟩ := by
  change LegReaches ⟨l, sent, m, cyclePc l c⟩ _
  unfold cyclePc Legged.controllerPeriodic
  rcases ha : l.attached with _ | _
  · simp only [Bool.false_eq_true, if_false, List.append_nil]
    exact LegReaches.refl _
  · simp only [if_true]
    rcases hf : Legged.shmFault c.shm with _ | reason
    · refine LegReaches.head ?_
      unfold Legged.actuate
      rcases he : l.isEnabled with _ | _
      · have hstep : step ⟨l, sent, m, .loadEnabled c⟩ .legStep = ⟨l, sent, m, .observe c⟩ := by
          simp [step, legStep, he]
        simp only [hstep, Bool.false_eq_true, if_false, List.append_nil]
        exact legReaches_afterFault l sent m (some c)
      · rcases hcmd : c.shm.currentCommand? with _ | cmd
        · have hstep : step ⟨l, sent, m, .loadEnabled c⟩ .legStep =
              ⟨l, sent, m, .compareExchange (some c)⟩ := by
            simp [step, legStep, he, hcmd]
          simp only [hstep, if_true]
          exact legReaches_compareExchange l sent m (some c) .CMD_WRITE_IDX_INVALID
        · have hstep : step ⟨l, sent, m, .loadEnabled c⟩ .legStep = ⟨l, sent, m, .dispatch
              (if Legged.commandStale cmd c.cp_start then [] else l.mitParams cmd) c⟩ := by
            simp [step, legStep, he, hcmd]
          simp only [hstep, if_true]
          have hreach := legReaches_dispatch l sent m
            (if Legged.commandStale cmd c.cp_start then [] else l.mitParams cmd) c
          rcases hs : Legged.commandStale cmd c.cp_start with _ | _ <;> rw [hs] at hreach <;>
            exact hreach
    · exact legReaches_compareExchange l sent m none reason

/-! ### The latch and the motors -/

/-- The motors that the leg's thread has still to disable before it is done, or all of them
where it is about to clear the latch. At the load of the flag in `setEnable(false)` it has them
all to disable if the flag is set. -/
def LegPc.pending (l : Legged) : LegPc → List ℕ
  | .faultDisable rest _ => rest
  | .call (.loadEnabled false) => if l.isEnabled then l.ids else []
  | .call (.sendDisable rest) => rest
  | .call .clearLatch => l.ids
  | _ => []

/-- A set latch means disabled motors, but for those that are pending; the leg's thread enables
motors only while the latch is clear; and a flag that the leg's thread still counts on is taken
away only with the motors. -/
structure Inv (st : Threads) : Prop where
  latched : st.leg.m_motorsFaultDisabled = true → ∀ k ∈ st.leg.ids,
    last MotorCmd.power st.sent k = some false ∨ k ∈ st.legPc.pending st.leg
  enabling : ∀ rest, st.legPc = .call (.sendEnable rest) → st.leg.m_motorsFaultDisabled = false
  disabling : st.leg.m_motorsFaultDisabled = true → st.legPc = .call (.loadEnabled false) →
    ∀ rest, st.main = .sendDisable rest → ∀ k ∈ st.leg.ids,
      last MotorCmd.power st.sent k = some false ∨ k ∈ rest

/-- The motor whose enable frame a call sends next. -/
def CallPc.enables : CallPc → Option ℕ
  | .sendEnable rest => rest.head?
  | _ => none

/-- Where the main thread sends an enable frame, the latch is clear, or the leg's thread has
that motor's disable frame or the clearing of the latch still ahead. -/
def EnablesInTime (st : Threads) : Input → Prop
  | .mainStep => ∀ k ∈ st.main.enables,
      st.leg.m_motorsFaultDisabled = false ∨ k ∈ st.legPc.pending st.leg
  | _ => True

instance (st : Threads) : (i : Input) → Decidable (EnablesInTime st i)
  | .mainStep => inferInstanceAs (Decidable (∀ k ∈ st.main.enables,
      st.leg.m_motorsFaultDisabled = false ∨ k ∈ st.legPc.pending st.leg))
  | .mainCall _ | .setShmPointers _ _ | .legMessage _ | .legCycle _ | .legStep => isTrue trivial

lemma ofCall_sendEnable {p : CallPc} {rest : List ℕ}
    (h : LegPc.ofCall p = .call (.sendEnable rest)) : p = .sendEnable rest := by
  cases p <;> simp_all [LegPc.ofCall]

lemma power_disable (sent : Frames) (k j : ℕ) :
    last MotorCmd.power (sent ++ [(j, MotorCmd.disableMotor)]) k =
      if j = k then some false else last MotorCmd.power sent k := by
  rw [last_append]
  by_cases h : j = k <;> simp [last, h, MotorCmd.power]

lemma power_enable_ne (sent : Frames) {k j : ℕ} (h : j ≠ k) :
    last MotorCmd.power (sent ++ [(j, MotorCmd.enableMotor)]) k =
      last MotorCmd.power sent k := by
  rw [last_append]
  simp [last, h]

/-- A step after which the latch is clear. -/
lemma inv_of_clear {st : Threads} (hl : st.leg.m_motorsFaultDisabled = false) : Inv st := by
  refine ⟨fun h => ?_, fun _ _ => hl, fun h => ?_⟩
  · exact absurd (hl.symm.trans h) Bool.false_ne_true
  · exact absurd (hl.symm.trans h) Bool.false_ne_true

/-- A leg whose flag is not taken away has as many motors pending as before. -/
lemma pending_mono {l l' : Legged} (hids : l'.ids = l.ids)
    (hflag : l.isEnabled = true → l'.isEnabled = true) {q : LegPc} {k : ℕ}
    (h : k ∈ q.pending l) : k ∈ q.pending l' := by
  unfold LegPc.pending at h ⊢
  split at h
  · exact h
  · split_ifs at h with he
    · rw [if_pos (hflag he), hids]
      exact h
    · simp at h
  · exact h
  · rw [hids]
    exact h
  · simp at h

/-- A step of the main thread that no motor notices, that takes no flag away, and after which it
is not about to. -/
lemma inv_mainQuiet {st : Threads} (h : Inv st) {l : Legged} {p : CallPc}
    (hids : l.ids = st.leg.ids) (hl : l.m_motorsFaultDisabled = st.leg.m_motorsFaultDisabled)
    (hflag : st.leg.isEnabled = true → l.isEnabled = true)
    (hp : ∀ rest, p = .sendDisable rest → rest = l.ids) :
    Inv { st with leg := l, main := p } := by
  refine ⟨fun hlatch k hk => ?_, fun rest hrest => ?_, fun _ _ rest hrest k hk => ?_⟩
  · rcases h.latched (hl ▸ hlatch) k (hids ▸ hk) with hoff | hpend
    · exact Or.inl hoff
    · exact Or.inr (pending_mono hids hflag hpend)
  · exact hl.trans (h.enabling rest hrest)
  · exact Or.inr (hp rest hrest ▸ hk)

/-- An enable frame of the main thread: the condition answers for its motor. -/
lemma inv_mainEnable {st : Threads} (h : Inv st) {k : ℕ} {rest : List ℕ}
    (hcond : st.leg.m_motorsFaultDisabled = false ∨ k ∈ st.legPc.pending st.leg) :
    Inv { st with sent := st.sent ++ [(k, .enableMotor)], main := .sendEnable rest } := by
  refine ⟨fun hlatch j hj => ?_, h.enabling, fun _ _ rest hrest => by simp at hrest⟩
  by_cases hkj : k = j
  · subst hkj
    rcases hcond with hclear | hpend
    · exact absurd (hclear.symm.trans hlatch) Bool.false_ne_true
    · exact Or.inr hpend
  · have hlast := power_enable_ne st.sent hkj
    rcases h.latched hlatch j hj with hoff | hpend
    · exact Or.inl (hlast.trans hoff)
    · exact Or.inr hpend

/-- A motor that is off stays off under a disable frame. -/
lemma off_disable {sent : Frames} {k j : ℕ} (h : last MotorCmd.power sent k = some false) :
    last MotorCmd.power (sent ++ [(j, MotorCmd.disableMotor)]) k = some false := by
  rw [power_disable]
  split_ifs
  · rfl
  · exact h

/-- A disable frame of the main thread. -/
lemma inv_mainDisable {st : Threads} (h : Inv st) {k : ℕ} {rest : List ℕ}
    (hp : st.main = .sendDisable (k :: rest)) :
    Inv { st with sent := st.sent ++ [(k, .disableMotor)], main := .sendDisable rest } := by
  refine ⟨fun hlatch j hj => ?_, h.enabling, fun hlatch hpc rest' hrest j hj => ?_⟩
  · rcases h.latched hlatch j hj with hoff | hpend
    · exact Or.inl (off_disable hoff)
    · exact Or.inr hpend
  · obtain rfl := CallPc.sendDisable.inj hrest
    rcases h.disabling hlatch hpc _ hp j hj with hoff | hmem
    · exact Or.inl (off_disable hoff)
    · rcases List.mem_cons.mp hmem with rfl | hmem
      · exact Or.inl ((power_disable st.sent j j).trans (if_pos rfl))
      · exact Or.inr hmem

/-- The main thread has disabled all motors and takes the flag away. -/
lemma inv_mainDisabled {st : Threads} (h : Inv st) (hp : st.main = .sendDisable []) :
    Inv { st with leg := st.leg.disable, main := .idle } := by
  refine ⟨fun hlatch j hj => ?_, h.enabling, fun _ _ rest hrest => by simp at hrest⟩
  rcases h.latched hlatch j hj with hoff | hpend
  · exact Or.inl hoff
  · rcases hpc : st.legPc with _ | p | _ | _ | _ | _ | _
    case call =>
      cases p with
      | loadEnabled b =>
        cases b with
        | true => simp [hpc, LegPc.pending] at hpend
        | false =>
          -- the leg's thread counts on the flag, but the frames have been sent
          have hall := h.disabling hlatch hpc [] hp j hj
          exact Or.inl (by simpa using hall)
      | idle | sendEnable _ => simp [hpc, LegPc.pending] at hpend
      | clearLatch | sendDisable _ =>
        rw [hpc] at hpend
        exact Or.inr hpend
    case faultDisable =>
      rw [hpc] at hpend
      exact Or.inr hpend
    all_goals simp [hpc, LegPc.pending] at hpend

lemma inv_mainStep {st : Threads} (h : Inv st) (hcond : EnablesInTime st .mainStep) :
    Inv (step st .mainStep) := by
  obtain ⟨l, sent, main, legPc⟩ := st
  rw [mainStep_eq]
  cases main with
  | idle =>
    simp only [callStep, List.append_nil]
    exact h
  | loadEnabled b =>
    cases b <;> simp only [callStep, List.append_nil] <;>
      refine inv_mainQuiet h rfl rfl id fun rest hrest => ?_
    · split_ifs at hrest
      exact (CallPc.sendDisable.inj hrest).symm
    · split_ifs at hrest
  | clearLatch => exact inv_of_clear rfl
  | sendEnable rest =>
    cases rest with
    | nil =>
      simp only [callStep, List.append_nil]
      exact inv_mainQuiet h rfl rfl (fun _ => rfl) fun rest hrest => by simp at hrest
    | cons k rest => exact inv_mainEnable h (hcond k rfl)
  | sendDisable rest =>
    cases rest with
    | nil =>
      simp only [callStep, List.append_nil]
      exact inv_mainDisabled h rfl
    | cons k rest => exact inv_mainDisable h rfl

/-- The leg's thread is neither at the load of the flag of `setEnable(false)` nor at an enable
frame. -/
structure Elsewhere (q : LegPc) : Prop where
  sendEnable : ∀ rest, q ≠ .call (.sendEnable rest)
  loadEnabled : q ≠ .call (.loadEnabled false)

/-- A step of the leg's thread that neither moves the latch nor sends a frame that switches a
motor, and forgets no pending motor. -/
lemma inv_quiet {st : Threads} (h : Inv st) {l : Legged} {frames : Frames} {q : LegPc}
    (hids : l.ids = st.leg.ids) (hpend : ∀ k ∈ st.legPc.pending st.leg, k ∈ q.pending l)
    (hl : l.m_motorsFaultDisabled = st.leg.m_motorsFaultDisabled)
    (hf : ∀ e ∈ frames, e.2.power = none) (hq : Elsewhere q) :
    Inv ⟨l, st.sent ++ frames, st.main, q⟩ := by
  refine ⟨fun hlatch k hk => ?_, fun rest hrest => absurd hrest (hq.sendEnable rest),
    fun _ hload => absurd hload hq.loadEnabled⟩
  have hlast : last MotorCmd.power (st.sent ++ frames) k = last MotorCmd.power st.sent k :=
    last_append_of_none hf k
  rcases h.latched (hl ▸ hlatch) k (hids ▸ hk) with hoff | hin
  · exact Or.inl (hlast.trans hoff)
  · exact Or.inr (hpend k hin)

/-- A disable frame that takes its motor off the pending ones. -/
lemma inv_disableFrame {st : Threads} (h : Inv st) {k : ℕ} {rest : List ℕ} {q : LegPc}
    (hbefore : st.legPc.pending st.leg = k :: rest) (hafter : q.pending st.leg = rest)
    (hq : Elsewhere q) : Inv ⟨st.leg, st.sent ++ [(k, .disableMotor)], st.main, q⟩ := by
  refine ⟨fun hlatch j hj => ?_, fun rest hrest => absurd hrest (hq.sendEnable rest),
    fun _ hload => absurd hload hq.loadEnabled⟩
  rcases h.latched hlatch j hj with hoff | hin
  · exact Or.inl (off_disable hoff)
  · rw [hbefore] at hin
    rcases List.mem_cons.mp hin with rfl | hmem
    · exact Or.inl ((power_disable st.sent j j).trans (if_pos rfl))
    · refine Or.inr ?_
      rw [hafter]
      exact hmem

lemma elsewhere_afterFault (next : Option Cycle) : Elsewhere (.afterFault next) := by
  constructor <;> cases next <;> simp [LegPc.afterFault]

/-- A call on the leg's thread clears the latch before it enables motors. -/
lemma inv_legCall {st : Threads} (h : Inv st) {p : CallPc} (hpc : st.legPc = .call p) :
    Inv ⟨(callStep st.leg p).1, st.sent ++ (callStep st.leg p).2.1, st.main,
      .ofCall (callStep st.leg p).2.2⟩ := by
  have hnone : Elsewhere (.ofCall .idle) := by constructor <;> simp [LegPc.ofCall]
  cases p with
  | idle =>
    exact inv_quiet h rfl (by simp [hpc, LegPc.pending]) rfl (by simp [callStep]) hnone
  | loadEnabled b =>
    refine inv_quiet h (by cases b <;> rfl) (fun k hk => ?_) (by cases b <;> rfl)
      (by cases b <;> simp [callStep]) ?_
    · rw [hpc] at hk
      cases b with
      | true => simp [LegPc.pending] at hk
      | false =>
        rcases he : st.leg.isEnabled with _ | _
        · simp [LegPc.pending, he] at hk
        · simpa [LegPc.pending, he, callStep, LegPc.ofCall] using hk
    · constructor <;> cases b <;> rcases he : st.leg.isEnabled with _ | _ <;>
        simp [callStep, he, LegPc.ofCall]
  | clearLatch => exact inv_of_clear rfl
  | sendEnable rest =>
    -- the latch is clear while the leg's own thread enables
    have hclear := h.enabling rest hpc
    cases rest with
    | nil => exact inv_of_clear hclear
    | cons k rest => exact inv_of_clear hclear
  | sendDisable rest =>
    cases rest with
    | nil =>
      exact inv_quiet h rfl (by simp [hpc, LegPc.pending]) rfl (by simp [callStep]) hnone
    | cons k rest =>
      exact inv_disableFrame h (by rw [hpc]; rfl) rfl
        (by constructor <;> simp [callStep, LegPc.ofCall])

lemma inv_legStep {st : Threads} (h : Inv st) : Inv (step st .legStep) := by
  change Inv ⟨(legStep st.leg st.legPc).1, st.sent ++ (legStep st.leg st.legPc).2.1, st.main,
    (legStep st.leg st.legPc).2.2⟩
  rcases hpc : st.legPc with _ | p | next | ⟨_ | ⟨k, ks⟩, next⟩ | c | ⟨_ | ⟨g, gs⟩, c⟩ | c
  · exact inv_quiet h rfl (by simp [hpc, LegPc.pending]) rfl (by simp [legStep])
      (by constructor <;> simp [legStep])
  · exact inv_legCall h hpc
  · -- the compare-exchange: from now on every motor is pending
    simp only [legStep]
    split_ifs with hlatch
    · exact inv_quiet h rfl (by simp [hpc, LegPc.pending]) rfl (by simp) (elsewhere_afterFault next)
    · exact ⟨fun _ j hj => Or.inr hj, fun rest hrest => by simp at hrest,
        fun _ hload => by simp at hload⟩
  · exact inv_quiet h rfl (by simp [hpc, LegPc.pending]) rfl (by simp [legStep])
      (elsewhere_afterFault next)
  · exact inv_disableFrame h (by rw [hpc]; rfl) rfl (by constructor <;> simp [legStep])
  · simp only [legStep]
    split_ifs
    · split
      · exact inv_quiet h rfl (by simp [hpc, LegPc.pending]) rfl (by simp) (by constructor <;> simp)
      · exact inv_quiet h rfl (by simp [hpc, LegPc.pending]) rfl (by simp) (by constructor <;> simp)
    · exact inv_quiet h rfl (by simp [hpc, LegPc.pending]) rfl (by simp) (by constructor <;> simp)
  · exact inv_quiet h rfl (by simp [hpc, LegPc.pending]) rfl (by simp [legStep])
      (by constructor <;> simp [legStep])
  · exact inv_quiet h rfl (by simp [hpc, LegPc.pending]) rfl (by simp [legStep, MotorCmd.power])
      (by constructor <;> simp [legStep])
  · obtain ⟨hsame, hl⟩ := Legged.observe_spec st.leg c
    exact inv_quiet h hsame.ids (by simp [hpc, LegPc.pending]) hl (by simp [legStep])
      (by constructor <;> simp [legStep])

/-- The leg's thread takes up new work only when it is idle, and then a set latch means disabled
motors. -/
lemma inv_take {st : Threads} (h : Inv st) {q : LegPc} (hq : ∀ rest, q ≠ .call (.sendEnable rest)) :
    Inv (match st.legPc with
      | .idle => { st with legPc := q }
      | _ => st) := by
  rcases hpc : st.legPc with _ | _
  case idle =>
    have hoff : st.leg.m_motorsFaultDisabled = true → ∀ k ∈ st.leg.ids,
        last MotorCmd.power st.sent k = some false := by
      intro hlatch k hk
      rcases h.latched hlatch k hk with hoff | hin
      · exact hoff
      · rw [hpc] at hin
        simp [LegPc.pending] at hin
    exact ⟨fun hlatch k hk => Or.inl (hoff hlatch k hk), fun rest hrest => absurd hrest (hq rest),
      fun hlatch _ _ _ k hk => Or.inl (hoff hlatch k hk)⟩
  all_goals exact h

/-- **Step.** Every operation of either thread keeps the invariant, an enable frame of the
main thread under its condition. -/
theorem inv_step {st : Threads} (i : Input) (h : Inv st) (hcond : EnablesInTime st i) :
    Inv (step st i) := by
  cases i with
  | mainCall b =>
    unfold step
    simp only
    split_ifs
    · exact inv_mainQuiet h rfl rfl id fun rest hrest => by simp at hrest
    · exact h
  | mainStep => exact inv_mainStep h hcond
  | setShmPointers shm staging =>
    unfold step
    simp only
    split_ifs with hidle
    · exact inv_mainQuiet h rfl rfl id fun rest hrest => by simp [hidle] at hrest
    · exact h
  | legMessage message =>
    refine inv_take h fun rest hrest => ?_
    have hpc := ofCall_sendEnable hrest
    unfold messagePc at hpc
    split_ifs at hpc
  | legCycle c =>
    refine inv_take h fun rest hrest => ?_
    unfold cyclePc at hrest
    split_ifs at hrest
    split at hrest <;> simp at hrest
  | legStep => exact inv_legStep h

lemma inv_start (baseId motorsPerLeg : ℕ) : Inv (start baseId motorsPerLeg) :=
  inv_of_clear rfl

/-- **Latch and motors between two threads.** In every interleaving whose enable frames from
the main thread come in time, a set latch means disabled motors whenever nothing is in
progress. -/
theorem latched_off_of_enablesInTime (baseId motorsPerLeg : ℕ) (l : List Input)
    (h : Each step EnablesInTime (start baseId motorsPerLeg) l) (a b : List Input)
    (hl : l = a ++ b) (hq : Quiescent (run step (start baseId motorsPerLeg) a))
    (hlatch : (run step (start baseId motorsPerLeg) a).leg.m_motorsFaultDisabled = true) :
    ∀ k ∈ (run step (start baseId motorsPerLeg) a).leg.ids,
      last MotorCmd.power (run step (start baseId motorsPerLeg) a).sent k = some false := by
  subst hl
  have hinv : Inv (run step (start baseId motorsPerLeg) a) :=
    Each.invariant (fun _ i hs hc => inv_step i hs hc) ((each_append _ a b).mp h).1
      (inv_start baseId motorsPerLeg)
  intro k hk
  rcases hinv.latched hlatch k hk with hoff | hin
  · exact hoff
  · rw [hq.2] at hin
    simp [LegPc.pending] at hin

/-- A segment whose controller asks for an emergency stop. -/
def stopped : Cycle :=
  ⟨{ SharedMemoryLayout.created with controller_emergency_stop := true }, 1, 2⟩

/-- The main thread sends two enable frames before the leg's thread sets the latch for a fault,
and four more while the disable frames of their motors are still ahead. -/
def enableWithinFault : List Input :=
  .setShmPointers true true :: .mainCall true :: (List.replicate 4 .mainStep ++
    .legCycle stopped :: .legStep :: (List.replicate 5 .mainStep ++ List.replicate 7 .legStep))

theorem latched_off_after_enableWithinFault :
    (run step (start 1 6) enableWithinFault).leg.ids.map
      (last MotorCmd.power (run step (start 1 6) enableWithinFault).sent) =
        List.replicate 6 (some false) :=
  List.map_eq_replicate_iff.mpr
    (latched_off_of_enablesInTime 1 6 enableWithinFault (by decide) enableWithinFault []
      (List.append_nil _).symm ⟨rfl, rfl⟩ rfl)

/-- The main thread reads the flag and clears the latch; the leg's thread meets a fault, sets
the latch and disables the motors; and the main thread goes on to enable them. -/
def enableAcrossFault : List Input :=
  .setShmPointers true true :: .mainCall true :: .mainStep :: .mainStep :: .legCycle stopped ::
    (List.replicate 8 .legStep ++ List.replicate 7 .mainStep)

/-- Nothing is in progress, the latch is set, and every motor of the leg is on. -/
theorem latched_on_after_enableAcrossFault :
    Quiescent (run step (start 1 6) enableAcrossFault) ∧
    (run step (start 1 6) enableAcrossFault).leg.m_motorsFaultDisabled = true ∧
    ∀ k ∈ (run step (start 1 6) enableAcrossFault).leg.ids,
      last MotorCmd.power (run step (start 1 6) enableAcrossFault).sent k = some true := by
  refine ⟨⟨rfl, rfl⟩, rfl, ?_⟩
  decide

end Kuavo.LegThreads
