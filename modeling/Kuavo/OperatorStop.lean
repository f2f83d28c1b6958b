import Kuavo.LegSafety
import Kuavo.OperatorButtons
import Kuavo.PowerDelivered

/-!
The emergency stop, from the operator's joystick to the motors.

What the buttons ask for comes to a leg as a message behind those that wait already, and the
thread of the leg takes them one by one. So a stop is on its way for a while, and what goes on
meanwhile must neither overtake nor undo it.
-/

namespace Kuavo.OperatorStop

open Kuavo.Lib.LastSent Kuavo.Lib.Runs Kuavo.DamiaoSimulator
open Kuavo.LegPower (Answerable Settled PowerOp answerable_run settled_disable settled_fault)
open Kuavo.LegRun (powerOp messageOp Refines refines_step)
open Kuavo.LegSafety (AsksOff)
open Kuavo.OperatorButtons
open Kuavo.PackageGenerator Kuavo.PowerDelivered Kuavo.RobotPacket

/-! ### The abstract machine -/

/-- Motors that are off stay off until they are asked to be on. -/
lemma settled_run {p : LegPower.Power} (h : Settled p) {l : List PowerOp} (hl : .enable ∉ l) :
    Settled (run LegPower.step p l) := by
  induction l generalizing p with
  | nil => exact h
  | cons op l ih =>
    obtain ⟨hop, hl⟩ := not_or.mp (List.mem_cons.not.mp hl)
    refine ih ?_ hl
    cases op with
    | enable => exact absurd rfl hop
    | disable => exact settled_disable (Or.inr h.on)
    | clearFlag => exact ⟨rfl, h.on⟩
    | fault => exact settled_fault h

/-! ### A leg and its queue -/

/-- An operation that does not clear the flag behind the back of the motors. -/
def Open : UnitOp → Prop
  | .call op => ∀ l, .clearFlag ∉ powerOp l op
  | .message _ | .process => True

def AsksOn (message : MESSAGE) : Prop := message.type = MSG_ENABLE_SUBSYSTEM

/-- An operation that asks for nothing to be on. -/
def Mild : UnitOp → Prop
  | .call op => ∀ l, .clearFlag ∉ powerOp l op ∧ .enable ∉ powerOp l op
  | .message message => ¬ AsksOn message
  | .process => True

/-- The leg would answer a request to switch off. -/
def Answering (u : LegUnit) : Prop := ∃ p, Refines u.st p ∧ Answerable p

/-- A stop is among the next `n` messages, or has done its work; nothing behind it undoes it. -/
def Stopping (n : ℕ) (u : LegUnit) : Prop :=
  ∃ p, Refines u.st p ∧
    ((Settled p ∧ ∀ message ∈ u.send_queue_, ¬ AsksOn message) ∨
      (Answerable p ∧ ∃ front stop back, u.send_queue_ = front ++ stop :: back ∧
        front.length < n ∧ AsksOff stop ∧ ∀ message ∈ back, ¬ AsksOn message))

lemma clearFlag_messageOp (message : MESSAGE) : .clearFlag ∉ messageOp message := by
  unfold messageOp
  split_ifs <;> simp

lemma enable_messageOp {message : MESSAGE} (h : ¬ AsksOn message) :
    .enable ∉ messageOp message := by
  unfold AsksOn at h
  unfold messageOp
  rw [if_neg h]
  split_ifs <;> simp

lemma messageOp_asksOff {message : MESSAGE} (h : AsksOff message) :
    messageOp message = [.disable] := by
  unfold messageOp
  rcases h with h | h <;> rw [h] <;> rfl

lemma step_process_nil {u : LegUnit} (hq : u.send_queue_ = []) : u.step .process = u := by
  simp [LegUnit.step, hq]

lemma step_process_cons {u : LegUnit} {message : MESSAGE} {rest : List MESSAGE}
    (hq : u.send_queue_ = message :: rest) :
    u.step .process = ⟨LegRun.step u.st (.onMessage message), rest⟩ := by
  simp [LegUnit.step, hq]

lemma Answering.step {u : LegUnit} (h : Answering u) {op : UnitOp} (hop : Open op) :
    Answering (u.step op) := by
  obtain ⟨p, hp, ha⟩ := h
  cases op with
  | call op => exact ⟨_, refines_step hp op, answerable_run ha (hop _)⟩
  | message message => exact ⟨p, hp, ha⟩
  | process =>
    cases hq : u.send_queue_ with
    | nil =>
      rw [step_process_nil hq]
      exact ⟨p, hp, ha⟩
    | cons message rest =>
      rw [step_process_cons hq]
      exact ⟨_, refines_step hp (.onMessage message),
        answerable_run ha (clearFlag_messageOp message)⟩

lemma Stopping.mono {m n : ℕ} (hmn : m ≤ n) {u : LegUnit} (h : Stopping m u) : Stopping n u := by
  obtain ⟨p, hp, hset | ⟨ha, front, stop, back, hq, hlen, hoff, hback⟩⟩ := h
  · exact ⟨p, hp, Or.inl hset⟩
  · exact ⟨p, hp, Or.inr ⟨ha, front, stop, back, hq, by omega, hoff, hback⟩⟩

/-- **The next message** brings the stop nearer. -/
lemma Stopping.process {n : ℕ} {u : LegUnit} (h : Stopping (n + 1) u) :
    Stopping n (u.step .process) := by
  obtain ⟨p, hp, ⟨hset, hquiet⟩ | ⟨ha, front, stop, back, hq, hlen, hoff, hback⟩⟩ := h
  · cases hq : u.send_queue_ with
    | nil =>
      rw [step_process_nil hq]
      exact ⟨p, hp, Or.inl ⟨hset, hquiet⟩⟩
    | cons message rest =>
      rw [hq] at hquiet
      rw [step_process_cons hq]
      exact ⟨_, refines_step hp (.onMessage message), Or.inl
        ⟨settled_run hset (enable_messageOp (hquiet _ (by simp))),
          fun m hm => hquiet m (by simp [hm])⟩⟩
  · cases front with
    | nil =>
      have hdisable : powerOp u.st.leg (.onMessage stop) = [.disable] := messageOp_asksOff hoff
      have hrefines := refines_step hp (.onMessage stop)
      rw [hdisable] at hrefines
      rw [step_process_cons hq]
      exact ⟨_, hrefines, Or.inl ⟨settled_disable ha, hback⟩⟩
    | cons message front =>
      rw [step_process_cons hq]
      rw [List.length_cons] at hlen
      exact ⟨_, refines_step hp (.onMessage message), Or.inr
        ⟨answerable_run ha (clearFlag_messageOp message), front, stop, back, rfl, by omega, hoff,
          hback⟩⟩

lemma Stopping.step {n : ℕ} {u : LegUnit} (h : Stopping n u) {op : UnitOp} (hop : Mild op) :
    Stopping n (u.step op) := by
  cases op with
  | process => exact (h.mono (Nat.le_succ n)).process
  | call op =>
    obtain ⟨p, hp, ⟨hset, hquiet⟩ | ⟨ha, hqueue⟩⟩ := h
    · exact ⟨_, refines_step hp op, Or.inl ⟨settled_run hset (hop _).2, hquiet⟩⟩
    · exact ⟨_, refines_step hp op, Or.inr ⟨answerable_run ha (hop _).1, hqueue⟩⟩
  | message message =>
    obtain ⟨p, hp, ⟨hset, hquiet⟩ | ⟨ha, front, stop, back, hq, hlen, hoff, hback⟩⟩ := h
    · refine ⟨p, hp, Or.inl ⟨hset, fun m hm => ?_⟩⟩
      rcases List.mem_append.mp hm with hm | hm
      · exact hquiet m hm
      · exact List.mem_singleton.mp hm ▸ hop
    · refine ⟨p, hp, Or.inr ⟨ha, front, stop, back ++ [message], ?_, hlen, hoff, fun m hm => ?_⟩⟩
      · change u.send_queue_ ++ [message] = _
        rw [hq, List.append_assoc, List.cons_append]
      · rcases List.mem_append.mp hm with hm | hm
        · exact hback m hm
        · exact List.mem_singleton.mp hm ▸ hop

/-! ### Through the robot -/

/-- The leg comes to its state by operations of a kind. -/
def Via (ok : UnitOp → Prop) (side : Side) (r r' : Robot) : Prop :=
  ∃ ops, (∀ op ∈ ops, ok op) ∧ r'.leg side = run LegUnit.step (r.leg side) ops

/-- What every iteration may ask of a leg. -/
structure Admits (ok : UnitOp → Prop) : Prop where
  setEnable : ok (.call (.setEnable false))
  getRegParam : ∀ i, ok (.call (.getRegParam i 21))
  robotPeriodic : ok (.call .robotPeriodic)
  setShmPointers : ok (.call (.setShmPointers true true))
  controllerPeriodic : ∀ c, ok (.call (.controllerPeriodic c))
  feedback : ∀ i r now, ok (.call (.feedback i r now))
  process : ok .process

/-- What a leg is asked when a mode is entered. -/
structure AdmitsModes (ok : UnitOp → Prop) : Prop where
  message : ok (.message (makeSubsystemMessage MSG_ENABLE_SUBSYSTEM))
  autonomousInit : ok (.call .autonomousInit)
  teleopInit : ok (.call .teleopInit)

variable {ok : UnitOp → Prop} {side : Side}

lemma Via.refl (r : Robot) : Via ok side r r := ⟨[], by simp, rfl⟩

lemma Via.trans {a b c : Robot} (h : Via ok side a b) (h' : Via ok side b c) :
    Via ok side a c := by
  obtain ⟨ops, hops, hab⟩ := h
  obtain ⟨ops', hops', hbc⟩ := h'
  refine ⟨ops ++ ops', fun op hop => ?_, by rw [hbc, hab, run_append]⟩
  rcases List.mem_append.mp hop with hop | hop
  · exact hops op hop
  · exact hops' op hop

lemma via_of_leg_eq {r r' : Robot} (h : r'.leg side = r.leg side) : Via ok side r r' :=
  ⟨[], by simp, h⟩

lemma via_onLeg (r : Robot) {t : Side} {op : UnitOp} (hop : t = side → ok op) :
    Via ok side r (r.onLeg t op) := by
  by_cases ht : t = side
  · subst ht
    refine ⟨[op], by simpa using hop rfl, ?_⟩
    cases t <;> rfl
  · refine via_of_leg_eq ?_
    cases t <;> cases side <;> first | exact absurd rfl ht | rfl

lemma via_onLegs (r : Robot) {op : UnitOp} (hop : ok op) : Via ok side r (r.onLegs op) :=
  (via_onLeg r fun _ => hop).trans (via_onLeg _ fun _ => hop)

lemma via_action (r : Robot) {b : Binding} (h : ∀ m ∈ messagesTo side b, ok (.message m)) :
    Via ok side r (r.action b) := by
  cases b with
  | enableLeftButton | disableLeftButton =>
    exact via_onLeg r fun ht => h _ (by simp [messagesTo, ← ht])
  | enableRightButton | disableRightButton =>
    exact via_onLeg r fun ht => h _ (by simp [messagesTo, ← ht])
  | enableAll => exact via_onLegs r (h _ (by simp [messagesTo]))
  | emergency =>
    exact (via_of_leg_eq (Robot.leg_storeEmergencyStop r side)).trans
      (via_onLegs _ (h _ (by simp [messagesTo])))

lemma via_actions {ran : List Binding}
    (h : ∀ b ∈ ran, ∀ m ∈ messagesTo side b, ok (.message m)) (r : Robot) :
    Via ok side r (ran.foldl Robot.action r) := by
  induction ran generalizing r with
  | nil => exact Via.refl r
  | cons b ran ih =>
    exact (via_action r (h b (by simp))).trans (ih (fun b' hb' => h b' (by simp [hb'])) _)

lemma via_supervise (hadmits : Admits ok) (r : Robot) (it : Iteration) :
    Via ok side r (r.supervise it) := by
  have hstale : ∀ (r : Robot) (stale : UInt8), Via ok side r (r.disableStaleLegs stale) := by
    intro r stale
    unfold Robot.disableStaleLegs
    simp only
    split_ifs
    · exact (via_onLeg r fun _ => hadmits.setEnable).trans
        (via_onLeg _ fun _ => hadmits.setEnable)
    · exact via_onLeg r fun _ => hadmits.setEnable
    · exact via_onLeg r fun _ => hadmits.setEnable
    · exact Via.refl r
  unfold Robot.supervise
  split
  · exact ((via_of_leg_eq (Robot.leg_checkImu r _ side)).trans (hstale _ _)).trans
      (via_of_leg_eq (Robot.leg_checkController _ _ _ side))
  · exact Via.refl r

lemma via_queryParam (hadmits : Admits ok) (r : Robot) : Via ok side r r.queryParam := by
  unfold Robot.queryParam
  simp only
  split_ifs
  · exact via_onLeg r fun _ => hadmits.getRegParam _
  · exact via_onLeg r fun _ => hadmits.getRegParam _
  · exact Via.refl r

lemma via_callback (hadmits : Admits ok) {it : Iteration}
    (hrising : ∀ b, it.rising b = true → ∀ m ∈ messagesTo side b, ok (.message m))
    {c : Callback} (hmode : c = .autonomousInit ∨ c = .teleopInit → AdmitsModes ok) (r : Robot) :
    Via ok side r (r.callback it c) := by
  cases c with
  | autonomousInit =>
    have hmodes := hmode (Or.inl rfl)
    exact (via_onLegs r hmodes.message).trans (via_onLegs _ hmodes.autonomousInit)
  | teleopInit =>
    have hmodes := hmode (Or.inr rfl)
    exact (via_onLegs r hmodes.message).trans (via_onLegs _ hmodes.teleopInit)
  | robotPeriodic =>
    have hpoll : Via ok side r (r.poll it.rising) :=
      via_actions (fun b hb => hrising b (List.mem_filter.mp hb).2) r
    exact ((hpoll.trans (via_supervise hadmits _ it)).trans (via_queryParam hadmits _)).trans
      ((via_onLegs _ hadmits.robotPeriodic).trans (via_of_leg_eq (by cases side <;> rfl)))
  | driverStationConnected | autonomousExit | teleopExit => exact Via.refl r
  | autonomousPeriodic | teleopPeriodic => exact Via.refl r

lemma via_callbacks (hadmits : Admits ok) {it : Iteration}
    (hrising : ∀ b, it.rising b = true → ∀ m ∈ messagesTo side b, ok (.message m))
    {calls : List Callback} (hmodes : IterativeRobotBase.EnablesLegs calls → AdmitsModes ok)
    (r : Robot) : Via ok side r (calls.foldl (fun r => r.callback it) r) := by
  induction calls generalizing r with
  | nil => exact Via.refl r
  | cons c calls ih =>
    have hcons := IterativeRobotBase.enablesLegs_cons c calls
    exact (via_callback hadmits hrising (fun h => hmodes (hcons.mpr (Or.inl h))) r).trans
      (ih (fun h => hmodes (hcons.mpr (Or.inr h))) _)

/-- **A step of the process** takes a leg through operations of a kind, if the iterations ask for
no others. -/
lemma via_step (hadmits : Admits ok) {signed : Bool} {p : Process} {op : RobotOp}
    (hloop : ∀ it, op = .loop it →
      (IterativeRobotBase.EnablesLegs (ModeChange.calls p.main) → AdmitsModes ok) ∧
        ∀ b, it.rising b = true → ∀ m ∈ messagesTo side b, ok (.message m)) :
    Via ok side p.robot (p.step signed op).robot := by
  cases op with
  | robotInit =>
    unfold Process.step
    split_ifs
    · exact Via.refl _
    · exact ⟨[.call (.setShmPointers true true)], by simpa using hadmits.setShmPointers,
        Process.leg_robotInit p.robot side⟩
  | packet payload | refresh => exact Via.refl _
  | loop it =>
    obtain ⟨hmodes, hrising⟩ := hloop it rfl
    unfold Process.step
    split_ifs
    · exact via_callbacks hadmits hrising hmodes p.robot
    · exact Via.refl _
  | process t => exact via_onLeg _ fun _ => hadmits.process
  | cycle t cp_start cp_end => exact via_onLeg _ fun _ => hadmits.controllerPeriodic _
  | feedback t i r now => exact via_onLeg _ fun _ => hadmits.feedback i r now
  | shm shm => exact via_of_leg_eq (by cases side <;> rfl)

/-- What the operations keep. -/
lemma Via.keeps {I : LegUnit → Prop} (hstep : ∀ u op, ok op → I u → I (u.step op)) {r r' : Robot}
    (hvia : Via ok side r r') (h : I (r.leg side)) : I (r'.leg side) := by
  obtain ⟨ops, hops, hrun⟩ := hvia
  rw [hrun]
  clear hrun
  induction ops using List.reverseRecOn with
  | nil => exact h
  | append_singleton ops op ih =>
    rw [run_concat]
    exact hstep _ op (hops op (by simp)) (ih fun o ho => hops o (by simp [ho]))

lemma powerOp_fault (c : Cycle) (l : Legged) :
    .clearFlag ∉ powerOp l (.controllerPeriodic c) ∧
      .enable ∉ powerOp l (.controllerPeriodic c) := by
  simp only [powerOp]
  split_ifs <;> simp

lemma admits_mild : Admits Mild where
  setEnable := fun l => by simp [powerOp]
  getRegParam := fun i l => by simp [powerOp]
  robotPeriodic := fun l => by simp [powerOp]
  setShmPointers := fun l => by simp [powerOp]
  controllerPeriodic := powerOp_fault
  feedback := fun i r now l => by simp [powerOp]
  process := trivial

lemma admits_open : Admits Open where
  setEnable := fun l => by simp [powerOp]
  getRegParam := fun i l => by simp [powerOp]
  robotPeriodic := fun l => by simp [powerOp]
  setShmPointers := fun l => by simp [powerOp]
  controllerPeriodic := fun c l => (powerOp_fault c l).1
  feedback := fun i r now l => by simp [powerOp]
  process := trivial

lemma admitsModes_open : AdmitsModes Open where
  message := trivial
  autonomousInit := fun l => by simp [powerOp]
  teleopInit := fun l => by simp [powerOp]

/-! ### Through the process with its loop of events -/

variable (signed : Bool) (n : Numbers)

/-- An iteration asks the leg to be on, by the mode that it enters or by a binding. -/
def Enables (side : Side) (s : System) (i : Turn) : Prop :=
  ∃ it, i.op = .loop it ∧
    (IterativeRobotBase.EnablesLegs (ModeChange.calls s.process.main) ∨
      ∃ b, rising n s.last (polled s.process.main i) b = true ∧ ∃ m ∈ messagesTo side b, AsksOn m)

/-- The thread of the leg takes a message. -/
def takes (side : Side) (i : Turn) : Bool :=
  match i.op with
  | .process t => t = side
  | _ => false

def unit (s : System) (side : Side) : LegUnit := s.process.robot.leg side

lemma answering_step {s : System} (hbuilt : Built n s) (i : Turn)
    (h : Answering (unit s side)) : Answering (unit (step signed n s i) side) := by
  unfold unit
  rw [process_step signed n hbuilt i]
  have hvia : Via Open side s.process.robot
      (s.process.step signed (asRobot n s i)).robot :=
    via_step admits_open fun it _ => ⟨fun _ => admitsModes_open, fun _ _ _ _ => trivial⟩
  exact hvia.keeps (fun _ _ hop h => h.step hop) h

lemma answering_run {s : System} (hbuilt : Built n s) (l : List Turn)
    (h : Answering (unit s side)) : Answering (unit (run (step signed n) s l) side) :=
  (run_invariant (I := fun s => Built n s ∧ Answering (unit s side))
    (fun _ i h => ⟨built_step signed n h.1 i, answering_step signed n h.1 i h.2⟩) ⟨hbuilt, h⟩ l).2

lemma stopping_step {s : System} (hbuilt : Built n s) {i : Turn} (hi : ¬ Enables n side s i)
    {k : ℕ} (h : Stopping (k + if takes side i then 1 else 0) (unit s side)) :
    Stopping k (unit (step signed n s i) side) := by
  unfold unit
  rw [process_step signed n hbuilt i]
  by_cases htakes : takes side i = true
  · rw [if_pos htakes] at h
    obtain ⟨op, rb, start⟩ := i
    cases op with
    | process t =>
      obtain rfl : t = side := of_decide_eq_true htakes
      have hleg : ∀ p : Process, (p.step signed (.process t)).robot.leg t =
          (p.robot.leg t).step .process := by
        intro p
        cases t <;> rfl
      exact hleg s.process ▸ h.process
    | robotInit | packet _ | refresh | loop _ | cycle _ _ _ | feedback _ _ _ _ | shm _ =>
      exact absurd htakes (by simp [takes])
  · rw [if_neg htakes, Nat.add_zero] at h
    refine Via.keeps (fun _ _ hop h => h.step hop) (via_step admits_mild fun it hit => ?_) h
    obtain ⟨op, rb, start⟩ := i
    cases op with
    | loop it' =>
      obtain rfl := RobotOp.loop.inj hit
      refine ⟨fun hmodes => absurd ⟨it', rfl, Or.inl hmodes⟩ hi, fun b hb m hm hon => hi ?_⟩
      exact ⟨it', rfl, Or.inr ⟨b, hb, m, hm, hon⟩⟩
    | robotInit | packet _ | refresh | process _ | cycle _ _ _ | feedback _ _ _ _ | shm _ =>
      exact absurd hit (by simp [asRobot])

/-- **On its way.** A stop among the next messages has done its work once they are taken, if no
iteration asks for the leg to be on. -/
lemma stopping_run {s : System} (hbuilt : Built n s) {l : List Turn}
    (hl : Each (step signed n) (fun s i => ¬ Enables n side s i) s l) {k : ℕ}
    (h : Stopping (k + l.countP (takes side)) (unit s side)) :
    Stopping k (unit (run (step signed n) s l) side) := by
  induction l generalizing s with
  | nil => exact h
  | cons i l ih =>
    obtain ⟨hi, hl⟩ := hl
    refine ih (built_step signed n hbuilt i) hl (stopping_step signed n hbuilt hi ?_)
    rwa [List.countP_cons, ← Nat.add_assoc] at h

/-! ### The frames of both legs -/

/-- The frames of the legs arrive in the order in which each leg sends them, and between the legs
in any order. -/
structure Carried (r : Robot) (w : List Sending) : Prop where
  sent : ∀ side, ((w.filter fun x => x.deviceId ∈ (r.leg side).leg.ids).map Sending.addressed) =
    (r.leg side).st.sent
  legs : ∀ x ∈ w, ∃ side, x.deviceId ∈ (r.leg side).leg.ids

/-- The motors are there, and no MIT command is so extreme that seven bytes of its frame are
`0xff`. -/
structure Served (motorIds : List ℕ) (r : Robot) : Prop where
  ids : ∀ side, ∀ k ∈ (r.leg side).leg.ids, 1 ≤ k ∧ k ≤ 12 ∧ k ∈ motorIds
  plain : ∀ side k p, (k, .setMitControl p) ∈ (r.leg side).st.sent →
    ¬ (MitFrame.Saturated .DM8009 p ∧ MitFrame.torqueOfCode .DM8009 3840 ≤ p.tau)

/-- The id of the first motor of a leg. -/
def base (leftBase rightBase : ℕ) : Side → ℕ
  | .left => leftBase
  | .right => rightBase

variable (undef : Lib.Binary32.Value → ℕ) {motorIds : List ℕ} (leftBase rightBase motorsPerLeg : ℕ)

/-- The robot after a run of its process. -/
def robotAfter (l : List RobotOp) : Robot :=
  (run (Process.step signed) (.start leftBase rightBase motorsPerLeg) l).robot

/-- The leg of a robot has a history. -/
lemma exists_history (l : List RobotOp) (side : Side) :
    ∃ ops, ((robotAfter signed leftBase rightBase motorsPerLeg l).leg side).st =
        run LegRun.step (LegRun.start (base leftBase rightBase side) motorsPerLeg) ops ∧
      ((robotAfter signed leftBase rightBase motorsPerLeg l).leg side).leg.ids =
        List.range' (base leftBase rightBase side) motorsPerLeg := by
  have hlegs : Reachable LegUnit.step
      ((Process.start leftBase rightBase motorsPerLeg).robot.leg side)
      ((robotAfter signed leftBase rightBase motorsPerLeg l).leg side) :=
    Process.legs_run _ l side
  have hstart : ((Process.start leftBase rightBase motorsPerLeg).robot.leg side).st =
      LegRun.start (base leftBase rightBase side) motorsPerLeg := by
    cases side <;> rfl
  obtain ⟨ops, hops⟩ := LegUnit.reachable_st hlegs
  rw [hstart] at hops
  refine ⟨ops, hops.symm, ?_⟩
  change ((robotAfter signed leftBase rightBase motorsPerLeg l).leg side).st.leg.ids = _
  rw [← hops, LegRun.run_ids]
  simp [LegRun.start, Legged.construct, Legged.ids, Function.comp_def]

/-- **The motors of both legs** are as the abstract machines of their legs say. -/
lemma enabled_of_refines {l : List RobotOp} {w : List Sending}
    (hserved : Served motorIds (robotAfter signed leftBase rightBase motorsPerLeg l))
    (hw : Carried (robotAfter signed leftBase rightBase motorsPerLeg l) w) {side : Side}
    {p : LegPower.Power}
    (hp : Refines ((robotAfter signed leftBase rightBase motorsPerLeg l).leg side).st p) {k : ℕ}
    (hk : k ∈ List.range' (base leftBase rightBase side) motorsPerLeg) :
    enabled? (run (deliver undef .DM8009) (construct motorIds) w) k = some p.on := by
  have hhistory := exists_history signed leftBase rightBase motorsPerLeg l
  generalize robotAfter signed leftBase rightBase motorsPerLeg l = r at hserved hw hp hhistory
  have hdeliver : ∀ x ∈ w, Deliverable .DM8009 (construct motorIds) x := by
    intro x hx
    obtain ⟨side', hside⟩ := hw.legs x hx
    obtain ⟨ops, hops, hids⟩ := hhistory side'
    have hsent := hw.sent side'
    have hplain := hserved.plain side'
    have hreg := hserved.ids side'
    rw [hids] at hreg
    rw [hops] at hsent hplain
    exact deliverable_of_sent motorIds hreg hplain hsent x
      (List.mem_filter.mpr ⟨hx, decide_eq_true hside⟩)
  obtain ⟨-, -, hids⟩ := hhistory side
  have hmem : k ∈ (r.leg side).leg.ids := hids ▸ hk
  have hlast : last MotorCmd.power (w.map Sending.addressed) k = some p.on := by
    have hpower : last MotorCmd.power (r.leg side).st.sent k = some p.on := hp.power k hmem
    have hown := last_filter (f := MotorCmd.power) (p := fun j => decide (j ∈ (r.leg side).leg.ids))
      (decide_eq_true hmem) (w.map Sending.addressed)
    rw [← hpower, ← hw.sent side, ← hown, List.filter_map]
    rfl
  rw [enabled?_run undef .DM8009 hdeliver k, hlast, Option.some_or]

/-! ### The emergency stop -/

/-- The latest packet is one of the generator, with a time block and joystick data, and `j` is its
first joystick. -/
def Operates (l : List Turn) (j : Joystick) : Prop :=
  ∃ settings payload, lastPacket l = some payload ∧
    Extends payload (create_robot_packet settings) ∧ settings.send_time_data = true ∧
    5 < settings.sent_robot_packets ∧ ∃ js, settings.joysticks = j :: js

/-- The emergency stop is the last of the bindings. -/
lemma filter_emergency {f : Binding → Bool} (h : f .emergency = true) :
    ∃ front, bindings.filter f = front ++ [.emergency] := by
  refine ⟨bindings.dropLast.filter f, ?_⟩
  have hlast : bindings = bindings.dropLast ++ [.emergency] := rfl
  rw [hlast, List.filter_append]
  simp [h]

/-- A flag that is set is answered to. -/
lemma answering_of_isEnabled {l : List RobotOp} {side : Side}
    (h : ((robotAfter signed leftBase rightBase motorsPerLeg l).leg side).leg.isEnabled = true) :
    Answering ((robotAfter signed leftBase rightBase motorsPerLeg l).leg side) := by
  obtain ⟨p, -, hp⟩ := Process.leg_refines leftBase rightBase motorsPerLeg l side
  exact ⟨p, hp, Or.inl (hp.isEnabled ▸ h)⟩

/-- **An iteration puts the stop** behind what the leg has to take before. -/
lemma stopping_of_emergency {s : System} (hbuilt : Built n s) {side : Side}
    (h : Answering (unit s side)) {i : Turn} {it : Iteration} (hop : i.op = .loop it)
    (hsome : s.process.robot.m_shm.isSome = true)
    (hrise : rising n s.last (polled s.process.main i) .emergency = true) :
    Stopping (queue (step signed n s i).process.robot side).length
      (unit (step signed n s i) side) := by
  obtain ⟨p, hp, ha⟩ := answering_step signed n hbuilt i h
  obtain ⟨front, hfront⟩ := filter_emergency hrise
  have hqueue : queue (step signed n s i).process.robot side =
      queue s.process.robot side ++ (ModeChange.calls s.process.main).flatMap onEntry ++
        front.flatMap (messagesTo side) ++ [makeSubsystemMessage MSG_EMERGENCY_STOP] := by
    rw [process_step signed n hbuilt i, asRobot, hop]
    simp only
    rw [queue_loop signed hsome, hfront, List.flatMap_append, ← List.append_assoc]
    rfl
  refine ⟨p, hp, Or.inr ⟨ha, _, makeSubsystemMessage MSG_EMERGENCY_STOP, [], hqueue, ?_,
    Or.inr rfl, by simp⟩⟩
  rw [hqueue]
  simp

/-- The robot and its loop of events after a run. -/
def after (l : List Turn) : System :=
  run (step signed n) (start leftBase rightBase motorsPerLeg) l

lemma after_append (l m : List Turn) :
    after signed n leftBase rightBase motorsPerLeg (l ++ m) =
      run (step signed n) (after signed n leftBase rightBase motorsPerLeg l) m :=
  run_append (step signed n) _ l m

lemma built_after (l : List Turn) : Built n (after signed n leftBase rightBase motorsPerLeg l) :=
  built_run signed n (built_start n leftBase rightBase motorsPerLeg) l

lemma robot_after (l : List Turn) :
    (after signed n leftBase rightBase motorsPerLeg l).process.robot =
      robotAfter signed leftBase rightBase motorsPerLeg
        (trace signed n (start leftBase rightBase motorsPerLeg) l) :=
  congrArg Process.robot (process_run signed n (built_start n leftBase rightBase motorsPerLeg) l)

/-- The iteration `i` behind a run finds the buttons of the emergency stop held, which were not held
at the poll before. The leg has been enabled once. -/
structure AsksStop (l : List Turn) (i : Turn) (side : Side) : Prop where
  loop : ∃ it, i.op = .loop it
  started : (after signed n leftBase rightBase motorsPerLeg l).process.robot.m_shm.isSome = true
  held : ∃ j, Operates l j ∧ pressed j 7 = true
  start : i.start = true
  before : up n (after signed n leftBase rightBase motorsPerLeg l).last .emergency = false
  once : ∃ a b, l = a ++ b ∧
    (unit (after signed n leftBase rightBase motorsPerLeg a) side).leg.isEnabled = true

/-- The leg answers, as it has been enabled. -/
lemma AsksStop.answering {l : List Turn} {i : Turn} {side : Side}
    (hask : AsksStop signed n leftBase rightBase motorsPerLeg l i side) :
    Answering (unit (after signed n leftBase rightBase motorsPerLeg l) side) := by
  obtain ⟨a, b, rfl, hon⟩ := hask.once
  rw [after_append]
  refine answering_run signed n (built_after signed n leftBase rightBase motorsPerLeg a) b ?_
  unfold unit at hon ⊢
  rw [robot_after] at hon ⊢
  exact answering_of_isEnabled signed leftBase rightBase motorsPerLeg hon

/-- The binding of the emergency stop rises. -/
lemma AsksStop.rises {l : List Turn} {i : Turn} {side : Side}
    (hask : AsksStop signed n leftBase rightBase motorsPerLeg l i side) :
    rising n (after signed n leftBase rightBase motorsPerLeg l).last
      (polled (after signed n leftBase rightBase motorsPerLeg l).process.main i) .emergency =
        true := by
  obtain ⟨j, hoperates, hheld⟩ := hask.held
  obtain ⟨settings, payload, hlast, hext, htime, hsent, js, hjs⟩ := hoperates
  have hbefore := hask.before
  have hrising := rising_of_packet signed n
    (s := OperatorButtons.start leftBase rightBase motorsPerLeg) hlast hext htime hsent hjs i
    (b := .emergency) (Or.inl (show (7 : ℤ) ≤ 8 by decide))
  unfold after at hbefore ⊢
  simp only at hrising
  rw [hrising]
  simp [hbefore, asked, hheld, hask.start]

/-- From a state on, no iteration asks for the leg to be on, and its thread takes the messages that
wait. -/
structure TakesAll (s : System) (side : Side) (more : List Turn) : Prop where
  mild : Each (step signed n) (fun s i => ¬ Enables n side s i) s more
  taken : (queue s.process.robot side).length ≤ more.countP (takes side)

/-- **The emergency stop takes the power from the motors.** An iteration finds the buttons of the
emergency stop held in the latest packet. Whatever happens from then on, once the thread of the leg
has taken the messages that were there, the motors of the leg are disabled, and they stay so until
an iteration asks for the leg to be on. -/
theorem emergency_stops_motors {l more : List Turn} {i : Turn} {side : Side} {w : List Sending}
    (hask : AsksStop signed n leftBase rightBase motorsPerLeg l i side)
    (hmore : TakesAll signed n (after signed n leftBase rightBase motorsPerLeg (l ++ [i])) side
      more)
    (hserved : Served motorIds
      (after signed n leftBase rightBase motorsPerLeg (l ++ [i] ++ more)).process.robot)
    (hw : Carried
      (after signed n leftBase rightBase motorsPerLeg (l ++ [i] ++ more)).process.robot w)
    {k : ℕ} (hk : k ∈ List.range' (base leftBase rightBase side) motorsPerLeg) :
    enabled? (run (deliver undef .DM8009) (construct motorIds) w) k = some false := by
  have hbuilt := built_after signed n leftBase rightBase motorsPerLeg
  obtain ⟨it, hop⟩ := hask.loop
  -- the iteration sends the stop
  have hstop := stopping_of_emergency signed n (hbuilt l)
    (hask.answering signed n leftBase rightBase motorsPerLeg) hop hask.started
    (hask.rises signed n leftBase rightBase motorsPerLeg)
  have hconcat := after_append signed n leftBase rightBase motorsPerLeg l [i]
  rw [run_cons, run_nil] at hconcat
  rw [← hconcat] at hstop
  -- and the thread of the leg takes it
  have hzero : Stopping 0
      (unit (after signed n leftBase rightBase motorsPerLeg (l ++ [i] ++ more)) side) := by
    rw [after_append signed n leftBase rightBase motorsPerLeg (l ++ [i])]
    refine stopping_run signed n (hbuilt _) hmore.mild (hstop.mono ?_)
    rw [Nat.zero_add]
    exact hmore.taken
  obtain ⟨p, hp, ⟨hset, -⟩ | ⟨-, front, stop, back, -, hlen, -⟩⟩ := hzero
  · rw [robot_after] at hserved hw
    unfold unit at hp
    rw [robot_after] at hp
    rw [enabled_of_refines signed undef leftBase rightBase motorsPerLeg hserved hw hp hk, hset.on]
  · exact absurd hlen (Nat.not_lt_zero _)

/-- A joystick without axes, whose hat points right. -/
def plainJoystick (buttons : List ℤ) (h : buttons.length ≤ 16) : Joystick :=
  { buttonAndHat with buttons := buttons, buttons_length_le := h }

/-- The joystick at rest, and with Back and Start held. -/
def atRest : Joystick := plainJoystick [] (by decide)
def backAndStart : Joystick := plainJoystick [0, 0, 0, 0, 0, 0, 1, 1] (by decide)

/-- Teleoperation is entered, and then the stop is held. -/
def teleopThenStop : List Turn :=
  [⟨.robotInit, false, false⟩,
    ⟨.packet (ofBytes (create_robot_packet (timed atRest))), false, false⟩,
    ⟨.loop {}, false, false⟩,
    ⟨.packet (ofBytes (create_robot_packet (timed backAndStart))), false, false⟩]

def takeTwo : List Turn := [⟨.process .left, false, false⟩, ⟨.process .left, false, false⟩]

/-- The frames of two legs of one motor each. -/
def carried : List Sending :=
  [⟨1, .enableMotor, fun _ => 0⟩, ⟨7, .enableMotor, fun _ => 0⟩, ⟨7, .enableMotor, fun _ => 0⟩,
    ⟨1, .enableMotor, fun _ => 0⟩, ⟨1, .getRegParam 21, fun _ => 0⟩,
    ⟨1, .getRegParam 21, fun _ => 0⟩, ⟨7, .getRegParam 21, fun _ => 0⟩,
    ⟨1, .disableMotor, fun _ => 0⟩]

/-- The robot of one motor a leg, once the left leg has taken its two messages. -/
def stopped : Robot :=
  (after true (numbers []) 1 7 1
    (teleopThenStop ++ [⟨.loop {}, false, true⟩] ++ takeTwo)).process.robot

lemma sent_stopped :
    (stopped.leg .left).st.sent = [(1, .enableMotor), (1, .enableMotor), (1, .getRegParam 21),
        (1, .getRegParam 21), (1, .disableMotor)] ∧
      (stopped.leg .right).st.sent = [(7, .enableMotor), (7, .enableMotor),
        (7, .getRegParam 21)] ∧
      (stopped.leg .left).leg.ids = [1] ∧ (stopped.leg .right).leg.ids = [7] :=
  ⟨rfl, rfl, rfl, rfl⟩

lemma served_stopped : Served [1, 7] stopped := by
  obtain ⟨hleft, hright, hidsLeft, hidsRight⟩ := sent_stopped
  refine ⟨fun side => ?_, fun side k p hmem => ?_⟩
  · cases side with
    | left =>
      rw [hidsLeft]
      decide
    | right =>
      rw [hidsRight]
      decide
  · cases side with
    | left => simp [hleft] at hmem
    | right => simp [hright] at hmem

lemma carried_stopped : Carried stopped carried := by
  obtain ⟨hleft, hright, hidsLeft, hidsRight⟩ := sent_stopped
  refine ⟨fun side => ?_, fun x hx => ?_⟩
  · cases side with
    | left =>
      rw [hleft, hidsLeft]
      rfl
    | right =>
      rw [hright, hidsRight]
      rfl
  · have hids : ∀ y ∈ carried, y.deviceId = 1 ∨ y.deviceId = 7 := by decide
    rcases hids x hx with hid | hid
    · refine ⟨.left, ?_⟩
      rw [hidsLeft, hid]
      decide
    · refine ⟨.right, ?_⟩
      rw [hidsRight, hid]
      decide

theorem emergency_stops_motors_held :
    enabled? (run (deliver (fun _ => 0) .DM8009) (construct [1, 7]) carried) 1 = some false := by
  have hask : AsksStop true (numbers []) 1 7 1 teleopThenStop ⟨.loop {}, false, true⟩ .left :=
    ⟨⟨{}, rfl⟩, by decide +kernel, ⟨backAndStart, ⟨timed backAndStart, _, rfl, extends_ofBytes _,
      rfl, by decide, [], rfl⟩, by decide +kernel⟩, rfl, by decide +kernel,
      teleopThenStop.take 3, teleopThenStop.drop 3, rfl, by decide +kernel⟩
  have htakes : TakesAll true (numbers [])
      (after true (numbers []) 1 7 1 (teleopThenStop ++ [⟨.loop {}, false, true⟩])) .left
      takeTwo := by
    refine ⟨⟨?_, ?_, trivial⟩, by decide +kernel⟩
    · rintro ⟨it, hit, -⟩
      simp at hit
    · rintro ⟨it, hit, -⟩
      simp at hit
  exact emergency_stops_motors true (numbers []) (fun _ => 0) 1 7 1 hask htakes served_stopped
    carried_stopped (by decide)

end Kuavo.OperatorStop
