import Kuavo.LegPower
import Kuavo.Legged

/-!
Histories of one leg.

A leg is driven by whole operations, one after another, and the log keeps every command it
sent. The log, the flag and the latch refine the abstract machine of `Kuavo.LegPower`: the
last frame that switched a motor is what the abstract machine says of its power.
-/

namespace Kuavo.LegRun

open Kuavo.Lib.LastSent Kuavo.Lib.Runs Kuavo.LegPower

inductive LegOp
  | onMessage (message : MESSAGE)
  | setEnable (_enable : Bool)
  | disabledInit
  | autonomousInit
  | teleopInit
  | robotPeriodic
  | controllerPeriodic (c : Cycle)
  | setShmPointers (shm staging : Bool)
  /-- A query of one of the motors that `getMotors` hands out. -/
  | getRegParam (i RID : ℕ)
  /-- A state received for the motor in one place of the list. -/
  | feedback (i : ℕ) (r : StateResult) (now : UInt64)

structure LegState where
  leg : Legged
  sent : Frames

def feedback (l : Legged) (i : ℕ) (r : StateResult) (now : UInt64) : Legged × Frames :=
  ({ l with motors := l.motors.modify i fun m => m.updateState r now }, [])

def getRegParam (l : Legged) (i RID : ℕ) : Legged × Frames :=
  (l, match l.ids[i]? with
    | some id => [(id, .getRegParam RID)]
    | none => [])

def apply (l : Legged) : LegOp → Legged × Frames
  | .onMessage message => l.onMessage message
  | .setEnable b => l.setEnable b
  | .disabledInit => l.disabledInit
  | .autonomousInit => l.autonomousInit
  | .teleopInit => l.teleopInit
  | .robotPeriodic => l.robotPeriodic
  | .controllerPeriodic c => (l.controllerPeriodic c).1
  | .setShmPointers shm staging => l.setShmPointers shm staging
  | .getRegParam i RID => getRegParam l i RID
  | .feedback i r now => feedback l i r now

def start (baseId motorsPerLeg : ℕ) : LegState :=
  ⟨(Legged.construct baseId motorsPerLeg).1, (Legged.construct baseId motorsPerLeg).2⟩

def step (st : LegState) (op : LegOp) : LegState :=
  ⟨(apply st.leg op).1, st.sent ++ (apply st.leg op).2⟩

/-- The last frame that switched a motor on or off. -/
def lastPower (st : LegState) (k : ℕ) : Option Bool := last MotorCmd.power st.sent k

/-- Every motor of the leg was last switched to `b`. -/
def AllPower (st : LegState) (b : Bool) : Prop := ∀ k ∈ st.leg.ids, lastPower st k = some b

/-! ### Refinement -/

/-- What a message asks of the power. -/
def messageOp (message : MESSAGE) : List PowerOp :=
  if message.type = MSG_ENABLE_SUBSYSTEM then [.enable]
  else if message.type = MSG_DISABLE_SUBSYSTEM then [.disable]
  else if message.type = MSG_EMERGENCY_STOP then [.disable]
  else []

/-- What an operation means for the power. -/
def powerOp (l : Legged) : LegOp → List PowerOp
  | .onMessage message => messageOp message
  | .setEnable true | .autonomousInit | .teleopInit => [.enable]
  | .setEnable false => [.disable]
  | .disabledInit => [.clearFlag]
  | .controllerPeriodic c => if (l.faultReason c).isSome then [.fault] else []
  | .robotPeriodic | .setShmPointers _ _ | .getRegParam _ _ | .feedback _ _ _ => []

/-- What an operation does that the abstract machine does not see. -/
structure Quiet (l : Legged) (r : Legged × Frames) : Prop where
  ids : r.1.ids = l.ids
  m_isEnabled : r.1.m_isEnabled = l.m_isEnabled
  m_motorsFaultDisabled : r.1.m_motorsFaultDisabled = l.m_motorsFaultDisabled
  power : ∀ e ∈ r.2, e.2.power = none

lemma quiet_nil (l : Legged) : Quiet l (l, []) := ⟨rfl, rfl, rfl, by simp⟩

lemma ids_modify (l : List Motor) (i : ℕ) (r : StateResult) (now : UInt64) :
    (l.modify i fun m => m.updateState r now).map Motor.deviceId = l.map Motor.deviceId := by
  induction l generalizing i with
  | nil => simp
  | cons m l ih =>
    cases i with
    | zero => simp [Motor.updateState]
    | succ i => simp [ih]

lemma quiet_robotPeriodic (l : Legged) : Quiet l l.robotPeriodic := by
  refine ⟨rfl, rfl, rfl, fun e he => ?_⟩
  unfold Legged.robotPeriodic at he
  simp only at he
  split_ifs at he
  · split at he
    · rw [List.mem_singleton.mp he]
      rfl
    · simp at he
  · simp at he

lemma quiet_getRegParam (l : Legged) (i RID : ℕ) : Quiet l (getRegParam l i RID) := by
  refine ⟨rfl, rfl, rfl, fun e he => ?_⟩
  unfold getRegParam at he
  rcases hid : l.ids[i]? with _ | id
  · simp [hid] at he
  · simp only [hid, List.mem_singleton] at he
    rw [he]
    rfl

lemma quiet_controllerPeriodic {l : Legged} {c : Cycle} (h : l.faultReason c = none) :
    Quiet l (l.controllerPeriodic c).1 := by
  obtain ⟨hsame, hl, hf⟩ := Legged.controllerPeriodic_no_fault h
  refine ⟨hsame.ids, hsame.m_isEnabled, hl, fun e he => ?_⟩
  rw [hf] at he
  have hmit := Legged.mitFrames_isMit he
  rcases hcmd : e.2 <;> simp [hcmd, MotorCmd.isMit, MotorCmd.power] at hmit ⊢

/-- **What an operation can do.** It is a call of `setEnable`, or clears the flag, or is a cycle
with a fault, or moves nothing that the abstract machine sees. -/
lemma apply_cases (l : Legged) (op : LegOp) :
    (apply l op = l.setEnable true ∧ powerOp l op = [.enable]) ∨
    (apply l op = l.setEnable false ∧ powerOp l op = [.disable]) ∨
    op = .disabledInit ∨
    (∃ c reason, op = .controllerPeriodic c ∧ l.faultReason c = some reason) ∨
    (Quiet l (apply l op) ∧ powerOp l op = []) := by
  cases op with
  | onMessage message =>
    change (l.onMessage message = _ ∧ messageOp message = _) ∨
      (l.onMessage message = _ ∧ messageOp message = _) ∨ _ ∨ _ ∨
      (Quiet l (l.onMessage message) ∧ messageOp message = [])
    unfold Legged.onMessage messageOp
    split_ifs
    · exact Or.inl ⟨rfl, rfl⟩
    · exact Or.inr (Or.inl ⟨rfl, rfl⟩)
    · exact Or.inr (Or.inl ⟨rfl, rfl⟩)
    · exact Or.inr (Or.inr (Or.inr (Or.inr ⟨quiet_nil l, rfl⟩)))
  | setEnable b =>
    cases b with
    | false => exact Or.inr (Or.inl ⟨rfl, rfl⟩)
    | true => exact Or.inl ⟨rfl, rfl⟩
  | disabledInit => exact Or.inr (Or.inr (Or.inl rfl))
  | autonomousInit => exact Or.inl ⟨rfl, rfl⟩
  | teleopInit => exact Or.inl ⟨rfl, rfl⟩
  | robotPeriodic => exact Or.inr (Or.inr (Or.inr (Or.inr ⟨quiet_robotPeriodic l, rfl⟩)))
  | controllerPeriodic c =>
    rcases hr : l.faultReason c with _ | reason
    · refine Or.inr (Or.inr (Or.inr (Or.inr ⟨quiet_controllerPeriodic hr, ?_⟩)))
      simp [powerOp, hr]
    · exact Or.inr (Or.inr (Or.inr (Or.inl ⟨c, reason, rfl, hr⟩)))
  | setShmPointers shm staging =>
    exact Or.inr (Or.inr (Or.inr (Or.inr ⟨⟨rfl, rfl, rfl, by rintro e ⟨⟩⟩, rfl⟩)))
  | getRegParam i RID => exact Or.inr (Or.inr (Or.inr (Or.inr ⟨quiet_getRegParam l i RID, rfl⟩)))
  | feedback i r now =>
    exact Or.inr (Or.inr (Or.inr (Or.inr
      ⟨⟨ids_modify l.motors i r now, rfl, rfl, by rintro e ⟨⟩⟩, rfl⟩)))

/-- The leg is in the state `p` of the abstract machine. -/
structure Refines (st : LegState) (p : Power) : Prop where
  isEnabled : st.leg.m_isEnabled = p.isEnabled
  latched : st.leg.m_motorsFaultDisabled = p.latched
  power : AllPower st p.on

lemma refines_start (baseId motorsPerLeg : ℕ) : Refines (start baseId motorsPerLeg) init := by
  refine ⟨rfl, rfl, fun k hk => ?_⟩
  change last MotorCmd.power (toAll (Legged.construct baseId motorsPerLeg).1.ids .enableMotor) k
    = some true
  rw [last_toAll]
  exact if_pos hk

/-- Commands that switch no motor leave the power where it was. -/
lemma power_append {st : LegState} {b : Bool} (h : AllPower st b) {l : Legged} {frames : Frames}
    (hids : l.ids = st.leg.ids) (hf : ∀ e ∈ frames, e.2.power = none) :
    AllPower ⟨l, st.sent ++ frames⟩ b := by
  intro k hk
  have hk' : k ∈ st.leg.ids := hids ▸ hk
  have hlast : last MotorCmd.power (st.sent ++ frames) k = last MotorCmd.power st.sent k :=
    last_append_of_none hf k
  exact hlast.trans (h k hk')

/-- A command that switches motors, sent to all of them, decides their power. -/
lemma power_toAll (st : LegState) {b : Bool} {l : Legged} (hids : l.ids = st.leg.ids)
    {c : MotorCmd} (hc : c.power = some b) : AllPower ⟨l, st.sent ++ toAll st.leg.ids c⟩ b := by
  intro k hk
  have hk' : k ∈ st.leg.ids := hids ▸ hk
  exact last_append_toAll hc hk'

lemma refines_quiet {st : LegState} {p : Power} (h : Refines st p) {r : Legged × Frames}
    (hq : Quiet st.leg r) : Refines ⟨r.1, st.sent ++ r.2⟩ p :=
  ⟨hq.m_isEnabled.trans h.isEnabled, hq.m_motorsFaultDisabled.trans h.latched,
    power_append h.power hq.ids hq.power⟩

lemma refines_setEnable_true {st : LegState} {p : Power} (h : Refines st p) :
    Refines ⟨(st.leg.setEnable true).1, st.sent ++ (st.leg.setEnable true).2⟩
      (LegPower.step p .enable) := by
  obtain ⟨he, hids, hl, hf⟩ := Legged.setEnable_true st.leg
  have hflag : st.leg.isEnabled = p.isEnabled := h.isEnabled
  rcases hp : p.isEnabled with _ | _
  · rw [hflag, hp] at hl hf
    simp only [LegPower.step, hp, Bool.false_eq_true, if_false]
    refine ⟨he, ?_, ?_⟩
    · rw [hl, Bool.and_false]
    · rw [hf]
      exact power_toAll st hids rfl
  · rw [hflag, hp] at hl hf
    simp only [LegPower.step, hp, if_true]
    refine ⟨by rw [he, hp], ?_, ?_⟩
    · rw [hl, Bool.and_true, h.latched]
    · rw [hf]
      exact power_append h.power hids (by simp)

lemma refines_setEnable_false {st : LegState} {p : Power} (h : Refines st p) :
    Refines ⟨(st.leg.setEnable false).1, st.sent ++ (st.leg.setEnable false).2⟩
      (LegPower.step p .disable) := by
  obtain ⟨he, hids, hl, hf⟩ := Legged.setEnable_false st.leg
  have hflag : st.leg.isEnabled = p.isEnabled := h.isEnabled
  rcases hp : p.isEnabled with _ | _
  · rw [hflag, hp] at hf
    simp only [LegPower.step, hp, Bool.false_eq_true, if_false]
    refine ⟨by rw [he, hp], hl.trans h.latched, ?_⟩
    rw [hf]
    exact power_append h.power hids (by simp)
  · rw [hflag, hp] at hf
    simp only [LegPower.step, hp, if_true]
    refine ⟨he, by rw [hl, h.latched], ?_⟩
    rw [hf]
    exact power_toAll st hids rfl

/-- A cycle with a fault is a fault of the abstract machine. -/
lemma refines_fault {st : LegState} {p : Power} (h : Refines st p) {c : Cycle}
    {reason : DisableReason} (hr : st.leg.faultReason c = some reason) :
    Refines ⟨(st.leg.controllerPeriodic c).1.1, st.sent ++ (st.leg.controllerPeriodic c).1.2⟩
      (LegPower.step p .fault) := by
  obtain ⟨hsame, hl, hf⟩ := Legged.controllerPeriodic_fault hr
  have hlatch : st.leg.m_motorsFaultDisabled = p.latched := h.latched
  rw [hlatch] at hf
  rcases hp : p.latched with _ | _
  · rw [hp] at hf
    simp only [LegPower.step, hp, Bool.false_eq_true, if_false]
    refine ⟨hsame.m_isEnabled.trans h.isEnabled, hl, ?_⟩
    rw [hf]
    exact power_toAll st hsame.ids rfl
  · rw [hp] at hf
    simp only [LegPower.step, hp, if_true]
    refine ⟨hsame.m_isEnabled.trans h.isEnabled, by rw [hl, hp], ?_⟩
    rw [hf]
    exact power_append h.power hsame.ids (by simp)

/-- **Refinement.** Every operation of the leg is one step of the abstract machine, or none. -/
theorem refines_step {st : LegState} {p : Power} (h : Refines st p) (op : LegOp) :
    Refines (step st op) (run LegPower.step p (powerOp st.leg op)) := by
  unfold step
  rcases apply_cases st.leg op with ⟨ha, hp⟩ | ⟨ha, hp⟩ | rfl | ⟨c, reason, rfl, hr⟩ | ⟨hq, hp⟩
  · rw [ha, hp]
    exact refines_setEnable_true h
  · rw [ha, hp]
    exact refines_setEnable_false h
  · exact ⟨rfl, h.latched, power_append h.power rfl (by rintro e ⟨⟩)⟩
  · have hfault : powerOp st.leg (.controllerPeriodic c) = [.fault] := by simp [powerOp, hr]
    rw [hfault]
    exact refines_fault h hr
  · rw [hp]
    exact refines_quiet h hq

/-- Every history of a leg is a history of the abstract machine. -/
theorem refines_run (baseId motorsPerLeg : ℕ) (l : List LegOp) :
    ∃ p, Reachable LegPower.step init p ∧ Refines (run step (start baseId motorsPerLeg) l) p := by
  induction l using List.reverseRecOn with
  | nil => exact ⟨init, Reachable.refl _ _, refines_start baseId motorsPerLeg⟩
  | append_singleton l op ih =>
    obtain ⟨p, ⟨ops, hops⟩, hp⟩ := ih
    rw [run_concat]
    refine ⟨_, ⟨ops ++ powerOp (run step (start baseId motorsPerLeg) l).leg op, ?_⟩,
      refines_step hp op⟩
    rw [run_append, hops]

/-- The motors of a leg stay the ones it was built with. -/
lemma step_ids (st : LegState) (op : LegOp) : (step st op).leg.ids = st.leg.ids := by
  change (apply st.leg op).1.ids = _
  rcases apply_cases st.leg op with ⟨ha, -⟩ | ⟨ha, -⟩ | rfl | ⟨c, reason, rfl, hr⟩ | ⟨hq, -⟩
  · rw [ha]
    exact (Legged.setEnable_true st.leg).2.1
  · rw [ha]
    exact (Legged.setEnable_false st.leg).2.1
  · rfl
  · exact (Legged.controllerPeriodic_fault hr).1.ids
  · exact hq.ids

lemma run_ids (st : LegState) (l : List LegOp) : (run step st l).leg.ids = st.leg.ids :=
  run_relation (R := fun s t => t.leg.ids = s.leg.ids) (fun _ => rfl)
    (fun _ t op hst => (step_ids t op).trans hst) st l

end Kuavo.LegRun
