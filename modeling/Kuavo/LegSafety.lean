import Kuavo.LegRun

/-!
What the messages of a leg achieve, over all its histories.

A disable message acts through the enable flag and an enable message through its change, so
each does its work exactly where the flag agrees with what the motors were last told. The
dispatch of MIT commands looks at the flag too and not at the latch, so a fault stops it
only for as long as the fault lasts.
-/

namespace Kuavo.LegSafety

open Kuavo.Lib.LastSent Kuavo.Lib.Runs Kuavo.LegRun Kuavo.MercuryShm
open Kuavo.LegPower (Power reachable_inv enable_rearms_iff)

/-! ### Disabling -/

/-- The messages that ask for the motors to be off. -/
def AsksOff (message : MESSAGE) : Prop :=
  message.type = MSG_DISABLE_SUBSYSTEM ∨ message.type = MSG_EMERGENCY_STOP

lemma onMessage_of_asksOff (l : Legged) {message : MESSAGE} (h : AsksOff message) :
    l.onMessage message = l.setEnable false := by
  unfold Legged.onMessage
  rcases h with h | h
  · rw [h]
    rfl
  · rw [h]
    rfl

/-- A disable message leaves the motors off exactly where the flag is set or they are off. -/
lemma allPower_asksOff_iff (st : LegState) {message : MESSAGE} (h : AsksOff message) :
    AllPower (step st (.onMessage message)) false ↔
      st.leg.isEnabled = true ∨ AllPower st false := by
  obtain ⟨-, hids, -, hf⟩ := Legged.setEnable_false st.leg
  have hstep : step st (.onMessage message) =
      ⟨(st.leg.setEnable false).1, st.sent ++ (st.leg.setEnable false).2⟩ := by
    change (⟨(st.leg.onMessage message).1, st.sent ++ (st.leg.onMessage message).2⟩ : LegState) = _
    rw [onMessage_of_asksOff st.leg h]
  rw [hstep, hf]
  rcases he : st.leg.isEnabled with _ | _
  · have hsame : AllPower ⟨(st.leg.setEnable false).1, st.sent ++ []⟩ false ↔
        AllPower st false := by
      unfold AllPower lastPower
      simp only [hids, List.append_nil]
    simp only [Bool.false_eq_true, if_false, false_or]
    exact hsame
  · simp only [if_true, true_or, iff_true]
    exact power_toAll st hids rfl

/-- **Disable and emergency-stop messages.** Along a history, each of them leaves every motor
switched off exactly when each comes while the flag is set or the motors are off already. -/
theorem asksOff_run_iff (baseId motorsPerLeg : ℕ) (l : List LegOp) :
    (∀ a message b, l = a ++ .onMessage message :: b → AsksOff message →
      AllPower (run step (start baseId motorsPerLeg) (a ++ [.onMessage message])) false) ↔
    Each step (fun st op => ∀ message, op = .onMessage message → AsksOff message →
      st.leg.isEnabled = true ∨ AllPower st false) (start baseId motorsPerLeg) l := by
  rw [each_iff_split]
  refine ⟨fun h a op b hl message hop hoff => ?_, fun h a message b hl hoff => ?_⟩
  · have hafter := h a message b (by rw [hl, hop]) hoff
    rw [run_concat] at hafter
    exact (allPower_asksOff_iff _ hoff).mp hafter
  · rw [run_concat]
    exact (allPower_asksOff_iff _ hoff).mpr (h a _ b hl message rfl hoff)

/-- Built and told to disable: the motors stay on. -/
theorem asksOff_after_construct :
    ¬ AllPower (run step (start 1 6) [.onMessage ⟨MSG_DISABLE_SUBSYSTEM, 0⟩]) false := by
  intro h
  have h1 := h 1 (by decide)
  revert h1
  decide

/-! ### Enabling -/

/-- The leg answers to faults again: flag set, latch clear, motors on, and the next cycle with
a fault switches every motor off. -/
structure Rearmed (st : LegState) : Prop where
  latched : st.leg.m_motorsFaultDisabled = false
  isEnabled : st.leg.isEnabled = true
  power : AllPower st true
  fault : ∀ c, st.leg.faultReason c ≠ none →
    (st.leg.controllerPeriodic c).1.2 = toAll st.leg.ids .disableMotor

lemma rearmed_of_flags {st : LegState} (hl : st.leg.m_motorsFaultDisabled = false)
    (he : st.leg.isEnabled = true) (hp : AllPower st true) : Rearmed st := by
  refine ⟨hl, he, hp, fun c hc => ?_⟩
  obtain ⟨reason, hr⟩ := Option.ne_none_iff_exists'.mp hc
  rw [(Legged.controllerPeriodic_fault hr).2.2, hl]
  rfl

/-- In a state that refines the abstract machine, an enable message rearms the leg unless the
flag hides the fault. -/
lemma rearmed_iff {st : LegState} {p : Power} (hr : Refines st p) (hp : LegPower.Inv p)
    {message : MESSAGE} (h : message.type = MSG_ENABLE_SUBSYSTEM) :
    Rearmed (step st (.onMessage message)) ↔
      ¬ (st.leg.isEnabled = true ∧ st.leg.m_motorsFaultDisabled = true) := by
  have hop : powerOp st.leg (.onMessage message) = [.enable] := by
    change messageOp message = _
    unfold messageOp
    rw [if_pos h]
  have hnext := refines_step hr (.onMessage message)
  rw [hop] at hnext
  have hflag : st.leg.isEnabled = p.isEnabled := hr.isEnabled
  have hlatch : st.leg.m_motorsFaultDisabled = p.latched := hr.latched
  have hiff := enable_rearms_iff hp
  rw [hflag, hlatch]
  refine ⟨fun hre hboth => ?_, fun hnot => ?_⟩
  · -- nothing happens where the flag is set already
    have hstuck : LegPower.step p .enable = p := if_pos hboth.1
    have hlatched := hnext.latched
    change _ = (LegPower.step p .enable).latched at hlatched
    rw [hre.latched, hstuck, hboth.2] at hlatched
    exact Bool.false_ne_true hlatched
  · obtain ⟨hl, he, hon⟩ := hiff.mpr hnot
    refine rearmed_of_flags (hnext.latched.trans hl) (hnext.isEnabled.trans he) ?_
    have hpower := hnext.power
    change AllPower _ (LegPower.step p .enable).on at hpower
    rwa [hon] at hpower

/-- **Enable messages.** Along a history, each of them rearms the leg exactly when none comes
while flag and latch are both set. -/
theorem enable_rearms_run_iff (baseId motorsPerLeg : ℕ) (l : List LegOp) :
    (∀ a message b, l = a ++ .onMessage message :: b → message.type = MSG_ENABLE_SUBSYSTEM →
      Rearmed (run step (start baseId motorsPerLeg) (a ++ [.onMessage message]))) ↔
    Each step (fun st op => ∀ message, op = .onMessage message →
      message.type = MSG_ENABLE_SUBSYSTEM →
      ¬ (st.leg.isEnabled = true ∧ st.leg.m_motorsFaultDisabled = true))
      (start baseId motorsPerLeg) l := by
  rw [each_iff_split]
  refine ⟨fun h a op b hl message hop htype => ?_, fun h a message b hl htype => ?_⟩
  · obtain ⟨p, hp, hr⟩ := refines_run baseId motorsPerLeg a
    have hafter := h a message b (by rw [hl, hop]) htype
    rw [run_concat] at hafter
    exact (rearmed_iff hr (reachable_inv hp) htype).mp hafter
  · obtain ⟨p, hp, hr⟩ := refines_run baseId motorsPerLeg a
    rw [run_concat]
    exact (rearmed_iff hr (reachable_inv hp) htype).mpr (h a _ b hl message rfl htype)

/-- A segment without a fault, and with a command that enables every joint. -/
def goodShm : SharedMemoryLayout :=
  { SharedMemoryLayout.created with cmd_buffers := fun _ => { enabled := fun _ => 1 } }

/-- The same segment while the controller asks for an emergency stop. -/
def stoppedShm : SharedMemoryLayout := { goodShm with controller_emergency_stop := true }

/-- A leg that is enabled, meets a fault, and meets no fault any more. -/
def afterFault : List LegOp :=
  [.setShmPointers true true, .setEnable true, .controllerPeriodic ⟨stoppedShm, 1, 2⟩,
    .controllerPeriodic ⟨goodShm, 3, 4⟩]

/-- The enable message that follows does not rearm it. -/
theorem enable_after_fault :
    (run step (start 1 6) afterFault).leg.faultReason ⟨goodShm, 5, 6⟩ = none ∧
    ¬ Rearmed (run step (start 1 6) (afterFault ++ [.onMessage ⟨MSG_ENABLE_SUBSYSTEM, 0⟩])) := by
  refine ⟨by decide, fun h => ?_⟩
  have hl := h.latched
  revert hl
  decide

/-! ### Dispatching after a fault -/

/-- The commands sent along a history. -/
def sentDuring : LegState → List LegOp → Frames
  | _, [] => []
  | st, op :: l => (apply st.leg op).2 ++ sentDuring (step st op) l

lemma sentDuring_append (st : LegState) (l m : List LegOp) :
    sentDuring st (l ++ m) = sentDuring st l ++ sentDuring (run step st l) m := by
  induction l generalizing st with
  | nil => rfl
  | cons o l ih => simp [sentDuring, ih]

lemma sentDuring_concat (st : LegState) (l : List LegOp) (op : LegOp) :
    sentDuring st (l ++ [op]) = sentDuring st l ++ (apply (run step st l).leg op).2 := by
  simp [sentDuring_append, sentDuring]

lemma run_sent (st : LegState) (l : List LegOp) :
    (run step st l).sent = st.sent ++ sentDuring st l := by
  induction l generalizing st with
  | nil => simp [sentDuring]
  | cons o l ih => simp [sentDuring, ih, step]

/-- No motor was sent an enable frame. -/
def NoEnable (frames : Frames) : Prop := ∀ f ∈ frames, f.2 ≠ .enableMotor

def NoMit (frames : Frames) : Prop := ∀ f ∈ frames, f.2.isMit = false

lemma noEnable_append {a b : Frames} : NoEnable (a ++ b) ↔ NoEnable a ∧ NoEnable b := by
  unfold NoEnable
  simp only [List.mem_append, or_imp, forall_and]

lemma noEnable_toAll_disable (ks : List ℕ) : NoEnable (toAll ks .disableMotor) := by
  intro f hf
  rw [(mem_toAll.mp hf).2]
  decide

/-- After a cycle with a fault the leg dispatches nothing until motors are enabled again. -/
def SilentAfterFault (st : LegState) (l : List LegOp) : Prop :=
  ∀ a c b d e, l = a ++ .controllerPeriodic c :: (b ++ .controllerPeriodic d :: e) →
    (run step st a).leg.faultReason c ≠ none →
    NoEnable (sentDuring (run step st (a ++ [.controllerPeriodic c])) b) →
    NoMit (apply (run step st (a ++ .controllerPeriodic c :: b)).leg (.controllerPeriodic d)).2

/-- What a cycle finds when it dispatches: a segment without a fault, the flag, a valid and
fresh command, and a joint of the leg that the command enables. -/
structure Dispatchable (l : Legged) (c : Cycle) : Prop where
  attached : l.attached = true
  shm : Legged.shmFault c.shm = none
  isEnabled : l.isEnabled = true
  command : ∃ cmd, c.shm.currentCommand? = some cmd ∧ Legged.commandStale cmd c.cp_start = false ∧
    ∃ i, i < l.ids.length ∧ ∃ h : l.m_groupOffset + i < NUM_ACT_JOINT,
      cmd.enabled ⟨l.m_groupOffset + i, h⟩ ≠ 0

lemma dispatch_ne_nil_iff (l : Legged) (cmd : Command) :
    l.dispatch cmd ≠ [] ↔ ∃ i, i < l.ids.length ∧
      ∃ h : l.m_groupOffset + i < NUM_ACT_JOINT, cmd.enabled ⟨l.m_groupOffset + i, h⟩ ≠ 0 := by
  unfold Legged.dispatch Legged.mitParams
  rw [Ne, List.map_eq_nil_iff, List.filterMap_eq_nil_iff]
  refine ⟨fun h => ?_, ?_⟩
  · simp only [not_forall] at h
    obtain ⟨⟨id, i⟩, hmem, hi⟩ := h
    have hlt : i < l.ids.length := List.snd_lt_of_mem_zipIdx hmem
    simp only at hi
    split_ifs at hi with hj hen
    · exact ⟨i, hlt, hj, hen⟩
    · simp at hi
    · simp at hi
  · rintro ⟨i, hlt, hj, hen⟩ h
    have hmem : (l.ids[i], i) ∈ l.ids.zipIdx :=
      List.mk_mem_zipIdx_iff_getElem?.mpr (List.getElem?_eq_getElem hlt)
    have hnone := h _ hmem
    simp [hj, hen] at hnone

lemma dispatchable_iff (l : Legged) (c : Cycle) : Dispatchable l c ↔ l.mitFrames c ≠ [] := by
  refine ⟨?_, fun h => ?_⟩
  · rintro ⟨ha, hs, he, cmd, hcmd, hfresh, hjoint⟩
    rw [(Legged.mitFrames_of_command ha hs he hcmd).2, hfresh]
    exact (dispatch_ne_nil_iff l cmd).mpr hjoint
  · unfold Legged.mitFrames at h
    split_ifs at h with hg
    · obtain ⟨ha, hs, he⟩ := hg
      rcases hcmd : c.shm.currentCommand? with _ | cmd
      · simp [hcmd] at h
      · simp only [hcmd] at h
        rcases hfresh : Legged.commandStale cmd c.cp_start with _ | _
        · simp only [hfresh, Bool.false_eq_true, if_false] at h
          exact ⟨ha, hs, he, cmd, hcmd, hfresh, (dispatch_ne_nil_iff l cmd).mp h⟩
        · simp [hfresh] at h
    · exact absurd rfl h

/-- A cycle sends MIT commands exactly where it finds what it takes to dispatch. -/
lemma noMit_controllerPeriodic_iff (l : Legged) (c : Cycle) :
    NoMit (l.controllerPeriodic c).1.2 ↔ ¬ Dispatchable l c := by
  rw [dispatchable_iff, not_not]
  rcases hr : l.faultReason c with _ | reason
  · rw [(Legged.controllerPeriodic_no_fault hr).2.2]
    refine ⟨fun h => ?_, fun h f hf => ?_⟩
    · refine List.eq_nil_iff_forall_not_mem.mpr fun f hf => ?_
      have hmit := Legged.mitFrames_isMit hf
      rw [h f hf] at hmit
      exact Bool.false_ne_true hmit
    · rw [h] at hf
      simp at hf
  · have hnil : l.mitFrames c = [] := by
      by_contra hne
      obtain ⟨ha, hs, he, cmd, hcmd, -, -⟩ := (dispatchable_iff l c).mpr hne
      rw [(Legged.mitFrames_of_command ha hs he hcmd).1] at hr
      simp at hr
    rw [(Legged.controllerPeriodic_fault hr).2.2]
    simp only [hnil, iff_true]
    intro f hf
    split_ifs at hf
    · simp at hf
    · rw [(mem_toAll.mp hf).2]
      rfl

lemma noEnable_of_quiet {l : Legged} {r : Legged × Frames} (h : Quiet l r) : NoEnable r.2 := by
  intro f hf henable
  have hpower := h.power f hf
  rw [henable] at hpower
  simp [MotorCmd.power] at hpower

/-- What a step can do to the latch: a fault sets it, enabling clears it and is told to every
motor, and anything else leaves it and enables nothing. -/
lemma latch_cases (st : LegState) (op : LegOp) :
    (∃ c, op = .controllerPeriodic c ∧ st.leg.faultReason c ≠ none ∧
      (step st op).leg.m_motorsFaultDisabled = true ∧ NoEnable (apply st.leg op).2) ∨
    ((step st op).leg.m_motorsFaultDisabled = st.leg.m_motorsFaultDisabled ∧
      NoEnable (apply st.leg op).2) ∨
    ((step st op).leg.m_motorsFaultDisabled = false ∧
      (apply st.leg op).2 = toAll st.leg.ids .enableMotor) := by
  have hnil : NoEnable [] := fun f hf => by simp at hf
  change (∃ c, _ ∧ _ ∧ (apply st.leg op).1.m_motorsFaultDisabled = true ∧ _) ∨
    ((apply st.leg op).1.m_motorsFaultDisabled = _ ∧ _) ∨
    ((apply st.leg op).1.m_motorsFaultDisabled = false ∧ _)
  rcases apply_cases st.leg op with ⟨ha, -⟩ | ⟨ha, -⟩ | rfl | ⟨c, reason, rfl, hr⟩ | ⟨hq, -⟩
  · refine Or.inr ?_
    obtain ⟨-, -, hl, hf⟩ := Legged.setEnable_true st.leg
    rw [ha, hl, hf]
    rcases st.leg.isEnabled with _ | _
    · exact Or.inr ⟨Bool.and_false _, rfl⟩
    · exact Or.inl ⟨Bool.and_true _, hnil⟩
  · refine Or.inr (Or.inl ?_)
    obtain ⟨-, -, hl, hf⟩ := Legged.setEnable_false st.leg
    rw [ha, hl, hf]
    rcases st.leg.isEnabled with _ | _
    · exact ⟨rfl, hnil⟩
    · exact ⟨rfl, noEnable_toAll_disable _⟩
  · exact Or.inr (Or.inl ⟨rfl, hnil⟩)
  · obtain ⟨-, hl, hf⟩ := Legged.controllerPeriodic_fault hr
    refine Or.inl ⟨c, rfl, by rw [hr]; simp, hl, ?_⟩
    change NoEnable (st.leg.controllerPeriodic c).1.2
    rw [hf]
    split_ifs
    · exact hnil
    · exact noEnable_toAll_disable _
  · exact Or.inr (Or.inl ⟨hq.m_motorsFaultDisabled, noEnable_of_quiet hq⟩)

/-- A set latch tells of a fault that no enable frame has followed. -/
lemma fault_of_latched {st : LegState} (h0 : st.leg.m_motorsFaultDisabled = false)
    (l : List LegOp) (h : (run step st l).leg.m_motorsFaultDisabled = true) :
    ∃ a c b, l = a ++ .controllerPeriodic c :: b ∧ (run step st a).leg.faultReason c ≠ none ∧
      NoEnable (sentDuring (run step st (a ++ [.controllerPeriodic c])) b) := by
  induction l using List.reverseRecOn with
  | nil =>
    rw [run_nil, h0] at h
    exact absurd h Bool.false_ne_true
  | append_singleton l op ih =>
    rw [run_concat] at h
    rcases latch_cases (run step st l) op with ⟨c, rfl, hc, -, -⟩ | ⟨hl, hf⟩ | ⟨hl, -⟩
    · exact ⟨l, c, [], rfl, hc, fun f hf => by simp [sentDuring] at hf⟩
    · obtain ⟨a, c, b, hab, hc, hb⟩ := ih (hl ▸ h)
      refine ⟨a, c, b ++ [op], by simp [hab], hc, ?_⟩
      rw [sentDuring_concat, noEnable_append, ← run_append]
      refine ⟨hb, ?_⟩
      have hcat : a ++ [LegOp.controllerPeriodic c] ++ b = l := by simp [hab]
      rw [hcat]
      exact hf
    · rw [hl] at h
      exact absurd h Bool.false_ne_true

/-- The latch stays set while motors exist and none is enabled. -/
lemma latched_of_noEnable {st : LegState} (hids : st.leg.ids ≠ [])
    (h : st.leg.m_motorsFaultDisabled = true) (l : List LegOp) (hl : NoEnable (sentDuring st l)) :
    (run step st l).leg.m_motorsFaultDisabled = true := by
  induction l generalizing st with
  | nil => exact h
  | cons op l ih =>
    obtain ⟨hop, hrest⟩ := noEnable_append.mp hl
    refine ih (by rw [step_ids]; exact hids) ?_ hrest
    rcases latch_cases st op with ⟨c, -, -, hc, -⟩ | ⟨hsame, -⟩ | ⟨-, hall⟩
    · exact hc
    · exact hsame.trans h
    · obtain ⟨k, hk⟩ := List.exists_mem_of_ne_nil _ hids
      rw [hall] at hop
      exact absurd rfl (hop (k, .enableMotor) (mem_toAll.mpr ⟨hk, rfl⟩))

/-- **Dispatch after a fault.** A history dispatches nothing between a fault and the next
enable frames exactly when no cycle that starts with the latch set finds a segment, a flag
and a command to dispatch. -/
theorem silentAfterFault_iff (baseId motorsPerLeg : ℕ) (l : List LegOp) :
    SilentAfterFault (start baseId motorsPerLeg) l ↔
    Each step (fun st op => ∀ c, op = .controllerPeriodic c →
      st.leg.m_motorsFaultDisabled = true → ¬ Dispatchable st.leg c)
      (start baseId motorsPerLeg) l := by
  rw [each_iff_split]
  refine ⟨fun h a op e hl d hop hlatch => ?_, fun h a c b d e hl hc hb => ?_⟩
  · subst hop
    obtain ⟨a', c, b, rfl, hc, hb⟩ := fault_of_latched rfl a hlatch
    have hsilent := h a' c b d e (by rw [hl, List.append_assoc, List.cons_append]) hc hb
    exact (noMit_controllerPeriodic_iff _ d).mp hsilent
  · refine (noMit_controllerPeriodic_iff _ d).mpr fun hd => ?_
    have hsplit : a ++ .controllerPeriodic c :: b = (a ++ [LegOp.controllerPeriodic c]) ++ b := by
      simp
    refine h (a ++ .controllerPeriodic c :: b) _ e (by simp [hl]) d rfl ?_ hd
    rw [hsplit, run_append]
    refine latched_of_noEnable ?_ ?_ b hb
    · -- the leg that dispatches has motors
      obtain ⟨-, -, -, cmd, -, -, i, hi, -⟩ := hd
      rw [hsplit, run_append, run_ids] at hi
      exact List.ne_nil_of_length_pos (by omega)
    · rw [run_concat]
      obtain ⟨reason, hr⟩ := Option.ne_none_iff_exists'.mp hc
      exact (Legged.controllerPeriodic_fault hr).2.1

/-- The fault is gone after one cycle, and the leg dispatches again without being enabled. -/
theorem dispatch_after_fault : ¬ SilentAfterFault (start 1 6) afterFault := by
  intro h
  have hsilent := h [.setShmPointers true true, .setEnable true] ⟨stoppedShm, 1, 2⟩ []
    ⟨goodShm, 3, 4⟩ [] rfl (by decide) (fun f hf => by simp [sentDuring] at hf)
  refine (noMit_controllerPeriodic_iff _ _).mp hsilent ⟨by decide, by decide, by decide,
    { enabled := fun _ => 1 }, rfl, by decide, 0, by decide, by decide, by decide⟩

end Kuavo.LegSafety
