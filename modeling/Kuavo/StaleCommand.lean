import Kuavo.LegSafety

/-!
What a leg does when its controller has stopped.

A cycle that finds its command more than 100 ms old sends its motors nothing. They stay in the
power they had, the flag stays set, and the first fresh command drives them again.
-/

namespace Kuavo.StaleCommand

open Kuavo.Lib.LastSent Kuavo.Lib.Runs Kuavo.LegRun Kuavo.LegSafety Kuavo.MercuryShm

/-- The timestamp lies more than the threshold before `now`. -/
def Old (cmd : Command) (now_ns : UInt64) : Prop :=
  cmd.timestamp_ns ≠ 0 ∧
    cmd.timestamp_ns.toNat + Legged.COMMAND_STALE_THRESHOLD_NS.toNat < now_ns.toNat

instance (cmd : Command) (now_ns : UInt64) : Decidable (Old cmd now_ns) :=
  inferInstanceAs (Decidable (_ ∧ _))

/-- A cycle of an enabled leg, without a fault, that finds an old command. -/
structure StaleCycle (l : Legged) (c : Cycle) : Prop where
  attached : l.attached = true
  shm : Legged.shmFault c.shm = none
  isEnabled : l.isEnabled = true
  command : ∃ cmd, c.shm.currentCommand? = some cmd ∧ Old cmd c.cp_start

/-- The operations that ask for the leg to be enabled. -/
def AsksOn : LegOp → Prop
  | .onMessage message => message.type = MSG_ENABLE_SUBSYSTEM
  | .setEnable _enable => _enable = true
  | .autonomousInit | .teleopInit => True
  | _ => False

/-- After a cycle with an old command the motors are off, and nothing drives them or switches
them on before the leg is asked to be enabled. -/
structure OffUntilEnabled (st : LegState) (l : List LegOp) : Prop where
  off : ∀ a c b, l = a ++ .controllerPeriodic c :: b → StaleCycle (run step st a).leg c →
    AllPower (run step st (a ++ [.controllerPeriodic c])) false
  silent : ∀ a c b op e, l = a ++ .controllerPeriodic c :: (b ++ op :: e) →
    StaleCycle (run step st a).leg c → (∀ o ∈ b ++ [op], ¬ AsksOn o) →
    NoMit (apply (run step st (a ++ .controllerPeriodic c :: b)).leg op).2 ∧
      NoEnable (apply (run step st (a ++ .controllerPeriodic c :: b)).leg op).2

/-- Every old command is met with the latch set already, or by a leg without motors; and until
the leg is asked to be enabled, no cycle finds a fresh command that enables one of its joints. -/
structure LatchedAndUncommanded (st : LegState) (l : List LegOp) : Prop where
  latched : ∀ a c b, l = a ++ .controllerPeriodic c :: b → StaleCycle (run step st a).leg c →
    (run step st a).leg.m_motorsFaultDisabled = true ∨ (run step st a).leg.ids = []
  uncommanded : ∀ a c b d e, l = a ++ .controllerPeriodic c :: (b ++ .controllerPeriodic d :: e) →
    StaleCycle (run step st a).leg c → (∀ o ∈ b, ¬ AsksOn o) →
    ¬ Dispatchable (run step st (a ++ .controllerPeriodic c :: b)).leg d

/-! ### Old commands -/

lemma commandStale_iff (cmd : Command) (now_ns : UInt64) :
    Legged.commandStale cmd now_ns = true ↔ Old cmd now_ns := by
  unfold Legged.commandStale Old
  have hpos : cmd.timestamp_ns > 0 ↔ cmd.timestamp_ns ≠ 0 := UInt64.pos_iff_ne_zero
  by_cases hzero : cmd.timestamp_ns = 0
  · simp [hzero]
  by_cases hle : cmd.timestamp_ns ≤ now_ns
  · have hnat : cmd.timestamp_ns.toNat ≤ now_ns.toNat := UInt64.le_iff_toNat_le.mp hle
    have hsub := UInt64.toNat_sub_of_le _ _ hle
    simp only [hpos.mpr hzero, hle, and_self, if_true, decide_true, Bool.true_and,
      decide_eq_true_eq, gt_iff_lt, UInt64.lt_iff_toNat_lt, hsub]
    simp only [ne_eq, hzero, not_false_eq_true, true_and]
    omega
  · have hnat : now_ns.toNat < cmd.timestamp_ns.toNat :=
      UInt64.lt_iff_toNat_lt.mp (UInt64.not_le.mp hle)
    simp only [hle, and_false, if_false]
    have hsmall : ¬ Legged.COMMAND_STALE_THRESHOLD_NS < 0 := by decide
    simp only [gt_iff_lt, hsmall, decide_false, Bool.and_false, Bool.false_eq_true, false_iff]
    omega

/-- A cycle with an old command changes neither flag, latch nor motors, and sends nothing. -/
lemma staleCycle_spec {l : Legged} {c : Cycle} (h : StaleCycle l c) :
    Legged.SameFrame l (l.controllerPeriodic c).1.1 ∧
      (l.controllerPeriodic c).1.1.m_motorsFaultDisabled = l.m_motorsFaultDisabled ∧
      (l.controllerPeriodic c).1.2 = [] := by
  obtain ⟨cmd, hcmd, hold⟩ := h.command
  obtain ⟨hnone, hmit⟩ := Legged.mitFrames_of_command h.attached h.shm h.isEnabled hcmd
  obtain ⟨hsame, hlatch, hframes⟩ := Legged.controllerPeriodic_no_fault hnone
  refine ⟨hsame, hlatch, ?_⟩
  rw [hframes, hmit]
  exact if_pos ((commandStale_iff cmd c.cp_start).mpr hold)

/-! ### The power of an enabled leg -/

/-- The motors of an enabled leg are off exactly where the latch is set, or it has none. -/
lemma allPower_false_iff {st : LegState} {p : LegPower.Power} (hr : Refines st p)
    (hp : LegPower.Inv p) (he : st.leg.isEnabled = true) :
    AllPower st false ↔ st.leg.m_motorsFaultDisabled = true ∨ st.leg.ids = [] := by
  constructor
  · intro hoff
    by_contra hnot
    obtain ⟨hlatch, hids⟩ := not_or.mp hnot
    obtain ⟨k, hk⟩ := List.exists_mem_of_ne_nil _ hids
    have hflag : p.isEnabled = true := hr.isEnabled.symm.trans he
    have hclear : p.latched = false := by
      rw [← hr.latched]
      simpa using hlatch
    have hon : lastPower st k = some true := by
      rw [← hp.on_of_isEnabled hflag hclear]
      exact hr.power k hk
    rw [hoff k hk] at hon
    simp at hon
  · rintro (hlatch | hids) k hk
    · have hpower := hr.power k hk
      rwa [hp.off_of_latched (hr.latched.symm.trans hlatch)] at hpower
    · rw [hids] at hk
      simp at hk

/-- The same, after a cycle with an old command, in terms of the leg before it. -/
lemma allPower_staleCycle_iff (baseId motorsPerLeg : ℕ) (a : List LegOp) {c : Cycle}
    (h : StaleCycle (run step (start baseId motorsPerLeg) a).leg c) :
    AllPower (run step (start baseId motorsPerLeg) (a ++ [.controllerPeriodic c])) false ↔
      (run step (start baseId motorsPerLeg) a).leg.m_motorsFaultDisabled = true ∨
        (run step (start baseId motorsPerLeg) a).leg.ids = [] := by
  obtain ⟨hsame, hlatch, -⟩ := staleCycle_spec h
  obtain ⟨p, hp, hr⟩ := refines_run baseId motorsPerLeg (a ++ [.controllerPeriodic c])
  have hflag :
      (run step (start baseId motorsPerLeg) (a ++ [.controllerPeriodic c])).leg.isEnabled =
        true := by
    rw [run_concat]
    exact hsame.m_isEnabled.trans h.isEnabled
  rw [allPower_false_iff hr (LegPower.reachable_inv hp) hflag, run_concat]
  change (_ = true ∨ _ = []) ↔ _
  rw [← hlatch, ← hsame.ids]
  rfl

/-! ### What drives a motor -/

/-- Of the operations that do not ask for the leg to be enabled, only a cycle drives motors. -/
lemma noMit_apply (l : Legged) {op : LegOp} (h : ∀ d, op ≠ .controllerPeriodic d)
    (hop : ¬ AsksOn op) : NoMit (apply l op).2 := by
  have hnil : NoMit [] := fun f hf => by simp at hf
  have hoff : NoMit (l.setEnable false).2 := by
    rw [(Legged.setEnable_false l).2.2.2]
    split_ifs
    · intro f hf
      rw [(mem_toAll.mp hf).2]
      rfl
    · exact hnil
  cases op with
  | onMessage message =>
    have htype : message.type ≠ MSG_ENABLE_SUBSYSTEM := hop
    change NoMit (l.onMessage message).2
    unfold Legged.onMessage
    rw [if_neg htype]
    split_ifs
    · exact hoff
    · exact hoff
    · exact hnil
  | setEnable b =>
    have hb : b = false := by simpa [AsksOn] using hop
    subst hb
    exact hoff
  | autonomousInit => exact absurd trivial hop
  | teleopInit => exact absurd trivial hop
  | controllerPeriodic d => exact absurd rfl (h d)
  | robotPeriodic =>
    intro f hf
    have hf' : f ∈ l.robotPeriodic.2 := hf
    unfold Legged.robotPeriodic at hf'
    simp only at hf'
    split_ifs at hf'
    · split at hf'
      · rw [List.mem_singleton.mp hf']
        rfl
      · simp at hf'
    · simp at hf'
  | getRegParam i RID =>
    intro f hf
    have hf' : f ∈ (getRegParam l i RID).2 := hf
    unfold getRegParam at hf'
    split at hf'
    · rw [List.mem_singleton.mp hf']
      rfl
    · simp at hf'
  | disabledInit => exact hnil
  | setShmPointers shm staging => exact hnil
  | feedback i r now => exact hnil

/-- Motors are switched on only where the leg is asked to be enabled. -/
lemma noEnable_apply (l : Legged) {op : LegOp} (hop : ¬ AsksOn op) : NoEnable (apply l op).2 := by
  have hnil : NoEnable [] := fun f hf => by simp at hf
  have hpower : powerOp l op ≠ [.enable] := by
    cases op with
    | onMessage message =>
      have htype : message.type ≠ MSG_ENABLE_SUBSYSTEM := hop
      change messageOp message ≠ _
      unfold messageOp
      rw [if_neg htype]
      split_ifs <;> simp
    | setEnable b =>
      have hb : b = false := by simpa [AsksOn] using hop
      subst hb
      simp [powerOp]
    | autonomousInit => exact absurd trivial hop
    | teleopInit => exact absurd trivial hop
    | controllerPeriodic c =>
      simp only [powerOp]
      split_ifs <;> simp
    | _ => simp [powerOp]
  rcases apply_cases l op with ⟨-, hp⟩ | ⟨ha, -⟩ | rfl | ⟨c, reason, rfl, hr⟩ | ⟨hq, -⟩
  · exact absurd hp hpower
  · rw [ha, (Legged.setEnable_false l).2.2.2]
    split_ifs
    · exact noEnable_toAll_disable _
    · exact hnil
  · exact hnil
  · change NoEnable (l.controllerPeriodic c).1.2
    rw [(Legged.controllerPeriodic_fault hr).2.2]
    split_ifs
    · exact hnil
    · exact noEnable_toAll_disable _
  · exact noEnable_of_quiet hq

/-- **A stopped controller** leaves the motors off until the leg is enabled again exactly where
a fault had set the latch before, and no fresh command comes in between. -/
theorem offUntilEnabled_iff (baseId motorsPerLeg : ℕ) (l : List LegOp) :
    OffUntilEnabled (start baseId motorsPerLeg) l ↔
      LatchedAndUncommanded (start baseId motorsPerLeg) l := by
  constructor
  · rintro ⟨hoff, hsilent⟩
    refine ⟨fun a c b hl hc => ?_, fun a c b d e hl hc hb => ?_⟩
    · exact (allPower_staleCycle_iff baseId motorsPerLeg a hc).mp (hoff a c b hl hc)
    · have hask : ∀ o ∈ b ++ [LegOp.controllerPeriodic d], ¬ AsksOn o := by
        intro o ho
        rcases List.mem_append.mp ho with ho | ho
        · exact hb o ho
        · rw [List.mem_singleton.mp ho]
          exact id
      exact (noMit_controllerPeriodic_iff _ d).mp (hsilent a c b _ e hl hc hask).1
  · rintro ⟨hlatch, hquiet⟩
    refine ⟨fun a c b hl hc => ?_, fun a c b op e hl hc hb => ?_⟩
    · exact (allPower_staleCycle_iff baseId motorsPerLeg a hc).mpr (hlatch a c b hl hc)
    · have hop : ¬ AsksOn op := hb op (by simp)
      refine ⟨?_, noEnable_apply _ hop⟩
      by_cases hcycle : ∃ d, op = .controllerPeriodic d
      · obtain ⟨d, rfl⟩ := hcycle
        have hnot := hquiet a c b d e hl hc fun o ho => hb o (by simp [ho])
        exact (noMit_controllerPeriodic_iff _ d).mpr hnot
      · exact noMit_apply _ (fun d hd => hcycle ⟨d, hd⟩) hop

/-- The controller wrote its last command right after boot. -/
def staleShm : SharedMemoryLayout :=
  { goodShm with cmd_buffers := fun _ => { enabled := fun _ => 1, timestamp_ns := 1 } }

/-- A leg is enabled, and meets the command of a controller that was killed long ago. -/
def killed : List LegOp :=
  [.setShmPointers true true, .setEnable true, .controllerPeriodic ⟨staleShm, 200000000, 200000001⟩]

/-- Its motors stay on. -/
theorem killed_stays_on : ¬ OffUntilEnabled (start 1 6) killed := by
  intro h
  have hstale : StaleCycle (run step (start 1 6) [.setShmPointers true true, .setEnable true]).leg
      ⟨staleShm, 200000000, 200000001⟩ :=
    ⟨by decide, by decide, by decide, { enabled := fun _ => 1, timestamp_ns := 1 }, rfl, by decide⟩
  have hoff := h.off [.setShmPointers true true, .setEnable true] _ [] rfl hstale 1 (by decide)
  revert hoff
  decide

end Kuavo.StaleCommand
