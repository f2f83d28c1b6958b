import Kuavo.IterativeRobotBase
import Kuavo.Lib.Runs

/-!
The main loop under a stream of packets.

Through all the pointers of the driver station, an iteration samples the control word of the
latest packet, or a zeroed one while that packet says that no driver station is attached. A
zeroed word asks for teleoperation like any other.
-/

namespace Kuavo.ModeChange

open Kuavo.Lib.Runs Kuavo.FRCDriverStation Kuavo.IterativeRobotBase

inductive Input
  | packet (payload : Payload)
  /-- `HAL_RefreshDSData` outside the loop, as the constructor of `RobotBase` calls it. -/
  | refresh
  | loop

structure MainLoop where
  ds : FRCDriverStation := {}
  base : IterativeRobotBase := {}

/-- Before any packet and any iteration. -/
def start : MainLoop := {}

/-- The word an iteration samples. -/
def sampled (st : MainLoop) : HAL_ControlWord := st.ds.HAL_RefreshDSData.1.newestControlWord

/-- The calls an iteration makes. -/
def calls (st : MainLoop) : List Callback := (st.base.loopFunc (sampled st)).2

def step (signed : Bool) (st : MainLoop) : Input → MainLoop
  | .packet payload => { st with ds := st.ds.newDataOccur signed payload }
  | .refresh => { st with ds := st.ds.HAL_RefreshDSData.1 }
  | .loop => { ds := st.ds.HAL_RefreshDSData.1, base := (st.base.loopFunc (sampled st)).1 }

/-- The word lets motors be driven. -/
def Live (w : HAL_ControlWord) : Prop :=
  w.enabled = true ∧ w.dsAttached = true ∧ w.eStop = false

/-! ### What packets come to -/

/-- A word counts only while its driver station is attached. -/
def effective (w : HAL_ControlWord) : HAL_ControlWord := if w.dsAttached then w else {}

lemma zero_dsAttached : HAL_ControlWord.dsAttached {} = false := by decide

lemma effective_eq_zero_iff (w : HAL_ControlWord) : effective w = {} ↔ w.dsAttached = false := by
  unfold effective
  rcases h : w.dsAttached with _ | _
  · simp
  · simp only [if_true, Bool.true_eq_false, iff_false]
    rintro rfl
    rw [zero_dsAttached] at h
    exact Bool.false_ne_true h

/-- What the history of inputs says: the control word of the latest packet, zero before the
first, and the mode of the previous iteration. -/
structure Seen where
  word : HAL_ControlWord := {}
  mode : Mode := .kNone

def see (s : Seen) : Input → Seen
  | .packet payload => { s with word := ⟨payload 3⟩ }
  | .refresh => s
  | .loop => { s with mode := modeOf (effective s.word) }

/-- The caches and the main loop say what the history says. -/
structure Synced (st : MainLoop) (s : Seen) : Prop where
  mode : st.base.m_lastMode = s.mode
  word : effective (st.ds.caches st.ds.lastGiven).controlWord = effective s.word
  cache : st.ds.currentCache = none ∨ st.ds.currentCache = some st.ds.lastGiven
  /-- The readers' cache is the latest one, but for the time before the first packet. -/
  read : st.ds.currentCache = none → st.ds.currentRead = st.ds.lastGiven ∨
    (st.ds.caches st.ds.lastGiven).controlWord.dsAttached = false

lemma synced_start : Synced start {} :=
  ⟨rfl, rfl, Or.inl rfl, fun _ => Or.inr zero_dsAttached⟩

/-- With a driver station attached, a refresh makes the latest cache the readers' one. -/
lemma nextRead_eq {st : MainLoop} {s : Seen} (h : Synced st s)
    (hatt : (st.ds.caches st.ds.lastGiven).controlWord.dsAttached = true) :
    st.ds.nextRead = st.ds.lastGiven := by
  unfold nextRead
  rcases h.cache with hc | hc
  · rcases h.read hc with hr | hr
    · rw [hc, Option.getD_none, hr]
    · rw [hatt] at hr
      exact absurd hr.symm Bool.false_ne_true
  · rw [hc, Option.getD_some]

/-- **Sampling.** An iteration samples the latest word, if its driver station is attached. -/
lemma sampled_eq {st : MainLoop} {s : Seen} (h : Synced st s) : sampled st = effective s.word := by
  rw [← h.word]
  unfold sampled
  rcases hatt : (st.ds.caches st.ds.lastGiven).controlWord.dsAttached with _ | _
  · rw [refresh_detached hatt, (effective_eq_zero_iff _).mpr hatt]
  · rw [refresh_attached hatt, nextRead_eq h hatt, effective, if_pos hatt]

lemma synced_refresh {st : MainLoop} {s : Seen} (h : Synced st s) :
    Synced { st with ds := st.ds.HAL_RefreshDSData.1 } s := by
  rcases hatt : (st.ds.caches st.ds.lastGiven).controlWord.dsAttached with _ | _
  · -- not attached: the latest word is zeroed, or stays as unattached as it was
    rw [refresh_detached hatt]
    have hdead : ((Function.update st.ds.caches st.ds.nextRead
        { st.ds.caches st.ds.nextRead with controlWord := {} })
        st.ds.lastGiven).controlWord.dsAttached = false := by
      by_cases hr : st.ds.lastGiven = st.ds.nextRead
      · rw [← hr, Function.update_self]
        exact zero_dsAttached
      · rw [Function.update_of_ne hr]
        exact hatt
    refine ⟨h.mode, ?_, Or.inl rfl, fun _ => Or.inr hdead⟩
    rw [← h.word, (effective_eq_zero_iff _).mpr hatt]
    exact (effective_eq_zero_iff _).mpr hdead
  · rw [refresh_attached hatt]
    exact ⟨h.mode, h.word, Or.inl rfl, fun _ => Or.inl (nextRead_eq h hatt)⟩

lemma synced_packet {st : MainLoop} {s : Seen} (h : Synced st s) (signed : Bool)
    (payload : Payload) :
    Synced { st with ds := st.ds.newDataOccur signed payload } { s with word := ⟨payload 3⟩ } := by
  unfold newDataOccur
  rcases hc : st.ds.currentCache with _ | prev
  · refine ⟨h.mode, ?_, Or.inr rfl, fun hn => by simp at hn⟩
    simp [JoystickDataCache.Update]
  · refine ⟨h.mode, ?_, Or.inr rfl, fun hn => by simp at hn⟩
    simp [JoystickDataCache.Update]

/-- **Refinement.** Every step of the main loop and of the packet thread keeps to the history. -/
theorem synced_step {signed : Bool} {st : MainLoop} {s : Seen} (h : Synced st s) (i : Input) :
    Synced (step signed st i) (see s i) := by
  cases i with
  | packet payload => exact synced_packet h signed payload
  | refresh => exact synced_refresh h
  | loop =>
    have hmode : ((st.base.loopFunc (sampled st)).1).m_lastMode = modeOf (effective s.word) := by
      rw [loopFunc_lastMode, sampled_eq h]
    obtain ⟨-, hword, hcache, hread⟩ := synced_refresh h
    exact ⟨hmode, hword, hcache, hread⟩

theorem synced_run (signed : Bool) (l : List Input) :
    Synced (run (step signed) start l) (run see {} l) := by
  induction l using List.reverseRecOn with
  | nil => exact synced_start
  | append_singleton l i ih =>
    rw [run_concat, run_concat]
    exact synced_step ih i

/-! ### Mode changes -/

/-- Whatever iteration of the history enables the legs has sampled a live word. -/
def OnlyLive (signed : Bool) (l : List Input) : Prop :=
  ∀ a b, l = a ++ .loop :: b → EnablesLegs (calls (run (step signed) start a)) →
    Live (sampled (run (step signed) start a))

/-- An iteration enables the legs on a change into a mode, and nothing else is asked of the
word. -/
lemma enablesLegs_run_iff (signed : Bool) (l : List Input) :
    EnablesLegs (calls (run (step signed) start l)) ↔
      modeOf (effective (run see {} l).word) ≠ .kNone ∧
      (run see {} l).mode ≠ modeOf (effective (run see {} l).word) := by
  have hsync := synced_run signed l
  unfold calls
  rw [enablesLegs_loopFunc, sampled_eq hsync, hsync.mode]

/-- **Enabling by mode changes.** In a history of packets and iterations the legs are enabled on
live words only, exactly when every iteration on a word that is not live asks for no mode or for
the mode of the iteration before. -/
theorem enables_only_live_iff (signed : Bool) (l : List Input) :
    OnlyLive signed l ↔
    (∀ a b, l = a ++ .loop :: b → ¬ Live (effective (run see {} a).word) →
      modeOf (effective (run see {} a).word) = .kNone ∨
      modeOf (effective (run see {} a).word) = (run see {} a).mode) := by
  refine ⟨fun h a b hl hdead => ?_, fun h a b hl hen => ?_⟩
  · by_contra hboth
    obtain ⟨hnone, hsame⟩ := not_or.mp hboth
    refine hdead ?_
    rw [← sampled_eq (synced_run signed a)]
    exact h a b hl ((enablesLegs_run_iff signed a).mpr ⟨hnone, Ne.symm hsame⟩)
  · obtain ⟨hnone, hchange⟩ := (enablesLegs_run_iff signed a).mp hen
    rw [sampled_eq (synced_run signed a)]
    by_contra hdead
    rcases h a b hl hdead with hn | hs
    · exact hnone hn
    · exact hchange hs.symm

/-- A packet of a driver station that is attached and leaves the robot disabled. -/
def disabledPacket : Payload := fun i => if i = 3 then 0x20 else 0

/-- The first iteration enables the legs, before any packet as well as on a disabled robot. -/
theorem first_iteration_enables :
    ¬ OnlyLive false [.loop] ∧ ¬ OnlyLive false [.packet disabledPacket, .refresh, .loop] := by
  refine ⟨fun h => ?_, fun h => ?_⟩
  · have hlive := h [] [] rfl (by unfold EnablesLegs; decide)
    exact absurd hlive.1 (by decide)
  · have hlive := h [.packet disabledPacket, .refresh] [] rfl (by unfold EnablesLegs; decide)
    exact absurd hlive.1 (by decide)

end Kuavo.ModeChange
