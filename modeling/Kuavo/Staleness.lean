import Kuavo.Robot

/-!
What a staleness check says of a source that has just changed.

A check keeps the time it sampled while it loads the three change times, so a store that
falls in between may leave a time that lies ahead; the unsigned difference then wraps, and
the source that changed last of all counts as stale.
-/

namespace Kuavo.Staleness

open Kuavo.Composer Kuavo.Lib.Runs

def timeout_ns (s : Source) : ℕ := s.timeout_ms.toNat * 1000000

/-- The change lies less than the timeout before the sampled time, or after it. -/
def Fresh (s : Source) (now last : UInt64) : Prop := now.toNat < last.toNat + timeout_ns s

/-- The difference does not wrap, and no time is zero while the clock still counts up to the
first timeout. -/
structure Benign (s : Source) (now last : UInt64) : Prop where
  not_ahead : last ≤ now
  not_zero : last = 0 → timeout_ns s ≤ now.toNat

lemma timeout_le_elapsed {s : Source} {now last : UInt64} (hlast : last ≠ 0) (h : last ≤ now) :
    s.timeout_ms ≤ elapsed_ms now last ↔ last.toNat + timeout_ns s ≤ now.toNat := by
  have hle : last.toNat ≤ now.toNat := UInt64.le_iff_toNat_le.mp h
  have hsub : (now - last).toNat = now.toNat - last.toNat := UInt64.toNat_sub_of_le _ _ h
  have hdiv : ((now - last) / 1000000).toNat = (now.toNat - last.toNat) / 1000000 := by
    rw [UInt64.toNat_div, hsub]
    rfl
  unfold elapsed_ms timeout_ns
  rw [if_neg hlast, UInt64.le_iff_toNat_le, hdiv, Nat.le_div_iff_mul_le (by omega)]
  omega

/-- **One load.** A fresh source is passed over, without a wrap, exactly where the loaded time
is benign. -/
theorem fresh_passed_iff (s : Source) (now last : UInt64) :
    (Fresh s now last → ¬ s.timeout_ms ≤ elapsed_ms now last ∧ last ≤ now) ↔
      Benign s now last := by
  by_cases hzero : last = 0
  · subst hzero
    have hreport : s.timeout_ms ≤ elapsed_ms now 0 := by
      have hmax : elapsed_ms now 0 = 0xFFFFFFFFFFFFFFFF := if_pos rfl
      rw [hmax]
      cases s <;> decide
    refine ⟨fun h => ⟨UInt64.zero_le, fun _ => ?_⟩, fun h hfresh => ?_⟩
    · by_contra hlt
      exact (h (by unfold Fresh; simpa using hlt)).1 hreport
    · have hbound := h.not_zero rfl
      unfold Fresh at hfresh
      simp only [UInt64.toNat_zero, Nat.zero_add] at hfresh
      omega
  · refine ⟨fun h => ⟨?_, fun h0 => absurd h0 hzero⟩, fun h hfresh => ⟨?_, h.not_ahead⟩⟩
    · by_contra hahead
      have hlt : now.toNat < last.toNat := by
        rw [UInt64.le_iff_toNat_le] at hahead
        omega
      exact hahead (h (by unfold Fresh; omega)).2
    · rw [timeout_le_elapsed hzero h.not_ahead]
      unfold Fresh at hfresh
      omega

/-! ### Loads of a run -/

/-- What a check has loaded so far: the time it sampled, a source, the time it loaded for it
and the mask. -/
inductive Loaded (st : System) : UInt64 → Source → UInt64 → UInt8 → Prop
  | done (c : Check) (h : c ∈ st.checks) (s : Source) : Loaded st c.now s (c.loaded s) c.mask
  | loading (now : UInt64) (loaded : Source → UInt64) (mask : UInt8) (rest : List Source)
      (h : st.checkPc = .loading now loaded mask rest) (s : Source) (hs : s ∉ rest) :
      Loaded st now s (loaded s) mask

/-- What the step loads, if it is a load, is benign. -/
def LoadBenign (st : System) (i : Input) : Prop :=
  i = .checkStep → ∀ now loaded mask s rest, st.checkPc = .loading now loaded mask (s :: rest) →
    Benign s now (st.composer.last_change_ns s)

lemma loaded_reports {st : System} (h : ChecksOk st) {now last : UInt64} {s : Source}
    {mask : UInt8} (hl : Loaded st now s last mask) :
    Reports mask s ↔ s.timeout_ms ≤ elapsed_ms now last := by
  cases hl with
  | done c hc s => exact h.done c hc s
  | loading now loaded mask rest hpc s hs =>
    rw [(h.loading _ _ _ _ hpc).mask s]
    simp [hs]

lemma loaded_congr {st st' : System} (h : st'.checks = st.checks ∧ st'.checkPc = st.checkPc)
    {now last : UInt64} {s : Source} {mask : UInt8} :
    Loaded st' now s last mask ↔ Loaded st now s last mask := by
  obtain ⟨hchecks, hpc⟩ := h
  constructor
  · intro hl
    cases hl with
    | done c hc s => exact .done c (hchecks ▸ hc) s
    | loading now loaded mask rest h s hs => exact .loading now loaded mask rest (hpc ▸ h) s hs
  · intro hl
    cases hl with
    | done c hc s => exact .done c (hchecks ▸ hc) s
    | loading now loaded mask rest h s hs => exact .loading now loaded mask rest (hpc ▸ h) s hs

/-- No load is lost. -/
lemma loaded_kept {st : System} (i : Input) {now last : UInt64} {s : Source} {mask : UInt8}
    (h : Loaded st now s last mask) : ∃ mask', Loaded (step st i) now s last mask' := by
  cases i with
  | tick t => exact ⟨mask, (loaded_congr (checks_step st (by simp) (by simp))).mpr h⟩
  | compose sequence => exact ⟨mask, (loaded_congr (checks_step st (by simp) (by simp))).mpr h⟩
  | composeStep => exact ⟨mask, (loaded_congr (checks_step st (by simp) (by simp))).mpr h⟩
  | check =>
    rcases hpc : st.checkPc with _ | ⟨now', loaded, mask', rest⟩
    · cases h with
      | done c hc s => exact ⟨c.mask, .done c (by simpa [step, hpc] using hc) s⟩
      | loading now loaded mask rest h s hs => simp [hpc] at h
    · exact ⟨mask, (loaded_congr ⟨by simp [step, hpc], by simp [step, hpc]⟩).mpr h⟩
  | checkStep =>
    rcases hpc : st.checkPc with _ | ⟨now', loaded', mask', _ | ⟨s', rest'⟩⟩
    · exact ⟨mask, (loaded_congr ⟨by simp [step, hpc], by simp [step, hpc]⟩).mpr h⟩
    · cases h with
      | done c hc s => exact ⟨c.mask, .done c (by simp [step, hpc, hc]) s⟩
      | loading now loaded mask rest h s hs =>
        -- the check returns with what it loaded
        rw [hpc] at h
        obtain ⟨rfl, rfl, rfl, rfl⟩ := CheckPc.loading.inj h
        exact ⟨mask', .done ⟨now', loaded', mask'⟩ (by simp [step, hpc]) s⟩
    · cases h with
      | done c hc s => exact ⟨c.mask, .done c (by simpa [step, hpc] using hc) s⟩
      | loading now loaded mask rest h s hs =>
        rw [hpc] at h
        obtain ⟨rfl, rfl, rfl, rfl⟩ := CheckPc.loading.inj h
        obtain ⟨hne, hrest⟩ : s ≠ s' ∧ s ∉ rest' := by simpa using hs
        refine ⟨checkSource now' (st.composer.last_change_ns s') s' mask', ?_⟩
        have hkeep : loaded' s =
            Function.update loaded' s' (st.composer.last_change_ns s') s :=
          (Function.update_of_ne hne _ _).symm
        rw [hkeep]
        exact .loading _ _ _ rest' (by simp [step, hpc]) s hrest

/-- Whatever a step adds is the load that it made. -/
lemma loaded_new {st : System} (i : Input) {now last : UInt64} {s : Source} {mask : UInt8}
    (h : Loaded (step st i) now s last mask) :
    (∃ mask', Loaded st now s last mask') ∨
      (i = .checkStep ∧ last = st.composer.last_change_ns s ∧
        ∃ loaded mask' rest, st.checkPc = .loading now loaded mask' (s :: rest)) := by
  cases i with
  | tick t => exact Or.inl ⟨mask, (loaded_congr (checks_step st (by simp) (by simp))).mp h⟩
  | compose sequence =>
    exact Or.inl ⟨mask, (loaded_congr (checks_step st (by simp) (by simp))).mp h⟩
  | composeStep => exact Or.inl ⟨mask, (loaded_congr (checks_step st (by simp) (by simp))).mp h⟩
  | check =>
    rcases hpc : st.checkPc with _ | ⟨now', loaded', mask', rest'⟩
    · cases h with
      | done c hc s => exact Or.inl ⟨c.mask, .done c (by simpa [step, hpc] using hc) s⟩
      | loading now loaded mask rest h s hs =>
        simp only [step, hpc] at h
        obtain ⟨-, -, -, rfl⟩ := CheckPc.loading.inj h
        cases s <;> simp [sources] at hs
    · have hsame : step st .check = st := by simp [step, hpc]
      rw [hsame] at h
      exact Or.inl ⟨mask, h⟩
  | checkStep =>
    rcases hpc : st.checkPc with _ | ⟨now', loaded', mask', _ | ⟨s', rest'⟩⟩
    · have hsame : step st .checkStep = st := by simp [step, hpc]
      rw [hsame] at h
      exact Or.inl ⟨mask, h⟩
    · cases h with
      | done c hc s =>
        simp only [step, hpc] at hc
        rcases List.mem_append.mp hc with hold | hnew
        · exact Or.inl ⟨c.mask, .done c hold s⟩
        · rw [List.mem_singleton.mp hnew]
          exact Or.inl ⟨mask', .loading now' loaded' mask' [] hpc s (by simp)⟩
      | loading now loaded mask rest h s hs => simp [step, hpc] at h
    · cases h with
      | done c hc s => exact Or.inl ⟨c.mask, .done c (by simpa [step, hpc] using hc) s⟩
      | loading now loaded mask rest h s hs =>
        simp only [step, hpc] at h
        obtain ⟨rfl, rfl, -, rfl⟩ := CheckPc.loading.inj h
        by_cases hs' : s = s'
        · subst hs'
          exact Or.inr ⟨rfl, by simp, loaded', mask', rest', rfl⟩
        · rw [Function.update_of_ne hs']
          exact Or.inl ⟨mask', .loading now' loaded' mask' (s' :: rest') hpc s (by simp [hs', hs])⟩

/-! ### Fresh sources -/

/-- A check, done or under way, passes over every fresh source it has loaded, without a wrap;
and on what a finished check says the main loop disables no leg whose group is fresh. -/
structure FreshPassed (st : System) : Prop where
  loaded : ∀ now s last mask, Loaded st now s last mask → Fresh s now last →
    ¬ Reports mask s ∧ last ≤ now
  legs : ∀ c ∈ st.checks, ∀ s : Side, Fresh s.group c.now (c.loaded s.group) →
    ∀ (r : Robot) (it : Iteration), it.stale = c.mask →
      ((r.robotPeriodic it).leg s).leg.isEnabled = (r.leg s).leg.isEnabled

lemma freshPassed_of_loaded {st : System} (h : ChecksOk st)
    (hl : ∀ now s last mask, Loaded st now s last mask → Benign s now last) : FreshPassed st := by
  have hpass : ∀ now s last mask, Loaded st now s last mask → Fresh s now last →
      ¬ Reports mask s ∧ last ≤ now := by
    intro now s last mask hload hfresh
    rw [loaded_reports h hload]
    exact (fresh_passed_iff s now last).mpr (hl now s last mask hload) hfresh
  refine ⟨hpass, fun c hc s hfresh r it hit => ?_⟩
  have hquiet := (hpass _ _ _ _ (.done c hc s.group) hfresh).1
  rw [Robot.isEnabled_robotPeriodic, hit]
  simp [hquiet]

lemma benign_of_freshPassed {st : System} (h : ChecksOk st) (hf : FreshPassed st)
    {now last : UInt64} {s : Source} {mask : UInt8} (hl : Loaded st now s last mask) :
    Benign s now last := by
  refine (fresh_passed_iff s now last).mp fun hfresh => ?_
  rw [← loaded_reports h hl]
  exact hf.loaded now s last mask hl hfresh

/-- The loads at the end of a run are those of its steps. -/
lemma loaded_run_iff (t0 : UInt64) (l : List Input) :
    (∀ now s last mask, Loaded (run step (startSystem t0) l) now s last mask →
      Benign s now last) ↔ Each step LoadBenign (startSystem t0) l := by
  induction l using List.reverseRecOn with
  | nil =>
    refine ⟨fun _ => trivial, fun _ now s last mask h => ?_⟩
    cases h with
    | done c hc s => simp [startSystem] at hc
    | loading now loaded mask rest h s hs => simp [startSystem] at h
  | append_singleton l i ih =>
    rw [each_append, ← ih, run_concat]
    refine ⟨fun h => ⟨fun now s last mask hl => ?_, ?_, trivial⟩, ?_⟩
    · obtain ⟨mask', hl'⟩ := loaded_kept i hl
      exact h now s last mask' hl'
    · rintro rfl now loaded mask s rest hpc
      have hs : s ∉ rest := by
        have hnodup := nodup_of_suffix ((checksOk_run t0 l).loading _ _ _ _ hpc).suffix
        exact (List.nodup_cons.mp hnodup).1
      have hload : Loaded (step (run step (startSystem t0) l) .checkStep) now s
          (Function.update loaded s
            ((run step (startSystem t0) l).composer.last_change_ns s) s) _ :=
        .loading now _ _ rest (by simp only [step, hpc]; rfl) s hs
      rw [Function.update_self] at hload
      exact h _ _ _ _ hload
    · rintro ⟨hold, hnew, -⟩ now s last mask hl
      rcases loaded_new i hl with ⟨mask', hl'⟩ | ⟨hi, rfl, loaded, mask', rest, hpc⟩
      · exact hold now s last mask' hl'
      · exact hnew hi now loaded mask' s rest hpc

/-- **Fresh sources** are never reported, no difference wraps and no leg with a fresh motor
group is disabled, in a run of both threads, exactly when no load finds a time that a compose
cycle stored after the check sampled a smaller one, or a time of zero that the clock has hardly
left. -/
theorem fresh_passed_run_iff (t0 : UInt64) (l : List Input) :
    FreshPassed (run step (startSystem t0) l) ↔ Each step LoadBenign (startSystem t0) l := by
  rw [← loaded_run_iff]
  refine ⟨fun h now s last mask hl => ?_, fun h => ?_⟩
  · exact benign_of_freshPassed (checksOk_run t0 l) h hl
  · exact freshPassed_of_loaded (checksOk_run t0 l) h

/-- A compose cycle stores the change of a motor group between the clock reading of a check
and its load. -/
def storeInCheck : List Input :=
  [.check, .tick 1000000001, .compose (fun _ => 1), .composeStep, .composeStep, .checkStep,
    .checkStep, .checkStep, .checkStep]

/-- The group has just changed, and it is reported. -/
theorem fresh_reported : ¬ FreshPassed (run step (startSystem 1000000000) storeInCheck) := by
  intro h
  have hrun : (run step (startSystem 1000000000) storeInCheck).checks.map
      (fun c => (c.now, c.loaded .motor_group_a, c.mask)) = [(1000000000, 1000000001, 3)] := by
    decide
  obtain ⟨c, hc, hvalues⟩ := List.map_eq_singleton_iff.mp hrun
  simp only [Prod.mk.injEq] at hvalues
  obtain ⟨hnow, hlast, -⟩ := hvalues
  have hload := h.loaded c.now .motor_group_a (c.loaded .motor_group_a) c.mask
    (.done c (by rw [hc]; simp) .motor_group_a)
  rw [hnow, hlast] at hload
  exact absurd (hload (by unfold Fresh; decide)).2 (by decide)

/-! ### Where no store falls into a check -/

/-- No compose cycle takes a step while a check is under way. -/
def NoStoreInCheck (st : System) (i : Input) : Prop := i = .composeStep → st.checkPc = .idle

/-- Times never lie past the clock, those that a check has still to load never past the time it
sampled, and no time it sampled lies before the start. -/
structure InTime (t0 : UInt64) (st : System) : Prop where
  clock : t0 ≤ st.clock
  last : ∀ s, st.composer.last_change_ns s ≤ st.clock
  tracking : ∀ now rest, st.composePc = .tracking now rest → now ≤ st.clock
  loading : ∀ now loaded mask rest, st.checkPc = .loading now loaded mask rest →
    t0 ≤ now ∧ ∀ s, st.composer.last_change_ns s ≤ now

lemma track_le {c : ChangeTimes} {now bound : UInt64} (hc : ∀ s, c.last_change_ns s ≤ bound)
    (hnow : now ≤ bound) (s : Source) (sequence : UInt64) (t : Source) :
    (track c now s sequence).last_change_ns t ≤ bound := by
  unfold track
  split_ifs
  · by_cases h : t = s
    · subst h
      simpa using hnow
    · simpa [Function.update_of_ne h] using hc t
  · exact hc t

lemma inTime_step {t0 : UInt64} {st : System} (i : Input) (h : InTime t0 st)
    (hi : NoStoreInCheck st i) : InTime t0 (step st i) := by
  obtain ⟨hclock, hlast, htrack, hload⟩ := h
  cases i with
  | tick t =>
    have hmono : st.clock ≤ (step st (.tick t)).clock := by
      simp only [step]
      split_ifs with h
      · exact h
      · exact UInt64.le_refl _
    exact ⟨UInt64.le_trans hclock hmono, fun s => UInt64.le_trans (hlast s) hmono,
      fun now rest he => UInt64.le_trans (htrack now rest he) hmono, hload⟩
  | compose sequence =>
    rcases hpc : st.composePc with _ | _
    · simp only [step, hpc]
      refine ⟨hclock, hlast, fun now rest he => ?_, hload⟩
      rw [← (ComposePc.tracking.inj he).1]
      exact UInt64.le_refl _
    · simp only [step, hpc]
      exact ⟨hclock, hlast, htrack, hload⟩
  | composeStep =>
    have hidle : st.checkPc = .idle := hi rfl
    rcases hpc : st.composePc with _ | ⟨now, _ | ⟨⟨s, sequence⟩, rest⟩⟩
    · simp only [step, hpc]
      exact ⟨hclock, hlast, htrack, hload⟩
    · simp only [step, hpc]
      exact ⟨hclock, hlast, fun _ _ he => by simp at he, hload⟩
    · simp only [step, hpc]
      have hnow := htrack now _ hpc
      refine ⟨hclock, track_le hlast hnow s sequence, fun now' rest' he => ?_,
        fun _ _ _ _ he => ?_⟩
      · rw [← (ComposePc.tracking.inj he).1]
        exact hnow
      · rw [hidle] at he
        simp at he
  | check =>
    rcases hpc : st.checkPc with _ | _
    · simp only [step, hpc]
      refine ⟨hclock, hlast, htrack, fun now loaded mask rest he => ?_⟩
      rw [← (CheckPc.loading.inj he).1]
      exact ⟨hclock, hlast⟩
    · simp only [step, hpc]
      exact ⟨hclock, hlast, htrack, hload⟩
  | checkStep =>
    rcases hpc : st.checkPc with _ | ⟨now, loaded, mask, _ | ⟨s, rest⟩⟩
    · simp only [step, hpc]
      exact ⟨hclock, hlast, htrack, hload⟩
    · simp only [step, hpc]
      exact ⟨hclock, hlast, htrack, fun _ _ _ _ he => by simp at he⟩
    · simp only [step, hpc]
      refine ⟨hclock, hlast, htrack, fun now' loaded' mask' rest' he => ?_⟩
      rw [← (CheckPc.loading.inj he).1]
      exact hload _ _ _ _ hpc

/-- **Without preemption** of a check by a compose cycle every fresh source is passed over, on a
clock that has passed the timeouts. -/
theorem freshPassed_of_noStoreInCheck (t0 : UInt64) (ht0 : ∀ s, timeout_ns s ≤ t0.toNat)
    (l : List Input) (h : Each step NoStoreInCheck (startSystem t0) l) :
    FreshPassed (run step (startSystem t0) l) := by
  have hstart : InTime t0 (startSystem t0) :=
    ⟨UInt64.le_refl _, fun _ => UInt64.le_refl _, fun _ _ he => by simp [startSystem] at he,
      fun _ _ _ _ he => by simp [startSystem] at he⟩
  have hbenign : ∀ st i, InTime t0 st → NoStoreInCheck st i → LoadBenign st i := by
    intro st i hin _ _ now loaded mask s rest hpc
    obtain ⟨hnow, hlast⟩ := hin.loading _ _ _ _ hpc
    refine ⟨hlast s, fun _ => ?_⟩
    exact (ht0 s).trans (UInt64.le_iff_toNat_le.mp hnow)
  have heach : Each step LoadBenign (startSystem t0) l :=
    h.imp (fun _ i hin hi => inTime_step i hin hi) hbenign hstart
  exact freshPassed_of_loaded (checksOk_run t0 l) ((loaded_run_iff t0 l).mpr heach)

end Kuavo.Staleness
