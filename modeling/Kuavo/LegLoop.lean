import Kuavo.ControlledSubsystem

/-!
The schedule that `ControlledSubsystemBase::Run` keeps by the monotonic clock.

The thread of `Kuavo.ControlledSubsystem` reads the clock twice in a turn of its loop, and
wakes by it. Delays, wherever they come from, show in the readings.
-/

namespace Kuavo.LegLoop

open Kuavo.Lib.Runs Kuavo.ControlledSubsystem

/-- What `clock_gettime` gives: the kernel counts nanoseconds in a signed number of 64 bits. -/
structure Timespec where
  tv_sec : ℕ
  tv_nsec : ℕ
  nsec_lt : tv_nsec < 1000000000
  in_range : tv_sec * 1000000000 + tv_nsec < 0x8000000000000000

def monotonic_ns (ts : Timespec) : UInt64 :=
  UInt64.ofNat ts.tv_sec * 1000000000 + UInt64.ofNat ts.tv_nsec

def PERIOD_NS : UInt64 := 2500000

structure State (P T : Type*) where
  base : ControlledSubsystem.State P T
  next_wake_ns : UInt64
  /-- The last reading. -/
  now_ns : UInt64
  timeout_ms : UInt64 := 0
  /-- When `controllerPeriodic` was executed, in order. -/
  executed : List UInt64 := []

variable {P T : Type*} [DecidableEq P]

/-- The wait is rounded up to milliseconds. -/
def timeout (next_wake_ns now_ns : UInt64) : UInt64 :=
  if next_wake_ns > now_ns then (next_wake_ns - now_ns + 999999) / 1000000 else 0

/-- The next wake time after an execution. -/
def advance (next_wake_ns now_ns : UInt64) : UInt64 :=
  let next_wake_ns := next_wake_ns + PERIOD_NS
  if next_wake_ns < now_ns then now_ns + PERIOD_NS else next_wake_ns

/-- At the entry of `Run`. -/
def entry (base : ControlledSubsystem.State P T) (first : Timespec) : State P T where
  base := { base with runPc := .head }
  next_wake_ns := monotonic_ns first
  now_ns := monotonic_ns first

/-- A step of the thread; the clock is read at the head of the loop and before the test
whether a period has begun. -/
def runStep (s : State P T) (poll : PollResult) (reading : Timespec) : State P T :=
  match s.base.runPc with
  | .head =>
    let now_ns := monotonic_ns reading
    if s.base.m_entryThreadRunning then
      { s with
        base := ControlledSubsystem.runStep s.base poll false
        now_ns := now_ns
        timeout_ms := timeout s.next_wake_ns now_ns }
    else { s with base := ControlledSubsystem.runStep s.base poll false }
  | .periodic =>
    let now_ns := monotonic_ns reading
    { s with
      base := ControlledSubsystem.runStep s.base poll (decide (now_ns ≥ s.next_wake_ns))
      now_ns := now_ns }
  | .controllerPeriodic =>
    { s with
      base := ControlledSubsystem.runStep s.base poll false
      next_wake_ns := advance s.next_wake_ns s.now_ns
      executed := s.executed ++ [s.now_ns] }
  | _ => { s with base := ControlledSubsystem.runStep s.base poll false }

/-- The thread takes a step, or another one does. -/
inductive Turn (P T : Type*)
  | run (poll : PollResult) (reading : Timespec)
  | other (i : Input P T)

/-- Within one `Run` the thread is not started again. -/
def step (s : State P T) : Turn P T → State P T
  | .run poll reading => runStep s poll reading
  | .other (.runStep _ _) => s
  | .other (.startThread _) => s
  | .other i => { s with base := ControlledSubsystem.step s.base i }

/-- The clock does not go back. -/
def InOrder (s : State P T) : Turn P T → Prop
  | .run _ reading => s.now_ns ≤ monotonic_ns reading
  | .other _ => True

instance (s : State P T) (i : Turn P T) : Decidable (InOrder s i) :=
  match i with
  | .run _ reading => inferInstanceAs (Decidable (s.now_ns ≤ monotonic_ns reading))
  | .other _ => isTrue trivial

/-! ### Wake times -/

lemma toNat_monotonic_ns (ts : Timespec) :
    (monotonic_ns ts).toNat = ts.tv_sec * 1000000000 + ts.tv_nsec := by
  have hrange : ts.tv_sec * 1000000000 + ts.tv_nsec < 18446744073709551616 :=
    Nat.lt_trans ts.in_range (by decide)
  have hns := ts.nsec_lt
  have hmul : ts.tv_sec * 1000000000 < 18446744073709551616 :=
    Nat.lt_of_le_of_lt (Nat.le_add_right _ _) hrange
  have hsec : ts.tv_sec < 18446744073709551616 :=
    Nat.lt_of_le_of_lt (Nat.le_mul_of_pos_right _ (by decide)) hmul
  rw [monotonic_ns, UInt64.toNat_add, UInt64.toNat_mul, UInt64.toNat_ofNat', UInt64.toNat_ofNat']
  change (ts.tv_sec % 18446744073709551616 * 1000000000 % 18446744073709551616 +
    ts.tv_nsec % 18446744073709551616) % 18446744073709551616 = _
  rw [Nat.mod_eq_of_lt hsec, Nat.mod_eq_of_lt hmul,
    Nat.mod_eq_of_lt (show ts.tv_nsec < 18446744073709551616 by omega), Nat.mod_eq_of_lt hrange]

lemma toNat_monotonic_ns_lt (ts : Timespec) : (monotonic_ns ts).toNat < 9223372036854775808 := by
  rw [toNat_monotonic_ns]
  exact ts.in_range

lemma toNat_add_period {t : UInt64} (ht : t.toNat < 9223372036854775808 + 2500000) :
    (t + PERIOD_NS).toNat = t.toNat + 2500000 := by
  rw [UInt64.toNat_add]
  exact Nat.mod_eq_of_lt (show t.toNat + 2500000 < 18446744073709551616 by omega)

/-- Far from the end of the range, the next wake time is a period after the last one or after
the reading, whichever is not over. -/
lemma toNat_advance {wake now : UInt64} (hnow : now.toNat < 9223372036854775808)
    (hwake : wake.toNat ≤ now.toNat) :
    (advance wake now).toNat =
      if wake.toNat + 2500000 < now.toNat then now.toNat + 2500000 else wake.toNat + 2500000 := by
  have hwake' : (wake + PERIOD_NS).toNat = wake.toNat + 2500000 := toNat_add_period (by omega)
  have hnow' : (now + PERIOD_NS).toNat = now.toNat + 2500000 := toNat_add_period (by omega)
  simp only [advance, UInt64.lt_iff_toNat_lt, hwake']
  split_ifs
  · exact hnow'
  · exact hwake'

/-- Where the thread is between the test for a new period and the execution. -/
def Due (pc : RunPc T) : Prop :=
  match pc with
  | .enter | .test | .controllerPeriodic => True
  | _ => False

/-- Executions so far, against the wake time that the last of them left. -/
structure Paced (s : State P T) : Prop where
  now_lt : s.now_ns.toNat < 9223372036854775808
  /-- A period has begun when the thread is about to execute. -/
  due : Due s.base.runPc → s.next_wake_ns.toNat ≤ s.now_ns.toNat
  wake_le : s.next_wake_ns.toNat ≤ s.now_ns.toNat + 2500000
  last : ∀ t, s.executed.getLast? = some t →
    t.toNat ≤ s.next_wake_ns.toNat ∧ s.next_wake_ns.toNat ≤ t.toNat + 2500000
  /-- Every execution since moved the wake time on by a period or more. -/
  wake : ∀ i t, s.executed[i]? = some t →
    t.toNat + (s.executed.length - 1 - i) * 2500000 ≤ s.next_wake_ns.toNat
  spread : ∀ i j t u, i < j → s.executed[i]? = some t → s.executed[j]? = some u →
    t.toNat + (j - i - 1) * 2500000 ≤ u.toNat

omit [DecidableEq P] in
lemma paced_entry (base : ControlledSubsystem.State P T) (first : Timespec) :
    Paced (entry base first) where
  now_lt := toNat_monotonic_ns_lt first
  due := fun h => absurd h (by simp [entry, Due])
  wake_le := Nat.le_add_right _ _
  last := fun t h => absurd h (by simp [entry])
  wake := fun i t h => absurd h (by simp [entry])
  spread := fun i j t u _ h => absurd h (by simp [entry])

omit [DecidableEq P] in
/-- Steps that leave the wake time and what was executed, and come to the execution only from
the test. -/
lemma Paced.of_kept {s t : State P T} (h : Paced s) (hwake : t.next_wake_ns = s.next_wake_ns)
    (hexec : t.executed = s.executed) (hnow : s.now_ns.toNat ≤ t.now_ns.toNat)
    (hlt : t.now_ns.toNat < 9223372036854775808)
    (hdue : Due t.base.runPc → t.next_wake_ns.toNat ≤ t.now_ns.toNat) : Paced t where
  now_lt := hlt
  due := hdue
  wake_le := by
    have := h.wake_le
    rw [hwake]
    omega
  last := by
    rw [hexec, hwake]
    exact h.last
  wake := by
    rw [hexec, hwake]
    exact h.wake
  spread := by
    rw [hexec]
    exact h.spread

omit [DecidableEq P] in
/-- An execution. -/
lemma Paced.execute {s t : State P T} (h : Paced s)
    (hdue : s.next_wake_ns.toNat ≤ s.now_ns.toNat)
    (hwake : t.next_wake_ns = advance s.next_wake_ns s.now_ns)
    (hexec : t.executed = s.executed ++ [s.now_ns]) (hnow : t.now_ns = s.now_ns)
    (hpc : ¬ Due t.base.runPc) : Paced t := by
  have hadv := toNat_advance h.now_lt hdue
  rw [← hwake] at hadv
  have hle : s.now_ns.toNat ≤ t.next_wake_ns.toNat := by
    rw [hadv]
    split_ifs <;> omega
  have hle' : t.next_wake_ns.toNat ≤ s.now_ns.toNat + 2500000 := by
    rw [hadv]
    split_ifs <;> omega
  have hstep : s.next_wake_ns.toNat + 2500000 ≤ t.next_wake_ns.toNat := by
    rw [hadv]
    split_ifs <;> omega
  have hentry (i : ℕ) (u : UInt64) (hu : t.executed[i]? = some u) :
      (i < s.executed.length ∧ s.executed[i]? = some u) ∨
        (i = s.executed.length ∧ u = s.now_ns) := by
    rw [hexec, getElem?_concat_iff] at hu
    exact hu.imp_left fun hold => ⟨(List.getElem?_eq_some_iff.mp hold).1, hold⟩
  have hlen : t.executed.length = s.executed.length + 1 := by simp [hexec]
  exact {
    now_lt := hnow ▸ h.now_lt
    due := fun hd => absurd hd hpc
    wake_le := by rw [hnow]; exact hle'
    last := by
      intro u hu
      rw [hexec, List.getLast?_concat] at hu
      obtain rfl := Option.some.inj hu
      exact ⟨hle, hle'⟩
    wake := by
      intro i u hu
      rcases hentry i u hu with ⟨hi, hold⟩ | ⟨rfl, rfl⟩
      · have hw := h.wake i u hold
        have hsplit : t.executed.length - 1 - i = s.executed.length - 1 - i + 1 := by omega
        rw [hsplit, Nat.add_mul, Nat.one_mul, ← Nat.add_assoc]
        exact Nat.le_trans (Nat.add_le_add_right hw _) hstep
      · rw [hlen]
        simpa using hle
    spread := by
      intro i j u v hij hu hv
      rcases hentry j v hv with ⟨hj, hv'⟩ | ⟨rfl, rfl⟩
      · rcases hentry i u hu with ⟨_, hu'⟩ | ⟨rfl, _⟩
        · exact h.spread i j u v hij hu' hv'
        · omega
      · rcases hentry i u hu with ⟨_, hu'⟩ | ⟨rfl, _⟩
        · have hw := h.wake i u hu'
          have hcount : s.executed.length - i - 1 = s.executed.length - 1 - i := by omega
          rw [hcount]
          omega
        · omega }

/-- The other threads leave the thread where it is. -/
lemma runPc_step (s : ControlledSubsystem.State P T) (i : Input P T)
    (hrun : ∀ poll due, i ≠ .runStep poll due) (hstart : ∀ created, i ≠ .startThread created) :
    (ControlledSubsystem.step s i).runPc = s.runPc := by
  cases i with
  | push p item =>
    simp only [ControlledSubsystem.step]
    split <;> rfl
  | pushStep p =>
    have hmove := pushMove_pushStep s p
    simp only [ControlledSubsystem.step]
    generalize pushStep s p = t at hmove
    cases hmove <;> rfl
  | runStep poll due => exact absurd rfl (hrun poll due)
  | markReady => rfl
  | stopThread => rfl
  | startThread created => exact absurd rfl (hstart created)
  | pause =>
    simp only [ControlledSubsystem.step]
    split <;> rfl
  | pauseStep timeout =>
    simp only [ControlledSubsystem.step]
    split
    · rfl
    · split_ifs <;> rfl
  | resume =>
    simp only [ControlledSubsystem.step]
    split <;> rfl

omit [DecidableEq P] in
/-- The thread comes to the execution only from the test. -/
lemma due_runMove {s t : ControlledSubsystem.State P T} (hmove : RunMove s t)
    (hne : s.runPc ≠ .periodic) (h : Due t.runPc) : Due s.runPc := by
  cases hmove with
  | stay => exact h
  | head hpc => cases hr : s.m_entryThreadRunning <;> simp [hr, Due] at h
  | ready hpc hfd => exact h.elim
  | timeout hpc => exact h.elim
  | error hpc => exact h.elim
  | wait hpc => exact h.elim
  | lock hpc hlock => exact h.elim
  | pop hpc => exact h.elim
  | unlock item hpc => cases item <;> exact h.elim
  | execute item hpc => exact h.elim
  | periodic due hpc => exact absurd hpc hne
  | enter hpc => rw [hpc]; exact trivial
  | test hpc => rw [hpc]; exact trivial
  | controllerPeriodic hpc => exact h.elim
  | leave hpc => exact h.elim

omit [DecidableEq P] in
lemma paced_runStep {s : State P T} (h : Paced s) (poll : PollResult) (reading : Timespec)
    (hclock : s.now_ns ≤ monotonic_ns reading) : Paced (runStep s poll reading) := by
  have hclock' : s.now_ns.toNat ≤ (monotonic_ns reading).toNat := UInt64.le_iff_toNat_le.mp hclock
  have hlt := toNat_monotonic_ns_lt reading
  have hmove := runMove_runStep s.base poll false
  unfold runStep
  split
  next hpc =>
    have hout : ¬ Due (ControlledSubsystem.runStep s.base poll false).runPc := by
      intro hd
      have := due_runMove hmove (by simp [hpc]) hd
      rw [hpc] at this
      exact this
    dsimp only
    split_ifs
    · exact h.of_kept rfl rfl hclock' hlt fun hd => absurd hd hout
    · exact h.of_kept rfl rfl (Nat.le_refl _) h.now_lt fun hd => absurd hd hout
  next hpc =>
    refine h.of_kept rfl rfl hclock' hlt fun hd => ?_
    -- the section is entered only if a period has begun
    by_cases hwake : s.next_wake_ns ≤ monotonic_ns reading
    · exact UInt64.le_iff_toNat_le.mp hwake
    · exfalso
      simp [ControlledSubsystem.runStep, hpc, hwake, Due] at hd
  next hpc =>
    refine h.execute (h.due (by rw [hpc]; exact trivial)) rfl rfl rfl ?_
    simp [ControlledSubsystem.runStep, hpc, Due]
  next hne =>
    refine h.of_kept rfl rfl (Nat.le_refl _) h.now_lt fun hd => h.due ?_
    exact due_runMove hmove (by assumption) hd

omit [DecidableEq P] in
/-- A step of another thread. -/
lemma Paced.other {s : State P T} (h : Paced s) {base : ControlledSubsystem.State P T}
    (hpc : base.runPc = s.base.runPc) : Paced { s with base := base } :=
  h.of_kept rfl rfl (Nat.le_refl _) h.now_lt fun hd => h.due (hpc ▸ hd)

lemma paced_step (s : State P T) (i : Turn P T) (h : Paced s) (hclock : InOrder s i) :
    Paced (step s i) := by
  cases i with
  | run poll reading => exact paced_runStep h poll reading hclock
  | other i =>
    cases i with
    | runStep poll due => exact h
    | startThread created => exact h
    | push p item => exact h.other (runPc_step _ (.push p item) nofun nofun)
    | pushStep p => exact h.other (runPc_step _ (.pushStep p) nofun nofun)
    | markReady => exact h.other rfl
    | stopThread => exact h.other rfl
    | pause => exact h.other (runPc_step _ .pause nofun nofun)
    | pauseStep timeout => exact h.other (runPc_step _ (.pauseStep timeout) nofun nofun)
    | resume => exact h.other (runPc_step _ .resume nofun nofun)

theorem paced_run (base : ControlledSubsystem.State P T) (first : Timespec)
    {l : List (Turn P T)} (hclock : Each step InOrder (entry base first) l) :
    Paced (run step (entry base first) l) :=
  hclock.invariant paced_step (paced_entry base first)

omit [DecidableEq P] in
lemma base_runStep (s : State P T) (poll : PollResult) (reading : Timespec) :
    ∃ due, (runStep s poll reading).base = ControlledSubsystem.runStep s.base poll due := by
  unfold runStep
  split
  · refine ⟨false, ?_⟩
    dsimp only
    split_ifs <;> rfl
  · exact ⟨_, rfl⟩
  · exact ⟨false, rfl⟩
  · exact ⟨false, rfl⟩

lemma reachable_base_step (s : State P T) (i : Turn P T) :
    Reachable ControlledSubsystem.step s.base (step s i).base := by
  cases i with
  | run poll reading =>
    obtain ⟨due, hdue⟩ := base_runStep s poll reading
    exact ⟨[.runStep poll due], hdue.symm⟩
  | other i =>
    cases i with
    | runStep poll due => exact .refl _ s.base
    | startThread created => exact .refl _ s.base
    | push p item => exact ⟨[.push p item], rfl⟩
    | pushStep p => exact ⟨[.pushStep p], rfl⟩
    | markReady => exact ⟨[.markReady], rfl⟩
    | stopThread => exact ⟨[.stopThread], rfl⟩
    | pause => exact ⟨[.pause], rfl⟩
    | pauseStep timeout => exact ⟨[.pauseStep timeout], rfl⟩
    | resume => exact ⟨[.resume], rfl⟩

/-- What the clock decides is an input of the untimed thread: the schedule refines it. -/
theorem reachable_base (s : State P T) (l : List (Turn P T)) :
    Reachable ControlledSubsystem.step s.base (run step s l).base := by
  induction l generalizing s with
  | nil => exact .refl _ s.base
  | cons i l ih => exact (reachable_base_step s i).trans (ih (step s i))

/-- **No bursts.** While the clock does not go back, the wake time after an execution lies at
most a period after it and never before it, and `k` executions in a row take `k - 2` periods or
more, whatever delays, pauses and messages come between. -/
theorem executions_spread (base : ControlledSubsystem.State P T) (first : Timespec)
    (l : List (Turn P T)) (hclock : Each step InOrder (entry base first) l) :
    (∀ now, (run step (entry base first) l).executed.getLast? = some now →
      now.toNat ≤ (run step (entry base first) l).next_wake_ns.toNat ∧
      (run step (entry base first) l).next_wake_ns.toNat ≤ now.toNat + PERIOD_NS.toNat) ∧
    ∀ i k t u, 0 < k → (run step (entry base first) l).executed[i]? = some t →
      (run step (entry base first) l).executed[i + (k - 1)]? = some u →
      t.toNat + (k - 2) * PERIOD_NS.toNat ≤ u.toNat := by
  have h := paced_run base first hclock
  refine ⟨h.last, fun i k t u hk ht hu => ?_⟩
  rcases Nat.lt_or_ge 1 k with hk' | hk'
  · have hspread := h.spread i (i + (k - 1)) t u (by omega) ht hu
    have hcount : i + (k - 1) - i - 1 = k - 2 := by omega
    rw [hcount] at hspread
    exact hspread
  · obtain rfl : k = 1 := by omega
    obtain rfl : t = u := by
      rw [Nat.add_zero, ht] at hu
      exact Option.some.inj hu
    exact Nat.le_of_eq (by simp)

/-- Two executions, of which the second comes late. -/
def lateRun : List (Turn Unit Unit) :=
  let tick (ns : Fin 1000000000) : Turn Unit Unit :=
    .run .timeout ⟨1, ns, ns.isLt, Nat.lt_of_lt_of_le (Nat.add_lt_add_left ns.isLt _) (by decide)⟩
  [.other .markReady] ++ List.replicate 7 (tick 10) ++ List.replicate 7 (tick 9000000)

theorem executions_spread_lateRun :
    let s := run step (entry {} ⟨1, 0, by decide, by decide⟩) lateRun
    s.executed = [1000000010, 1009000000] ∧ s.next_wake_ns = 1011500000 ∧
      (1000000010 : UInt64).toNat + (2 - 2) * PERIOD_NS.toNat ≤ (1009000000 : UInt64).toNat := by
  have hrun : (run step (entry {} ⟨1, 0, by decide, by decide⟩) lateRun).executed =
      [1000000010, 1009000000] := by decide +kernel
  refine ⟨hrun, by decide +kernel, ?_⟩
  exact (executions_spread {} ⟨1, 0, by decide, by decide⟩ lateRun (by decide +kernel)).2 0 2 _ _
    (by decide) (by rw [hrun]; rfl) (by rw [hrun]; rfl)

end Kuavo.LegLoop
