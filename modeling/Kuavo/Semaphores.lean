import Kuavo.Synchronization

/-!
Semaphores. Their limits are kept beside their handles, but `releaseSemaphore` reads the limit
from the ids of the events, which are all zero: a release that has a right to succeed does not,
and one whose index is beyond the events reads past their end.
-/

namespace Kuavo.Synchronization

open Kuavo.Lib.Runs

variable {W : Type*} [DecidableEq W]

def IsSemaphore (handle : ℕ) : Prop := handle >>> 24 = kHandleTypeSemaphore

/-- Semaphores are made with a count within their limit, at most as many as handles can tell
apart, and nothing is destroyed. -/
def Made (m : HandleManager W) : Input W → Prop
  | .createSemaphore initialCount maximumCount =>
    0 ≤ initialCount ∧ initialCount ≤ maximumCount ∧ m.semaphoreIds.length < 2 ^ 24
  | .destroyEvent _ | .destroySemaphore _ => False
  | _ => True

structure SemInv (m : HandleManager W) : Prop where
  eventIds : ∀ id ∈ m.eventIds, id = 0
  length : m.semaphoreIds.length ≤ 2 ^ 24
  spendable : ∀ {handle}, IsSemaphore handle → Spendable m.states handle
  ledger : ∀ {handle}, IsSemaphore handle → Ledger m.states m.log handle
  made : ∀ {index maximumCount}, m.semaphoreIds[index]? = some maximumCount →
    ∃ o, m.states (semaphoreHandle index) = some o ∧ o.autoReset = true ∧
      o.signaled ≤ maximumCount

omit [DecidableEq W] in
lemma semInv_start : SemInv (start : HandleManager W) :=
  ⟨fun _ h => absurd h List.not_mem_nil, Nat.zero_le _, fun _ _ h => by simp [start] at h,
    fun _ => ⟨le_rfl, le_rfl⟩, fun h => by simp [start] at h⟩

/-! ### A release -/

omit [DecidableEq W] in
lemma SemInv.nonneg {m : HandleManager W} (hm : SemInv m) {handle : ℕ}
    (hsem : IsSemaphore handle) {o : ObjState W} (ho : m.states handle = some o) :
    0 ≤ o.signaled := by
  have h0 := (hm.ledger hsem).nonneg
  unfold level at h0
  simpa [ho] using h0

/-- A release of a semaphore is refused whenever it returns. -/
lemma SemInv.refused {m : HandleManager W} (hm : SemInv m) (handle : ℕ) (releaseCount : ℤ)
    {r : Bool × HandleManager W} (hr : m.releaseSemaphore handle releaseCount = some r) :
    r = (false, m) := by
  obtain ⟨b, m'⟩ := r
  rcases releaseSemaphore_cases hr with ⟨rfl, rfl⟩ |
    ⟨-, htype, hpos, o, maxCount, ho, hmax, hfit, -⟩
  · rfl
  · -- the limit that is read is zero, and no count is negative
    have hzero : maxCount = 0 := hm.eventIds _ (List.mem_of_getElem? hmax)
    have hnonneg := hm.nonneg htype ho
    omega

/-- A release that returns is one whose index is among those of the events. -/
lemma SemInv.returns_iff {m : HandleManager W} (hm : SemInv m) {index : ℕ} {maximumCount : ℤ}
    (hmade : m.semaphoreIds[index]? = some maximumCount) {releaseCount : ℤ}
    (hpos : 0 < releaseCount) :
    m.releaseSemaphore (semaphoreHandle index) releaseCount = some (false, m) ↔
      index < m.eventIds.length := by
  obtain ⟨o, ho, -, -⟩ := hm.made hmade
  have hlt : index < 2 ^ 24 :=
    lt_of_lt_of_le (List.getElem?_eq_some_iff.mp hmade).1 hm.length
  have hguard : ¬ (semaphoreHandle index >>> 24 ≠ kHandleTypeSemaphore ∨ releaseCount ≤ 0) := by
    rw [not_or, not_not, semaphoreHandle_type]
    exact ⟨rfl, by omega⟩
  constructor
  · intro hr
    unfold HandleManager.releaseSemaphore at hr
    rw [if_neg hguard, ho] at hr
    obtain ⟨maxCount, hmax, -⟩ := Option.map_eq_some_iff.mp hr
    rw [semaphoreHandle_index hlt] at hmax
    exact (List.getElem?_eq_some_iff.mp hmax).1
  · intro hidx
    have hsome : ∃ r, m.releaseSemaphore (semaphoreHandle index) releaseCount = some r := by
      unfold HandleManager.releaseSemaphore
      rw [if_neg hguard, ho, semaphoreHandle_index hlt, List.getElem?_eq_getElem hidx]
      exact ⟨_, rfl⟩
    obtain ⟨r, hr⟩ := hsome
    rw [hr, hm.refused _ _ hr]

/-! ### A wait -/

omit [DecidableEq W] in
lemma Spendable.scan {states : ℕ → Option (ObjState W)} {handle : ℕ}
    (h : Spendable states handle) (handles : List ℕ) (size : ℕ) :
    Spendable (scan states handles size).states handle := by
  intro o' ho'
  cases ho : states handle with
  | none =>
    exact absurd (ho'.symm.trans (scan_none ho handles size)) (by simp)
  | some o =>
    obtain ⟨o₁, ho₁, hs⟩ := scan_spent ho handles size
    obtain rfl : o₁ = o' := Option.some.inj (ho₁.symm.trans ho')
    cases hauto : o.autoReset with
    | true => exact Or.inl (hs.autoReset.trans hauto)
    | false => exact Or.inr ((hs.manual hauto).trans ((h o ho).resolve_left (by simp [hauto])))

omit [DecidableEq W] in
lemma Spendable.onWaiters {states : ℕ → Option (ObjState W)} {handle : ℕ}
    (h : Spendable states handle) (f : List W → List W) (handles : List ℕ) :
    Spendable (handles.foldl (onWaiters f) states) handle := by
  induction handles generalizing states with
  | nil => exact h
  | cons other handles ih =>
    refine ih fun o' ho' => ?_
    by_cases heq : handle = other
    · subst heq
      cases ho : states handle with
      | none =>
        obtain rfl : _ = o' := by simpa [Synchronization.onWaiters, ho] using ho'
        exact Or.inr rfl
      | some o =>
        obtain rfl : _ = o' := by simpa [Synchronization.onWaiters, ho] using ho'
        exact h o ho
    · exact h o' (by simpa [Synchronization.onWaiters, heq] using ho')

omit [DecidableEq W] in
/-- What a call or a waking leaves: a pass, waiters that come or go, and perhaps a report. -/
lemma SemInv.pass {m m' : HandleManager W} (hm : SemInv m) {handles : List ℕ} {size : ℕ}
    (hevents : m'.eventIds = m.eventIds) (hsemaphores : m'.semaphoreIds = m.semaphoreIds)
    (f : List W → List W) (named : List ℕ)
    (hstates : m'.states = named.foldl (onWaiters f) (scan m.states handles size).states)
    (hlog : m'.log = m.log ∨
      m'.log = m.log ++ [.returned (scan m.states handles size).signaled]) : SemInv m' := by
  refine ⟨hevents ▸ hm.eventIds, hsemaphores ▸ hm.length, fun hsem => ?_, fun {handle} hsem => ?_,
    fun {index maximumCount} hmade => ?_⟩
  · rw [hstates]
    exact ((hm.spendable hsem).scan handles size).onWaiters f named
  · have hlt : handle < 0x80000000 := lt_of_type hsem (by decide)
    have hl := hm.ledger hsem
    have hlevel : level m'.states handle = level (scan m.states handles size).states handle := by
      rw [hstates, level_foldl_onWaiters]
    rcases hlog with hlog | hlog
    · obtain ⟨h0, hle⟩ := scan_level hlt (hm.spendable hsem) hl.nonneg handles size
      have hold := hl.le
      exact ⟨hlevel ▸ h0, by rw [hlog, hlevel]; omega⟩
    · have hret := hl.returned hlt (hm.spendable hsem) handles size
      exact ⟨hlevel ▸ hret.nonneg, by rw [hlog, hlevel]; exact hret.le⟩
  · rw [hsemaphores] at hmade
    obtain ⟨o, ho, hauto, hle⟩ := hm.made hmade
    obtain ⟨o', ho', hs⟩ := scan_spent ho handles size
    rw [hstates, foldl_onWaiters f named ho']
    exact ⟨_, rfl, hs.autoReset.trans hauto, hs.le.trans hle⟩

/-! ### Steps -/

omit [DecidableEq W] in
/-- One state changes, of a handle that is no semaphore's. -/
lemma SemInv.setOther {m m' : HandleManager W} (hm : SemInv m) {k : ℕ} (hk : ¬ IsSemaphore k)
    (hevents : ∀ id ∈ m'.eventIds, id = 0) (hsemaphores : m'.semaphoreIds = m.semaphoreIds)
    {o : ObjState W} (hstates : m'.states = Function.update m.states k (some o))
    (hlog : m'.log = m.log ∨ ∃ n, m'.log = m.log ++ [.created k n] ∨ m'.log = m.log ++ [.set k]) :
    SemInv m' := by
  have hsame : ∀ {handle}, IsSemaphore handle → m'.states handle = m.states handle := by
    intro handle hsem
    have hne : handle ≠ k := fun h => hk (h ▸ hsem)
    rw [hstates, Function.update_of_ne hne]
  refine ⟨hevents, hsemaphores ▸ hm.length, fun hsem o ho => ?_, fun {handle} hsem => ?_,
    fun {index maximumCount} hmade => ?_⟩
  · rw [hsame hsem] at ho
    exact hm.spendable hsem o ho
  · have hne : k ≠ handle := fun h => hk (h ▸ hsem)
    have hlevel := level_congr (hsame hsem)
    have hl := hm.ledger hsem
    have hentry : reports handle m'.log = reports handle m.log ∧
        granted handle m'.log = granted handle m.log := by
      rcases hlog with h | ⟨n, h | h⟩ <;> rw [h] <;>
        simp [reports, granted, credit, hne]
    refine ⟨hlevel ▸ hl.nonneg, ?_⟩
    rw [hentry.1, hentry.2, hlevel]
    exact hl.le
  · rw [hsemaphores] at hmade
    rw [hsame (semaphoreHandle_type index)]
    exact hm.made hmade

omit [DecidableEq W] in
lemma SemInv.createSemaphore {m : HandleManager W} (hm : SemInv m) {initialCount maximumCount : ℤ}
    (hnonneg : 0 ≤ initialCount) (hle : initialCount ≤ maximumCount)
    (hlength : m.semaphoreIds.length < 2 ^ 24) :
    SemInv (m.createSemaphore initialCount maximumCount) := by
  set k := semaphoreHandle m.semaphoreIds.length with hk
  have hself : (m.createSemaphore initialCount maximumCount).states k =
      some { (m.states k).getD {} with signaled := initialCount, autoReset := true } := by
    simp [HandleManager.createSemaphore, HandleManager.setState, ← hk]
  have hother : ∀ {handle}, handle ≠ k →
      (m.createSemaphore initialCount maximumCount).states handle = m.states handle :=
    fun hne => Function.update_of_ne hne _ _
  refine ⟨hm.eventIds, ?_, fun {handle} hsem o ho => ?_, fun {handle} hsem => ?_,
    fun {index maxCount} hmade => ?_⟩
  · simp only [HandleManager.createSemaphore, List.length_append, List.length_singleton]
    omega
  · by_cases h : handle = k
    · rw [h, hself] at ho
      obtain rfl := Option.some.inj ho
      exact Or.inl rfl
    · rw [hother h] at ho
      exact hm.spendable hsem o ho
  · have hl := hm.ledger hsem
    have hlog : (m.createSemaphore initialCount maximumCount).log =
        m.log ++ [.created k initialCount] := rfl
    have hreports : reports handle (m.createSemaphore initialCount maximumCount).log =
        reports handle m.log := by
      simp [hlog, reports]
    by_cases h : handle = k
    · have hlevel : level (m.createSemaphore initialCount maximumCount).states handle =
          initialCount := by
        rw [h]
        simp [level, hself]
      refine ⟨by rw [hlevel]; exact hnonneg, ?_⟩
      have hold := hl.le
      have h0 := hl.nonneg
      rw [hreports, hlevel, hlog, granted_concat, credit, if_pos h.symm]
      omega
    · have hlevel := level_congr (hother h)
      refine ⟨hlevel ▸ hl.nonneg, ?_⟩
      rw [hreports, hlevel, hlog, granted_concat, credit, if_neg (Ne.symm h), add_zero]
      exact hl.le
  · simp only [HandleManager.createSemaphore] at hmade
    rcases getElem?_concat_iff.mp hmade with hold | ⟨rfl, rfl⟩
    · have hlt : index < m.semaphoreIds.length := (List.getElem?_eq_some_iff.mp hold).1
      have hne : semaphoreHandle index ≠ k := by
        intro h
        have := semaphoreHandle_inj (by omega) hlength h
        omega
      rw [hother hne]
      exact hm.made hold
    · exact ⟨_, hself, rfl, hle⟩

lemma not_isSemaphore_of_event {handle : ℕ} (h : handle >>> 24 = kHandleTypeEvent) :
    ¬ IsSemaphore handle := by
  unfold IsSemaphore
  rw [h]
  decide

theorem semInv_step (m : HandleManager W) (i : Input W) (hm : SemInv m) (hi : Made m i) :
    SemInv (step m i) := by
  cases i with
  | createEvent manualReset initialState =>
    have hk := not_isSemaphore_of_event (eventHandle_type m.eventIds.length)
    refine hm.setOther hk (fun id hid => ?_) rfl rfl (Or.inr ⟨_, Or.inl rfl⟩)
    rcases List.mem_append.mp hid with h | h
    · exact hm.eventIds id h
    · simpa using h
  | createSemaphore initialCount maximumCount => exact hm.createSemaphore hi.1 hi.2.1 hi.2.2
  | setEvent handle =>
    simp only [step, HandleManager.setEvent]
    split_ifs with htype
    · unfold HandleManager.setSignalObject
      cases m.states handle with
      | none => exact hm
      | some o =>
        have hk := not_isSemaphore_of_event htype
        exact hm.setOther hk hm.eventIds rfl rfl (Or.inr ⟨0, Or.inr rfl⟩)
    · exact hm
  | resetEvent handle =>
    simp only [step, HandleManager.resetEvent]
    split_ifs with htype
    · unfold HandleManager.resetSignalObject
      cases m.states handle with
      | none => exact hm
      | some o =>
        have hk := not_isSemaphore_of_event htype
        exact hm.setOther hk hm.eventIds rfl rfl (Or.inl rfl)
    · exact hm
  | destroyEvent handle => exact hi.elim
  | destroySemaphore handle => exact hi.elim
  | releaseSemaphore handle releaseCount =>
    simp only [step]
    cases hr : m.releaseSemaphore handle releaseCount with
    | none => exact hm
    | some r =>
      rw [hm.refused handle releaseCount hr]
      exact hm
  | waitForObjects w handles size timeout =>
    simp only [step]
    rcases waitForObjects_cases m w handles size timeout with ⟨-, hm'⟩ | ⟨-, hm'⟩ | ⟨-, -, hm'⟩ <;>
      rw [hm']
    · exact hm
    · exact hm.pass rfl rfl id [] rfl (Or.inr rfl)
    · exact hm.pass rfl rfl _ handles rfl (Or.inl rfl)
  | wake w timedOut =>
    simp only [step]
    rcases wake_cases m w timedOut with ⟨-, hm'⟩ |
      ⟨handles, size, timeout, notified, -, hm' | ⟨-, hm'⟩⟩ <;> rw [hm']
    · exact hm
    · exact hm.pass rfl rfl _ handles rfl (Or.inr rfl)
    · exact hm.pass rfl rfl id [] rfl (Or.inl rfl)

/-! ### What a semaphore is to do -/

/-- Each semaphore's count is between zero and its limit, and no more waits reported it than
it was granted. -/
def CountsOk (m : HandleManager W) : Prop :=
  ∀ index maximumCount, m.semaphoreIds[index]? = some maximumCount →
    ∃ o, m.states (semaphoreHandle index) = some o ∧ 0 ≤ o.signaled ∧ o.signaled ≤ maximumCount ∧
      reports (semaphoreHandle index) m.log ≤ granted (semaphoreHandle index) m.log

/-- A release succeeds exactly when the count stays within the limit, and then adds to it;
otherwise it changes nothing. -/
def ReleaseOk (m : HandleManager W) : Input W → Prop
  | .releaseSemaphore handle releaseCount =>
    ∀ index maximumCount o, m.semaphoreIds[index]? = some maximumCount →
      handle = semaphoreHandle index → m.states handle = some o → 0 < releaseCount →
      if o.signaled + releaseCount ≤ maximumCount then
        ∃ m', m.releaseSemaphore handle releaseCount = some (true, m') ∧
          m'.states = Function.update m.states handle
            (some { o with signaled := o.signaled + releaseCount })
      else m.releaseSemaphore handle releaseCount = some (false, m)
  | _ => True

/-- A release is one that must be refused, of a semaphore with an event of the same index. -/
def Refusable (m : HandleManager W) : Input W → Prop
  | .releaseSemaphore handle releaseCount =>
    ∀ index maximumCount o, m.semaphoreIds[index]? = some maximumCount →
      handle = semaphoreHandle index → m.states handle = some o → 0 < releaseCount →
      index < m.eventIds.length ∧ maximumCount < o.signaled + releaseCount
  | _ => True

omit [DecidableEq W] in
lemma countsOk_of_inv {m : HandleManager W} (hm : SemInv m) : CountsOk m := by
  intro index maximumCount hmade
  obtain ⟨o, ho, -, hle⟩ := hm.made hmade
  have hl := hm.ledger (semaphoreHandle_type index)
  have h0 := hl.nonneg
  have hreports := hl.le
  exact ⟨o, ho, hm.nonneg (semaphoreHandle_type index) ho, hle, by omega⟩

lemma releaseOk_iff {m : HandleManager W} (hm : SemInv m) (i : Input W) :
    ReleaseOk m i ↔ Refusable m i := by
  cases i with
  | releaseSemaphore handle releaseCount =>
    have hcall : ∀ index maximumCount o, m.semaphoreIds[index]? = some maximumCount →
        handle = semaphoreHandle index → m.states handle = some o → 0 < releaseCount →
        ((if o.signaled + releaseCount ≤ maximumCount then
          ∃ m', m.releaseSemaphore handle releaseCount = some (true, m') ∧
            m'.states = Function.update m.states handle
              (some { o with signaled := o.signaled + releaseCount })
        else m.releaseSemaphore handle releaseCount = some (false, m)) ↔
          index < m.eventIds.length ∧ maximumCount < o.signaled + releaseCount) := by
      rintro index maximumCount o hmade rfl ho hpos
      split_ifs with hfits
      · -- no release ever succeeds
        constructor
        · rintro ⟨m', hr, -⟩
          have hrefused := hm.refused _ _ hr
          simp at hrefused
        · rintro ⟨-, hover⟩
          omega
      · rw [hm.returns_iff hmade hpos]
        exact ⟨fun h => ⟨h, by omega⟩, And.left⟩
    constructor
    · intro h index maximumCount o hmade hhandle ho hpos
      exact (hcall index maximumCount o hmade hhandle ho hpos).mp
        (h index maximumCount o hmade hhandle ho hpos)
    · intro h index maximumCount o hmade hhandle ho hpos
      exact (hcall index maximumCount o hmade hhandle ho hpos).mpr
        (h index maximumCount o hmade hhandle ho hpos)
  | _ => exact Iff.rfl

/-- **When semaphores work.** In a run their counts and releases are as they should be exactly
when every release is one that must be refused, of a semaphore with an event of its index. -/
theorem semaphores_ok_iff (l : List (Input W)) (hl : Each step Made (start : HandleManager W) l) :
    (Each step (fun m i => CountsOk m ∧ ReleaseOk m i) (start : HandleManager W) l ∧
      CountsOk (run step (start : HandleManager W) l)) ↔
      Each step Refusable (start : HandleManager W) l := by
  have hinv : ∀ a i b, l = a ++ i :: b → SemInv (run step (start : HandleManager W) a) := by
    intro a i b hab
    rw [hab, each_append] at hl
    exact hl.1.invariant semInv_step semInv_start
  have hlast : SemInv (run step (start : HandleManager W) l) :=
    hl.invariant semInv_step semInv_start
  simp only [each_iff_split]
  constructor
  · rintro ⟨h, -⟩ a i b hab
    exact (releaseOk_iff (hinv a i b hab) i).mp (h a i b hab).2
  · intro h
    refine ⟨fun a i b hab => ?_, countsOk_of_inv hlast⟩
    exact ⟨countsOk_of_inv (hinv a i b hab), (releaseOk_iff (hinv a i b hab) i).mpr (h a i b hab)⟩

omit [DecidableEq W] in
lemma refusable_of_over {m : HandleManager W} {maximumCount releaseCount : ℤ} {o : ObjState W}
    (hids : m.semaphoreIds = [maximumCount]) (ho : m.states (semaphoreHandle 0) = some o)
    (hevent : 0 < m.eventIds.length) (hover : maximumCount < o.signaled + releaseCount) :
    Refusable m (.releaseSemaphore (semaphoreHandle 0) releaseCount) := by
  intro index maximumCount' o' hmade hhandle ho' _
  rw [hids, List.getElem?_singleton] at hmade
  split_ifs at hmade with hzero
  obtain rfl := Option.some.inj hmade
  obtain rfl : o = o' := Option.some.inj (ho.symm.trans ho')
  exact ⟨hzero ▸ hevent, hover⟩

/-- Releases beyond the limit of a semaphore beside an event, before and after a wait has taken its
count. The last wait finds none. -/
theorem semaphores_ok_iff_full :
    let l : List (Input Unit) := [.createEvent false false, .createSemaphore 1 1,
      .releaseSemaphore (semaphoreHandle 0) 1, .waitForObjects () [semaphoreHandle 0] 1 .zero,
      .releaseSemaphore (semaphoreHandle 0) 2, .waitForObjects () [semaphoreHandle 0] 1 .zero]
    Each step (fun m i => CountsOk m ∧ ReleaseOk m i) (start : HandleManager Unit) l ∧
      CountsOk (run step (start : HandleManager Unit) l) := by
  intro l
  have hl : Each step Made (start : HandleManager Unit) l := by
    simp [l, Made, step, HandleManager.createEvent, HandleManager.setState, start]
  exact (semaphores_ok_iff l hl).mpr
    ⟨trivial, trivial, refusable_of_over rfl rfl Nat.one_pos (by decide), trivial,
      refusable_of_over rfl rfl Nat.one_pos (by decide), trivial, trivial⟩

/-- One count fits into an empty semaphore of limit `1`, and is refused. -/
theorem release_refused :
    let l : List (Input Unit) := [.createEvent false false, .createSemaphore 0 1]
    let m := run step (start : HandleManager Unit) l
    (m.releaseSemaphore (semaphoreHandle 0) 1).map Prod.fst = some false ∧
      ¬ ReleaseOk m (.releaseSemaphore (semaphoreHandle 0) 1) := by
  intro l m
  have hr : (m.releaseSemaphore (semaphoreHandle 0) 1).map Prod.fst = some false := by decide
  refine ⟨hr, fun h => ?_⟩
  have hone := h 0 1 { autoReset := true } rfl rfl rfl (by decide)
  rw [if_pos (by decide)] at hone
  obtain ⟨m', hm', -⟩ := hone
  rw [hm'] at hr
  simp at hr

end Kuavo.Synchronization
