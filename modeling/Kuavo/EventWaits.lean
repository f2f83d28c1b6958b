import Kuavo.Synchronization

/-!
Events that are set and reset while any number of waits come and go: no signal is left with
waiters that no one wakes, and an event that resets itself is reported no more often than it
was set.
-/

namespace Kuavo.Synchronization

open Kuavo.Lib.Runs

variable {W : Type*} [DecidableEq W]

def Wait.handles : Wait → List ℕ
  | .idle => []
  | .blocked handles _ _ _ => handles

/-- A notification that the wait has not woken from yet. -/
def Wait.notified : Wait → Bool
  | .idle => false
  | .blocked _ _ _ notified => notified

@[simp] lemma handles_notify (wait : Wait) : wait.notify.handles = wait.handles := by
  cases wait <;> rfl

lemma handles_notifyAll (waits : W → Wait) (ws : List W) (w : W) :
    (notifyAll waits ws w).handles = (waits w).handles := by
  unfold notifyAll
  split_ifs <;> simp

/-- A notification does not go away by another. -/
lemma notified_notifyAll {waits : W → Wait} {w : W} (h : (waits w).notified = true)
    (ws : List W) : (notifyAll waits ws w).notified = true := by
  unfold notifyAll
  split_ifs
  · cases hw : waits w with
    | idle => simp [hw, Wait.notified] at h
    | blocked handles size timeout notified => rfl
  · exact h

lemma notified_of_mem {waits : W → Wait} {w : W} (h : (waits w).handles ≠ []) {ws : List W}
    (hw : w ∈ ws) : (notifyAll waits ws w).notified = true := by
  unfold notifyAll
  rw [if_pos hw]
  cases hwait : waits w with
  | idle => simp [hwait, Wait.handles] at h
  | blocked handles size timeout notified => rfl

/-- Who is to be woken for a signal: one waiter of an event that resets itself, all of any
other. -/
def Woken (waits : W → Wait) (o : ObjState W) : Prop :=
  if o.autoReset then o.waiters ≠ [] → ∃ w ∈ o.waiters, (waits w).notified = true
  else ∀ w ∈ o.waiters, (waits w).notified = true

def IsEvent (handle : ℕ) : Prop := handle >>> 24 = kHandleTypeEvent

/-- The lists of waiters are those of the waits that are blocked, and signals are seen to. -/
structure Inv (states : ℕ → Option (ObjState W)) (waits : W → Wait) : Prop where
  room : ∀ {w handles size timeout notified},
    waits w = .blocked handles size timeout notified → handles.length ≤ size
  live : ∀ {w handle}, handle ∈ (waits w).handles → states handle ≠ none
  count : ∀ {handle o}, states handle = some o →
    ∀ w, o.waiters.count w = (waits w).handles.count handle
  binary : ∀ {handle o}, IsEvent handle → states handle = some o →
    0 ≤ o.signaled ∧ o.signaled ≤ 1
  woken : ∀ {handle o}, IsEvent handle → states handle = some o → 0 < o.signaled →
    Woken waits o

omit [DecidableEq W] in
/-- The waiters of a state matter only as far as they stay waiters. -/
lemma Woken.mono {waits waits' : W → Wait} {o o' : ObjState W} (h : Woken waits o)
    (hauto : o'.autoReset = o.autoReset) (hmem : ∀ w, w ∈ o'.waiters ↔ w ∈ o.waiters)
    (hkept : ∀ w ∈ o.waiters, (waits w).notified = true → (waits' w).notified = true) :
    Woken waits' o' := by
  unfold Woken at h ⊢
  rw [hauto]
  split_ifs at h ⊢ with ha
  · intro hne
    obtain ⟨v, hv⟩ := List.exists_mem_of_ne_nil _ hne
    obtain ⟨w, hw, hn⟩ := h (List.ne_nil_of_mem ((hmem v).mp hv))
    exact ⟨w, (hmem w).mpr hw, hkept w hw hn⟩
  · intro w hw
    exact hkept w ((hmem w).mp hw) (h w ((hmem w).mp hw))

lemma Inv.mem_waiters {states : ℕ → Option (ObjState W)} {waits : W → Wait}
    (h : Inv states waits) {handle : ℕ} {o : ObjState W} (ho : states handle = some o) (w : W) :
    w ∈ o.waiters ↔ handle ∈ (waits w).handles := by
  rw [← List.count_pos_iff, h.count ho w, List.count_pos_iff]

/-- One state changes and some waits are notified. -/
lemma Inv.setState {states : ℕ → Option (ObjState W)} {waits : W → Wait} (h : Inv states waits)
    {handle : ℕ} {o : ObjState W} (hcount : ∀ w, o.waiters.count w = (waits w).handles.count handle)
    (ws : List W)
    (hevent : IsEvent handle → (0 ≤ o.signaled ∧ o.signaled ≤ 1) ∧
      (0 < o.signaled → Woken (notifyAll waits ws) o)) :
    Inv (Function.update states handle (some o)) (notifyAll waits ws) := by
  refine ⟨fun {w hs size timeout notified} hw => ?_, fun {w k} hk => ?_, fun {k o'} ho' w => ?_,
    fun {k o'} hk ho' => ?_, fun {k o'} hk ho' hpos => ?_⟩
  · unfold notifyAll at hw
    cases hwait : waits w with
    | idle => split_ifs at hw <;> simp [hwait, Wait.notify] at hw
    | blocked hs' size' timeout' notified' =>
      have hroom := h.room hwait
      split_ifs at hw <;> simp [hwait, Wait.notify] at hw <;>
        (obtain ⟨rfl, rfl, -, -⟩ := hw; exact hroom)
  · rw [handles_notifyAll] at hk
    by_cases hkh : k = handle
    · simp [hkh]
    · simpa [hkh] using h.live hk
  · rw [handles_notifyAll]
    by_cases hkh : k = handle
    · subst hkh
      obtain rfl : o = o' := by simpa using ho'
      exact hcount w
    · exact h.count (by simpa [hkh] using ho') w
  · by_cases hkh : k = handle
    · subst hkh
      obtain rfl : o = o' := by simpa using ho'
      exact (hevent hk).1
    · exact h.binary hk (by simpa [hkh] using ho')
  · by_cases hkh : k = handle
    · subst hkh
      obtain rfl : o = o' := by simpa using ho'
      exact (hevent hk).2 hpos
    · have hold : states k = some o' := by simpa [hkh] using ho'
      exact (h.woken hk hold hpos).mono rfl (fun _ => Iff.rfl)
        fun w _ hn => notified_notifyAll hn ws

omit [DecidableEq W] in
/-- A pass keeps the waiters, and takes signals only away. -/
lemma scan_some {states : ℕ → Option (ObjState W)} {handles : List ℕ} {size handle : ℕ}
    {o' : ObjState W} (h' : (scan states handles size).states handle = some o') :
    ∃ o, states handle = some o ∧
      Spent handle ⟨states, []⟩ (scan states handles size) o o' := by
  cases h : states handle with
  | none =>
    exact absurd (h'.symm.trans (scan_none h handles size)) (by simp)
  | some o =>
    obtain ⟨o₁, h₁, hs⟩ := scan_spent h handles size
    obtain rfl : o₁ = o' := Option.some.inj (h₁.symm.trans h')
    exact ⟨o, rfl, hs⟩

omit [DecidableEq W] in
lemma scan_ne_none {states : ℕ → Option (ObjState W)} (handles : List ℕ) (size : ℕ) {handle : ℕ}
    (h : states handle ≠ none) : (scan states handles size).states handle ≠ none := by
  obtain ⟨o, ho⟩ := Option.ne_none_iff_exists'.mp h
  obtain ⟨o', h', -⟩ := scan_spent ho handles size
  rw [h']
  simp

lemma Inv.pass {states : ℕ → Option (ObjState W)} {waits : W → Wait} (h : Inv states waits)
    (handles : List ℕ) (size : ℕ) : Inv (scan states handles size).states waits := by
  refine ⟨h.room, fun hk => scan_ne_none handles size (h.live hk), fun ho' w => ?_,
    fun hk ho' => ?_, fun hk ho' hpos => ?_⟩
  all_goals obtain ⟨o, ho, hs⟩ := scan_some ho'
  · rw [hs.waiters]
    exact h.count ho w
  · obtain ⟨h0, h1⟩ := h.binary hk ho
    exact ⟨hs.nonneg h0, hs.le.trans h1⟩
  · exact (h.woken hk ho (lt_of_lt_of_le hpos hs.le)).mono hs.autoReset
      (fun w => by rw [hs.waiters]) fun _ _ hn => hn

/-- A wait that changes leaves alone the signals it does not wait for. -/
lemma Woken.update {waits : W → Wait} {o : ObjState W} (h : Woken waits o) {w : W}
    (hw : w ∉ o.waiters) (wait : Wait) : Woken (Function.update waits w wait) o := by
  refine h.mono rfl (fun _ => Iff.rfl) fun v hv hn => ?_
  have hne : v ≠ w := fun he => hw (he ▸ hv)
  rwa [Function.update_of_ne hne]

/-- A wait is blocked: nothing it waits for is signaled. -/
lemma Inv.block {states : ℕ → Option (ObjState W)} {waits : W → Wait} (h : Inv states waits)
    {w : W} (hw : waits w = .idle) {handles : List ℕ} {size : ℕ} (hroom : handles.length ≤ size)
    (hzero : ∀ handle ∈ handles, ∃ o, states handle = some o ∧ o.signaled ≤ 0)
    (timeout : Timeout) :
    Inv (addWaiters w states handles)
      (Function.update waits w (.blocked handles size timeout false)) := by
  have hcases : ∀ {k o'}, addWaiters w states handles k = some o' → ∃ o, states k = some o ∧
      o' = { o with waiters := (fun ws => ws ++ [w])^[handles.count k] o.waiters } := by
    refine foldl_onWaiters_some _ fun k hmem => ?_
    obtain ⟨o, ho, -⟩ := hzero k hmem
    simp [ho]
  refine ⟨fun {v hs size' timeout' notified} hv => ?_, fun {v k} hk => ?_, fun {k o'} ho' v => ?_,
    fun {k o'} hk ho' => ?_, fun {k o'} hk ho' hpos => ?_⟩
  · by_cases hvw : v = w
    · subst hvw
      obtain ⟨rfl, rfl, -, -⟩ : handles = hs ∧ size = size' ∧ timeout = timeout' ∧
          false = notified := by simpa using hv
      exact hroom
    · exact h.room (by simpa [hvw] using hv)
  · have hlive : states k ≠ none := by
      by_cases hvw : v = w
      · subst hvw
        obtain ⟨o, ho, -⟩ := hzero k (by simpa [Wait.handles] using hk)
        simp [ho]
      · exact h.live (w := v) (by simpa [hvw] using hk)
    obtain ⟨o, ho⟩ := Option.ne_none_iff_exists'.mp hlive
    rw [show addWaiters w states handles k = _ from
      foldl_onWaiters (fun ws => ws ++ [w]) handles ho]
    simp
  · obtain ⟨o, ho, rfl⟩ := hcases ho'
    dsimp only
    rw [count_iterate_append, h.count ho v]
    by_cases hvw : v = w
    · subst hvw
      simp [hw, Wait.handles]
    · simp [hvw]
  · obtain ⟨o, ho, rfl⟩ := hcases ho'
    have hbinary := h.binary hk ho
    exact hbinary
  · obtain ⟨o, ho, rfl⟩ := hcases ho'
    have hnot : k ∉ handles := by
      intro hmem
      obtain ⟨o₁, ho₁, hle⟩ := hzero k hmem
      obtain rfl : o₁ = o := Option.some.inj (ho₁.symm.trans ho)
      exact absurd hpos (by dsimp only; omega)
    rw [List.count_eq_zero.mpr hnot]
    refine (h.woken hk ho hpos).update ?_ _
    rw [h.mem_waiters ho w, hw]
    exact List.not_mem_nil

/-- A wait goes on: what it waits for is still not signaled. -/
lemma Inv.goOn {states : ℕ → Option (ObjState W)} {waits : W → Wait} (h : Inv states waits)
    {w : W} {handles : List ℕ} {size : ℕ} {timeout : Timeout} {notified : Bool}
    (hw : waits w = .blocked handles size timeout notified)
    (hzero : ∀ handle ∈ handles, ∃ o, states handle = some o ∧ o.signaled ≤ 0) :
    Inv states (Function.update waits w (.blocked handles size timeout false)) := by
  have hhandles : ∀ v, (Function.update waits w (.blocked handles size timeout false) v).handles =
      (waits v).handles := by
    intro v
    by_cases hvw : v = w
    · subst hvw
      simp [hw, Wait.handles]
    · simp [hvw]
  refine ⟨fun {v hs size' timeout' notified'} hv => ?_, fun {v k} hk => ?_, fun {k o} ho v => ?_,
    h.binary, fun {k o} hk ho hpos => ?_⟩
  · by_cases hvw : v = w
    · subst hvw
      obtain ⟨rfl, rfl, -, -⟩ : handles = hs ∧ size = size' ∧ timeout = timeout' ∧
          false = notified' := by simpa using hv
      exact h.room hw
    · exact h.room (by simpa [hvw] using hv)
  · rw [hhandles] at hk
    exact h.live hk
  · rw [hhandles]
    exact h.count ho v
  · refine (h.woken hk ho hpos).update ?_ _
    rw [h.mem_waiters ho w, hw]
    intro hmem
    obtain ⟨o₁, ho₁, hle⟩ := hzero k hmem
    obtain rfl : o₁ = o := Option.some.inj (ho₁.symm.trans ho)
    omega

/-- A wait leaves: what it took is not signaled any more, or stays signaled for all. -/
lemma Inv.leave {states : ℕ → Option (ObjState W)} {waits : W → Wait} (h : Inv states waits)
    {w : W} {handles : List ℕ} {size : ℕ} {timeout : Timeout} {notified : Bool}
    (hw : waits w = .blocked handles size timeout notified)
    (hzero : ∀ {handle o}, IsEvent handle → handle ∈ handles → states handle = some o →
      o.autoReset = true → o.signaled ≤ 0) :
    Inv (removeWaiters w states handles) (Function.update waits w .idle) := by
  have hcases : ∀ {k o'}, removeWaiters w states handles k = some o' → ∃ o, states k = some o ∧
      o' = { o with waiters := (fun ws => ws.erase w)^[handles.count k] o.waiters } :=
    foldl_onWaiters_some _ fun k hmem => h.live (w := w) (by rw [hw]; exact hmem)
  have hcount : ∀ {k o}, states k = some o → ∀ v,
      ((fun ws => ws.erase w)^[handles.count k] o.waiters).count v =
        (Function.update waits w .idle v).handles.count k := by
    intro k o ho v
    rw [count_iterate_erase, h.count ho v]
    by_cases hvw : v = w
    · subst hvw
      simp [hw, Wait.handles]
    · simp [hvw]
  refine ⟨fun {v hs size' timeout' notified'} hv => ?_, fun {v k} hk => ?_, fun {k o'} ho' v => ?_,
    fun {k o'} hk ho' => ?_, fun {k o'} hk ho' hpos => ?_⟩
  · have hvw : v ≠ w := by
      rintro rfl
      simp at hv
    exact h.room (by simpa [hvw] using hv)
  · have hvw : v ≠ w := by
      rintro rfl
      simp [Wait.handles] at hk
    have hlive : states k ≠ none := h.live (w := v) (by simpa [hvw] using hk)
    obtain ⟨o, ho⟩ := Option.ne_none_iff_exists'.mp hlive
    rw [show removeWaiters w states handles k = _ from
      foldl_onWaiters (fun ws => ws.erase w) handles ho]
    simp
  · obtain ⟨o, ho, rfl⟩ := hcases ho'
    exact hcount ho v
  · obtain ⟨o, ho, rfl⟩ := hcases ho'
    have hbinary := h.binary hk ho
    exact hbinary
  · obtain ⟨o, ho, rfl⟩ := hcases ho'
    have hold := h.woken hk ho hpos
    by_cases hmem : k ∈ handles
    · -- the event is not one that resets itself, so all its waiters are notified
      have hmanual : o.autoReset = false := by
        cases hauto : o.autoReset with
        | false => rfl
        | true =>
          have := hzero hk hmem ho hauto
          exact absurd hpos (by dsimp only; omega)
      unfold Woken at hold ⊢
      rw [hmanual] at hold ⊢
      intro v hv
      have hmem' : k ∈ (Function.update waits w .idle v).handles := by
        rw [← List.count_pos_iff, ← hcount ho v, List.count_pos_iff]
        exact hv
      have hvw : v ≠ w := by
        rintro rfl
        simp [Wait.handles] at hmem'
      rw [Function.update_of_ne hvw] at hmem' ⊢
      exact hold v ((h.mem_waiters ho v).mpr hmem')
    · rw [List.count_eq_zero.mpr hmem]
      refine hold.update ?_ _
      rw [h.mem_waiters ho w, hw]
      exact hmem

/-! ### Steps -/

/-- Handles are not made twice, nothing is destroyed, and what a wait reports has room. -/
def Fine (m : HandleManager W) : Input W → Prop
  | .createEvent _ _ => m.states (eventHandle m.eventIds.length) = none
  | .createSemaphore _ _ => m.states (semaphoreHandle m.semaphoreIds.length) = none
  | .destroyEvent _ | .destroySemaphore _ => False
  | .waitForObjects _ handles size _ => handles.length ≤ size
  | _ => True

@[simp] lemma notifyAll_nil (waits : W → Wait) : notifyAll waits [] = waits := by
  funext w
  simp [notifyAll]

/-- A new state has no waiters, and no wait has its handle. -/
lemma Inv.create {m : HandleManager W} (h : Inv m.states m.waits) {handle : ℕ}
    (hnone : m.states handle = none) (signaled : ℤ) (autoReset : Bool)
    (hsig : IsEvent handle → 0 ≤ signaled ∧ signaled ≤ 1) :
    Inv (Function.update m.states handle
      (some { (m.states handle).getD {} with signaled := signaled, autoReset := autoReset }))
      m.waits := by
  rw [hnone, ← notifyAll_nil m.waits]
  refine h.setState (fun w => ?_) [] fun hev => ⟨hsig hev, fun _ => ?_⟩
  · have hno : handle ∉ (m.waits w).handles := fun hmem => h.live hmem hnone
    simpa using (List.count_eq_zero.mpr hno).symm
  · unfold Woken
    cases autoReset <;> simp

lemma Inv.setSignalObject {m : HandleManager W} (h : Inv m.states m.waits) (handle : ℕ) :
    Inv (m.setSignalObject handle).states (m.setSignalObject handle).waits := by
  unfold HandleManager.setSignalObject
  cases ho : m.states handle with
  | none => exact h
  | some o =>
    have hcount := h.count ho
    refine h.setState (o := { o with signaled := 1 }) hcount _
      fun _ => ⟨⟨by simp, le_rfl⟩, fun _ => ?_⟩
    -- the waiters are blocked, so their notification counts
    have hblocked : ∀ w ∈ o.waiters, (m.waits w).handles ≠ [] := fun w hw =>
      List.ne_nil_of_mem ((h.mem_waiters ho w).mp hw)
    unfold Woken HandleManager.toNotify
    dsimp only
    split_ifs with hauto
    · intro hne
      cases hws : o.waiters with
      | nil => exact absurd hws hne
      | cons w ws =>
        have hw : w ∈ o.waiters := by simp [hws]
        exact ⟨w, List.mem_cons_self, notified_of_mem (hblocked w hw) (by simp)⟩
    · exact fun w hw => notified_of_mem (hblocked w hw) hw

lemma Inv.resetSignalObject {m : HandleManager W} (h : Inv m.states m.waits) (handle : ℕ) :
    Inv (m.resetSignalObject handle).states (m.resetSignalObject handle).waits := by
  unfold HandleManager.resetSignalObject
  cases ho : m.states handle with
  | none => exact h
  | some o =>
    have hcount := h.count ho
    have hset := h.setState (o := { o with signaled := 0 }) hcount []
      fun _ => ⟨⟨le_rfl, by simp⟩, fun hpos => absurd hpos (by simp)⟩
    rw [notifyAll_nil] at hset
    exact hset

lemma Inv.waitForObjects {m : HandleManager W} (h : Inv m.states m.waits) (w : W)
    {handles : List ℕ} {size : ℕ} (hroom : handles.length ≤ size) (timeout : Timeout) :
    Inv (m.waitForObjects w handles size timeout).states
      (m.waitForObjects w handles size timeout).waits := by
  rcases waitForObjects_cases m w handles size timeout with ⟨-, hm'⟩ | ⟨-, hm'⟩ |
    ⟨hw, hnil, hm'⟩ <;> rw [hm']
  · exact h
  · exact h.pass handles size
  · obtain ⟨hstates, hzero⟩ := scan_nothing hroom hnil
    rw [hstates]
    exact h.block hw hroom hzero timeout

lemma Inv.wake {m : HandleManager W} (h : Inv m.states m.waits) (w : W) (timedOut : Bool) :
    Inv (m.wake w timedOut).states (m.wake w timedOut).waits := by
  rcases wake_cases m w timedOut with ⟨-, hm'⟩ |
    ⟨handles, size, timeout, notified, hw, hm' | ⟨hnil, hm'⟩⟩ <;> rw [hm']
  · exact h
  · refine (h.pass handles size).leave hw fun hev hmem ho' hauto => ?_
    obtain ⟨o, ho, hs⟩ := scan_some ho'
    exact foldl_scanHandle_reset size handles hmem ho (hs.autoReset.symm.trans hauto)
      (h.binary hev ho).2 ho'
  · obtain ⟨hstates, hzero⟩ := scan_nothing (h.room hw) hnil
    rw [hstates]
    exact h.goOn hw hzero

lemma not_isEvent_of_semaphore {handle : ℕ} (h : handle >>> 24 = kHandleTypeSemaphore) :
    ¬ IsEvent handle := by
  unfold IsEvent
  rw [h]
  decide

lemma Inv.releaseSemaphore {m m' : HandleManager W} (h : Inv m.states m.waits) {handle : ℕ}
    {count : ℤ} {b : Bool} (hm' : m.releaseSemaphore handle count = some (b, m')) :
    Inv m'.states m'.waits := by
  rcases releaseSemaphore_cases hm' with ⟨-, rfl⟩ | ⟨-, htype, -, o, maxCount, ho, -, -, rfl⟩
  · exact h
  · have hcount := h.count ho
    exact h.setState (o := { o with signaled := o.signaled + count }) hcount o.waiters
      fun hev => absurd hev (not_isEvent_of_semaphore htype)

theorem inv_step (m : HandleManager W) (i : Input W) (h : Inv m.states m.waits)
    (hi : Fine m i) : Inv (step m i).states (step m i).waits := by
  cases i with
  | createEvent manualReset initialState =>
    refine h.create hi _ _ fun _ => ?_
    cases initialState <;> simp
  | createSemaphore initialCount maximumCount =>
    exact h.create hi _ _ fun hev =>
      absurd hev (not_isEvent_of_semaphore (semaphoreHandle_type _))
  | setEvent handle =>
    simp only [step, HandleManager.setEvent]
    split_ifs
    · exact h.setSignalObject handle
    · exact h
  | resetEvent handle =>
    simp only [step, HandleManager.resetEvent]
    split_ifs
    · exact h.resetSignalObject handle
    · exact h
  | destroyEvent handle => exact hi.elim
  | destroySemaphore handle => exact hi.elim
  | releaseSemaphore handle count =>
    simp only [step]
    cases hr : m.releaseSemaphore handle count with
    | none => exact h
    | some r => exact h.releaseSemaphore hr
  | waitForObjects w handles size timeout => exact h.waitForObjects w hi timeout
  | wake w timedOut => exact h.wake w timedOut

lemma inv_start : Inv (start : HandleManager W).states (start : HandleManager W).waits := by
  refine ⟨fun h => ?_, fun h => ?_, fun h => ?_, fun _ h => ?_, fun _ h => ?_⟩ <;>
    simp [start, Wait.handles] at h

/-! ### Reports -/

/-- An event that resets itself, as far as it exists. -/
def Auto (states : ℕ → Option (ObjState W)) (handle : ℕ) : Prop :=
  ∀ o, states handle = some o → o.autoReset = true

/-- An entry that says nothing of a handle. -/
def Entry.Unrelated (handle : ℕ) : Entry → Prop
  | .created h _ | .set h | .released h _ => h ≠ handle
  | .returned _ => False

/-- What a step does to the count of an event and to the record. -/
inductive Effect (m m' : HandleManager W) (handle : ℕ) : Prop
  | kept (hlog : m'.log = m.log) (hlevel : level m'.states handle = level m.states handle)
  | reset (hlog : m'.log = m.log) (hlevel : level m'.states handle = 0)
  | other (e : Entry) (he : e.Unrelated handle) (hlog : m'.log = m.log ++ [e])
      (hlevel : level m'.states handle = level m.states handle)
  | created (n : ℤ) (hn : n = 0 ∨ n = 1) (hnone : m.states handle = none)
      (hsome : m'.states handle ≠ none) (hlog : m'.log = m.log ++ [.created handle n])
      (hlevel : level m'.states handle = n)
  | set (hlog : m'.log = m.log ++ [.set handle]) (hlevel : level m'.states handle = 1)
  | returned (handles : List ℕ) (size : ℕ)
      (hlog : m'.log = m.log ++ [.returned (scan m.states handles size).signaled])
      (hlevel : level m'.states handle = level (scan m.states handles size).states handle)

/-- Existing events stay, and none becomes one that resets itself. -/
structure Stays (states states' : ℕ → Option (ObjState W)) (handle : ℕ) : Prop where
  alive : states handle ≠ none → states' handle ≠ none
  auto : Auto states' handle → Auto states handle

omit [DecidableEq W] in
lemma stays_congr {states states' : ℕ → Option (ObjState W)} {handle : ℕ}
    (h : states' handle = states handle) : Stays states states' handle :=
  ⟨fun ho => h ▸ ho, fun ha o ho => ha o (h.trans ho)⟩

omit [DecidableEq W] in
lemma stays_update {states : ℕ → Option (ObjState W)} {k : ℕ} {o : ObjState W}
    (hauto : ∀ o₀, states k = some o₀ → o.autoReset = o₀.autoReset) (handle : ℕ) :
    Stays states (Function.update states k (some o)) handle := by
  by_cases h : handle = k
  · subst h
    exact ⟨fun _ => by simp, fun ha o₀ ho => (hauto o₀ ho).symm.trans (ha o (by simp))⟩
  · exact stays_congr (by simp [h])

omit [DecidableEq W] in
lemma stays_scan (states : ℕ → Option (ObjState W)) (handles : List ℕ) (size handle : ℕ) :
    Stays states (scan states handles size).states handle := by
  refine ⟨scan_ne_none handles size, fun ha o ho => ?_⟩
  obtain ⟨o', h', hs⟩ := scan_spent ho handles size
  exact hs.autoReset.symm.trans (ha o' h')

omit [DecidableEq W] in
lemma stays_onWaiters (f : List W → List W) (handles : List ℕ)
    (states : ℕ → Option (ObjState W)) (handle : ℕ) :
    Stays states (handles.foldl (onWaiters f) states) handle := by
  constructor
  · intro hne
    obtain ⟨o, ho⟩ := Option.ne_none_iff_exists'.mp hne
    rw [foldl_onWaiters f handles ho]
    simp
  · intro ha o ho
    have hauto := ha _ (foldl_onWaiters f handles ho)
    exact hauto

omit [DecidableEq W] in
lemma Stays.trans {s t u : ℕ → Option (ObjState W)} {handle : ℕ} (h : Stays s t handle)
    (h' : Stays t u handle) : Stays s u handle :=
  ⟨fun ho => h'.alive (h.alive ho), fun ha => h.auto (h'.auto ha)⟩

omit [DecidableEq W] in
lemma effect_createEvent {m : HandleManager W}
    (hnone : m.states (eventHandle m.eventIds.length) = none) (manualReset initialState : Bool)
    (handle : ℕ) :
    let m' := m.createEvent manualReset initialState
    Stays m.states m'.states handle ∧ Effect m m' handle := by
  refine ⟨stays_update (fun o ho => absurd (hnone.symm.trans ho) (by simp)) handle, ?_⟩
  by_cases h : handle = eventHandle m.eventIds.length
  · subst h
    refine .created (if initialState then 1 else 0) ?_ hnone ?_ rfl (level_update_self _ _ _)
    · cases initialState <;> simp
    · simp [HandleManager.createEvent, HandleManager.setState]
  · exact .other (.created (eventHandle m.eventIds.length) _) (Ne.symm h) rfl
      (level_congr (Function.update_of_ne h _ _))

omit [DecidableEq W] in
lemma effect_createSemaphore {m : HandleManager W}
    (hnone : m.states (semaphoreHandle m.semaphoreIds.length) = none)
    (initialCount maximumCount : ℤ) {handle : ℕ} (hev : IsEvent handle) :
    let m' := m.createSemaphore initialCount maximumCount
    Stays m.states m'.states handle ∧ Effect m m' handle := by
  refine ⟨stays_update (fun o ho => absurd (hnone.symm.trans ho) (by simp)) handle, ?_⟩
  have h : handle ≠ semaphoreHandle m.semaphoreIds.length := by
    rintro rfl
    exact not_isEvent_of_semaphore (semaphoreHandle_type _) hev
  exact .other (.created (semaphoreHandle m.semaphoreIds.length) _) (Ne.symm h) rfl
    (level_congr (Function.update_of_ne h _ _))

lemma effect_setSignalObject (m : HandleManager W) (k handle : ℕ) :
    Stays m.states (m.setSignalObject k).states handle ∧
      Effect m (m.setSignalObject k) handle := by
  unfold HandleManager.setSignalObject
  cases ho : m.states k with
  | none => exact ⟨stays_congr rfl, .kept rfl rfl⟩
  | some o =>
    have hauto : ∀ o₀, m.states k = some o₀ → o.autoReset = o₀.autoReset := fun o₀ h₀ => by
      rw [Option.some.inj (ho.symm.trans h₀)]
    refine ⟨stays_update (o := { o with signaled := 1 }) hauto handle, ?_⟩
    by_cases h : handle = k
    · subst h
      exact .set rfl (level_update_self _ _ _)
    · exact .other (.set k) (Ne.symm h) rfl (level_congr (Function.update_of_ne h _ _))

omit [DecidableEq W] in
lemma effect_resetSignalObject (m : HandleManager W) (k handle : ℕ) :
    Stays m.states (m.resetSignalObject k).states handle ∧
      Effect m (m.resetSignalObject k) handle := by
  unfold HandleManager.resetSignalObject
  cases ho : m.states k with
  | none => exact ⟨stays_congr rfl, .kept rfl rfl⟩
  | some o =>
    have hauto : ∀ o₀, m.states k = some o₀ → o.autoReset = o₀.autoReset := fun o₀ h₀ => by
      rw [Option.some.inj (ho.symm.trans h₀)]
    refine ⟨stays_update (o := { o with signaled := 0 }) hauto handle, ?_⟩
    by_cases h : handle = k
    · subst h
      exact .reset rfl (level_update_self _ _ _)
    · exact .kept rfl (level_congr (Function.update_of_ne h _ _))

lemma effect_releaseSemaphore {m m' : HandleManager W} {k : ℕ} {count : ℤ} {b : Bool}
    (hm' : m.releaseSemaphore k count = some (b, m')) {handle : ℕ} (hev : IsEvent handle) :
    Stays m.states m'.states handle ∧ Effect m m' handle := by
  rcases releaseSemaphore_cases hm' with ⟨-, rfl⟩ | ⟨-, htype, -, o, maxCount, -, -, -, rfl⟩
  · exact ⟨stays_congr rfl, .kept rfl rfl⟩
  · have h : handle ≠ k := by
      rintro rfl
      exact not_isEvent_of_semaphore htype hev
    exact ⟨stays_congr (Function.update_of_ne h _ _),
      .other (.released k count) (Ne.symm h) rfl (level_congr (Function.update_of_ne h _ _))⟩

lemma effect_waitForObjects (m : HandleManager W) (w : W) {handles : List ℕ} {size : ℕ}
    (hroom : handles.length ≤ size) (timeout : Timeout) (handle : ℕ) :
    let m' := m.waitForObjects w handles size timeout
    Stays m.states m'.states handle ∧ Effect m m' handle := by
  rcases waitForObjects_cases m w handles size timeout with ⟨-, hm'⟩ | ⟨-, hm'⟩ |
    ⟨-, hnil, hm'⟩ <;> rw [hm']
  · exact ⟨stays_congr rfl, .kept rfl rfl⟩
  · exact ⟨stays_scan _ _ _ handle, .returned handles size rfl rfl⟩
  · obtain ⟨hstates, -⟩ := scan_nothing hroom hnil
    refine ⟨(stays_scan m.states handles size handle).trans (stays_onWaiters _ _ _ handle),
      .kept rfl ?_⟩
    exact (level_foldl_onWaiters _ _ _ handle).trans (level_congr (congrFun hstates handle))

lemma effect_wake {m : HandleManager W} (hm : Inv m.states m.waits) (w : W) (timedOut : Bool)
    (handle : ℕ) :
    Stays m.states (m.wake w timedOut).states handle ∧ Effect m (m.wake w timedOut) handle := by
  rcases wake_cases m w timedOut with ⟨-, hm'⟩ |
    ⟨handles, size, timeout, notified, hw, hm' | ⟨hnil, hm'⟩⟩ <;> rw [hm']
  · exact ⟨stays_congr rfl, .kept rfl rfl⟩
  · exact ⟨(stays_scan m.states handles size handle).trans (stays_onWaiters _ _ _ handle),
      .returned handles size rfl (level_foldl_onWaiters _ _ _ handle)⟩
  · obtain ⟨hstates, -⟩ := scan_nothing (hm.room hw) hnil
    exact ⟨stays_scan m.states handles size handle,
      .kept rfl (level_congr (congrFun hstates handle))⟩

theorem step_effect {m : HandleManager W} (hm : Inv m.states m.waits) {i : Input W}
    (hi : Fine m i) {handle : ℕ} (hev : IsEvent handle) :
    Stays m.states (step m i).states handle ∧ Effect m (step m i) handle := by
  cases i with
  | createEvent manualReset initialState => exact effect_createEvent hi _ _ handle
  | createSemaphore initialCount maximumCount => exact effect_createSemaphore hi _ _ hev
  | setEvent k =>
    simp only [step, HandleManager.setEvent]
    split_ifs
    · exact effect_setSignalObject m k handle
    · exact ⟨stays_congr rfl, .kept rfl rfl⟩
  | resetEvent k =>
    simp only [step, HandleManager.resetEvent]
    split_ifs
    · exact effect_resetSignalObject m k handle
    · exact ⟨stays_congr rfl, .kept rfl rfl⟩
  | destroyEvent k => exact hi.elim
  | destroySemaphore k => exact hi.elim
  | releaseSemaphore k count =>
    simp only [step]
    cases hr : m.releaseSemaphore k count with
    | none => exact ⟨stays_congr rfl, .kept rfl rfl⟩
    | some r => exact effect_releaseSemaphore hr hev
  | waitForObjects w handles size timeout => exact effect_waitForObjects m w hi timeout handle
  | wake w timedOut => exact effect_wake hm w timedOut handle

/-- The initial count of an event and its sets. -/
def sets (handle : ℕ) (log : List Entry) : ℕ := log.count (.set handle)

def createdSignaled (handle : ℕ) (log : List Entry) : ℕ :=
  if .created handle 1 ∈ log then 1 else 0

/-- What is known of an event over a whole run. -/
structure EventInv (m : HandleManager W) (handle : ℕ) : Prop where
  fresh : ∀ {n}, .created handle n ∈ m.log → m.states handle ≠ none
  granted : granted handle m.log = sets handle m.log + createdSignaled handle m.log
  ledger : Auto m.states handle → Ledger m.states m.log handle

lemma sets_concat (handle : ℕ) (log : List Entry) (e : Entry) :
    sets handle (log ++ [e]) = sets handle log + if e = .set handle then 1 else 0 := by
  unfold sets
  rw [List.count_append, List.count_singleton]
  simp

lemma createdSignaled_concat {handle : ℕ} {e : Entry} (h : e ≠ .created handle 1)
    (log : List Entry) : createdSignaled handle (log ++ [e]) = createdSignaled handle log := by
  simp [createdSignaled, Ne.symm h]

omit [DecidableEq W] in
/-- An entry of which a handle's count grows by no more than it grants. -/
lemma Ledger.entry {states states' : ℕ → Option (ObjState W)} {log : List Entry} {handle : ℕ}
    (h : Ledger states log handle) {e : Entry} (he : ∀ signaled, e ≠ .returned signaled)
    (h0 : 0 ≤ level states' handle)
    (hle : level states' handle ≤ level states handle + credit handle e) :
    Ledger states' (log ++ [e]) handle := by
  have hreports : reports handle (log ++ [e]) = reports handle log := by
    cases e with
    | returned signaled => exact absurd rfl (he signaled)
    | created | set | released => simp [reports, List.countP_append]
  have hold := h.le
  refine ⟨h0, ?_⟩
  rw [hreports, granted_concat]
  omega

lemma granted_unrelated {handle : ℕ} {e : Entry} (he : e.Unrelated handle) :
    credit handle e = 0 ∧ e ≠ .set handle ∧ (∀ n, e ≠ .created handle n) ∧
      ∀ signaled, e ≠ .returned signaled := by
  cases e <;> simp_all [Entry.Unrelated, credit]

omit [DecidableEq W] in
lemma eventInv_effect {m m' : HandleManager W} {handle : ℕ} (hlt : handle < 0x80000000)
    (h : EventInv m handle) (hstays : Stays m.states m'.states handle)
    (heffect : Effect m m' handle) : EventInv m' handle := by
  cases heffect with
  | kept hlog hlevel =>
    refine ⟨fun hc => hstays.alive (h.fresh (hlog ▸ hc)), hlog ▸ h.granted, fun ha => ?_⟩
    obtain ⟨h0, hle⟩ := h.ledger (hstays.auto ha)
    exact ⟨hlevel ▸ h0, by rw [hlog, hlevel]; exact hle⟩
  | reset hlog hlevel =>
    refine ⟨fun hc => hstays.alive (h.fresh (hlog ▸ hc)), hlog ▸ h.granted, fun ha => ?_⟩
    obtain ⟨h0, hle⟩ := h.ledger (hstays.auto ha)
    exact ⟨hlevel ▸ le_rfl, by rw [hlog, hlevel]; omega⟩
  | other e he hlog hlevel =>
    obtain ⟨hcredit, hset, hcreated, hreturned⟩ := granted_unrelated he
    refine ⟨fun {n} hc => ?_, ?_, fun ha => ?_⟩
    · rw [hlog, List.mem_append, List.mem_singleton] at hc
      exact hstays.alive (h.fresh (hc.resolve_right (hcreated n).symm))
    · rw [hlog, granted_concat, hcredit, sets_concat, if_neg hset,
        createdSignaled_concat (hcreated 1), h.granted]
      simp
    · have hl := h.ledger (hstays.auto ha)
      rw [hlog]
      exact hl.entry hreturned (hlevel ▸ hl.nonneg) (by rw [hlevel, hcredit]; omega)
  | created n hn hnone hsome hlog hlevel =>
    have hnew : ∀ n, .created handle n ∉ m.log := fun n hc => h.fresh hc hnone
    have hauto : Auto m.states handle := fun o ho => absurd (hnone.symm.trans ho) (by simp)
    have hl := h.ledger hauto
    have hzero : level m.states handle = 0 := by simp [level, hnone]
    refine ⟨fun _ => hsome, ?_, fun _ => ?_⟩
    · rw [hlog, granted_concat, sets_concat, h.granted]
      rcases hn with rfl | rfl <;> simp [createdSignaled, credit, hnew]
    · rw [hlog]
      refine hl.entry (by simp) ?_ ?_
      · rw [hlevel]
        rcases hn with rfl | rfl <;> simp
      · rw [hlevel, hzero]
        simp [credit]
  | set hlog hlevel =>
    refine ⟨fun {n} hc => ?_, ?_, fun ha => ?_⟩
    · rw [hlog, List.mem_append, List.mem_singleton] at hc
      exact hstays.alive (h.fresh (hc.resolve_right (by simp)))
    · rw [hlog, granted_concat, sets_concat, if_pos rfl, createdSignaled_concat (by simp),
        h.granted]
      simp only [credit, if_true]
      push_cast
      omega
    · have hl := h.ledger (hstays.auto ha)
      rw [hlog]
      refine hl.entry (by simp) (by rw [hlevel]; simp) ?_
      have h0 := hl.nonneg
      rw [hlevel]
      simp only [credit, if_true]
      omega
  | returned handles size hlog hlevel =>
    refine ⟨fun {n} hc => ?_, ?_, fun ha => ?_⟩
    · rw [hlog, List.mem_append, List.mem_singleton] at hc
      exact hstays.alive (h.fresh (hc.resolve_right (by simp)))
    · rw [hlog, granted_concat, sets_concat, if_neg (by simp), createdSignaled_concat (by simp),
        h.granted]
      simp [credit]
    · have hauto := hstays.auto ha
      have hl := (h.ledger hauto).returned hlt (fun o ho => Or.inl (hauto o ho)) handles size
      rw [hlog]
      exact ⟨hlevel ▸ hl.nonneg, by rw [hlevel]; exact hl.le⟩

/-- The whole of what a run keeps. -/
structure RunInv (m : HandleManager W) : Prop where
  waits : Inv m.states m.waits
  event : ∀ handle, IsEvent handle → EventInv m handle

lemma runInv_start : RunInv (start : HandleManager W) := by
  refine ⟨inv_start, fun handle _ => ⟨fun hc => ?_, rfl, fun _ => ⟨le_rfl, le_rfl⟩⟩⟩
  exact absurd hc List.not_mem_nil

theorem runInv_step (m : HandleManager W) (i : Input W) (hm : RunInv m) (hi : Fine m i) :
    RunInv (step m i) := by
  refine ⟨inv_step m i hm.waits hi, fun handle hev => ?_⟩
  obtain ⟨hstays, heffect⟩ := step_effect hm.waits hi hev
  exact eventInv_effect (lt_of_type hev (by decide)) (hm.event handle hev) hstays heffect

/-- **No signal is stranded.** While an event is signaled and someone is in its list of
waiters, one of these has a notification that it has not woken from yet; and an event that
resets itself is reported by no more waits than it was set, one more if it was created
signaled. -/
theorem no_stranded_signal (l : List (Input W)) (hl : Each step Fine (start : HandleManager W) l)
    {handle : ℕ} (hev : IsEvent handle) {o : ObjState W}
    (ho : (run step (start : HandleManager W) l).states handle = some o) :
    let m := run step (start : HandleManager W) l
    (0 < o.signaled → o.waiters ≠ [] → ∃ w ∈ o.waiters, (m.waits w).notified = true) ∧
      (o.autoReset = true →
        reports handle m.log ≤ sets handle m.log + createdSignaled handle m.log) := by
  intro m
  have hm : RunInv m := hl.invariant runInv_step runInv_start
  constructor
  · intro hpos hne
    have hwoken := hm.waits.woken hev ho hpos
    unfold Woken at hwoken
    split_ifs at hwoken
    · exact hwoken hne
    · obtain ⟨w, hw⟩ := List.exists_mem_of_ne_nil _ hne
      exact ⟨w, hw, hwoken w hw⟩
  · intro hauto
    have he := hm.event handle hev
    have hsome : Auto m.states handle := fun o' ho' => by
      rw [← Option.some.inj (ho.symm.trans ho')]
      exact hauto
    obtain ⟨h0, hle⟩ := he.ledger hsome
    have hgranted := he.granted
    omega

/-- Two waits block on an event, which is set twice. The first has woken in between and taken the
signal; the second has not woken yet. -/
theorem no_stranded_signal_two_waits :
    let l : List (Input Bool) := [.createEvent false false,
      .waitForObjects true [eventHandle 0] 1 .never, .waitForObjects false [eventHandle 0] 1 .never,
      .setEvent (eventHandle 0), .wake true false, .setEvent (eventHandle 0)]
    let m := run step (start : HandleManager Bool) l
    (∃ w ∈ [false], (m.waits w).notified = true) ∧ reports (eventHandle 0) m.log = 1 ∧
      reports (eventHandle 0) m.log ≤
        sets (eventHandle 0) m.log + createdSignaled (eventHandle 0) m.log := by
  intro l m
  have hl : Each step Fine (start : HandleManager Bool) l := by
    simp [l, Fine, start]
  have ho : m.states (eventHandle 0) =
      some { signaled := 1, autoReset := true, waiters := [false] } := rfl
  obtain ⟨hnotified, hreports⟩ := no_stranded_signal l hl (eventHandle_type 0) ho
  exact ⟨hnotified Int.one_pos (List.cons_ne_nil _ _), by decide +kernel, hreports rfl⟩

end Kuavo.Synchronization
