import Kuavo.EventWaits

/-!
Events and semaphores that are destroyed while waits on any sets of handles come and go.

A wait that wakes takes itself out of the lists of waiters by `manager.states[handle]`, which
makes the state of a handle that was destroyed in the meantime anew.
-/

namespace Kuavo.Synchronization

open Kuavo.Lib.Runs

variable {W : Type*} [DecidableEq W]

/-- The creations that hand out a handle. -/
def Creates (m : HandleManager W) (handle : ℕ) : Input W → Prop
  | .createEvent _ _ => eventHandle m.eventIds.length = handle
  | .createSemaphore _ _ => semaphoreHandle m.semaphoreIds.length = handle
  | _ => False

def Destroys (handle : ℕ) : Input W → Prop
  | .destroyEvent h => h = handle ∧ handle >>> 24 = kHandleTypeEvent
  | .destroySemaphore h => h = handle ∧ handle >>> 24 = kHandleTypeSemaphore
  | _ => False

/-- What is asked of the callers: `signaled` is at least of the size of `handles`. -/
def Room : Input W → Prop
  | .waitForObjects _ handles size _ => handles.length ≤ size
  | _ => True

def Blocked (m : HandleManager W) (handle : ℕ) (w : W) : Prop := handle ∈ (m.waits w).handles

/-- There is no state for a handle, and every wait on it returns at once with its error bit. -/
structure Gone (m : HandleManager W) (handle : ℕ) : Prop where
  state : m.states handle = none
  waits : ∀ w handles size timeout, m.waits w = .idle → handle ∈ handles →
    handles.length ≤ size →
    let m' := m.waitForObjects w handles size timeout
    m'.waits w = .idle ∧
      ∃ signaled, m'.log = m.log ++ [.returned signaled] ∧ handle ||| 0x80000000 ∈ signaled

/-- Every wait that is blocked on a handle returns in the course of the run `b`. -/
def Returned (m : HandleManager W) (handle : ℕ) (b : List (Input W)) : Prop :=
  ∀ w, Blocked m handle w → ∃ b', b' <+: b ∧ (run step m b').waits w = .idle

/-- The run `l` begins with `a`, goes on with the destruction `i` of a handle and then with `b`,
in which the handle is not handed out anew and every wait returns that was blocked on it. -/
structure Aftermath (l a : List (Input W)) (i : Input W) (b : List (Input W)) (handle : ℕ) :
    Prop where
  begins : a ++ i :: b <+: l
  destroys : Destroys handle i
  notMade : Each step (fun m j => ¬ Creates m handle j) (run step start (a ++ [i])) b
  returned : Returned (run step start (a ++ [i])) handle b

/-- What is destroyed is gone when the waits on it have returned. -/
def Law (l : List (Input W)) : Prop :=
  ∀ a i b handle, Aftermath l a i b handle → Gone (run step start (a ++ i :: b)) handle

/-- No wait is blocked on what is destroyed. -/
def Alone (m : HandleManager W) (i : Input W) : Prop :=
  ∀ handle, Destroys handle i → ∀ w, ¬ Blocked m handle w

/-! ### A handle without a state is reported -/

section Pass

variable {size : ℕ} {handle : ℕ}

omit [DecidableEq W] in
/-- A pass adds to what was reported, for each handle at most one report. -/
lemma signaled_scanHandle (size : ℕ) (r : Scan W) (other : ℕ) :
    ∃ l, l.length ≤ 1 ∧ (scanHandle size r other).signaled = r.signaled ++ l := by
  have hreport : ∀ k, ∃ l, l.length ≤ 1 ∧ r.report size k = r.signaled ++ l := by
    intro k
    rcases report_cases r size k with hr | hr
    · exact ⟨[], Nat.zero_le 1, by simp [hr]⟩
    · exact ⟨[k], Nat.le_refl 1, hr⟩
  unfold scanHandle
  cases r.states other with
  | none => exact hreport _
  | some state =>
    dsimp only
    split_ifs
    · exact hreport _
    · exact hreport _
    · exact ⟨[], Nat.zero_le 1, by simp⟩

omit [DecidableEq W] in
lemma mem_foldl_scanHandle {r : Scan W} {reported : ℕ} (h : reported ∈ r.signaled)
    (handles : List ℕ) : reported ∈ (handles.foldl (scanHandle size) r).signaled := by
  induction handles generalizing r with
  | nil => exact h
  | cons other handles ih =>
    obtain ⟨l, -, hl⟩ := signaled_scanHandle size r other
    exact ih (by rw [hl]; exact List.mem_append_left l h)

omit [DecidableEq W] in
lemma foldl_scanHandle_missing {r : Scan W} (h : r.states handle = none) {handles : List ℕ}
    (hmem : handle ∈ handles) (hroom : r.signaled.length + handles.length ≤ size) :
    handle ||| 0x80000000 ∈ (handles.foldl (scanHandle size) r).signaled := by
  induction handles generalizing r with
  | nil => exact absurd hmem List.not_mem_nil
  | cons other handles ih =>
    rw [List.length_cons] at hroom
    rw [List.foldl_cons]
    by_cases heq : handle = other
    · subst heq
      have hlt : r.signaled.length < size := by omega
      refine mem_foldl_scanHandle ?_ handles
      simp [scanHandle, h, Scan.report, hlt]
    · obtain ⟨l, hle, hl⟩ := signaled_scanHandle size r other
      refine ih (scanHandle_none h) (by simpa [heq] using hmem) ?_
      rw [hl, List.length_append]
      omega

omit [DecidableEq W] in
lemma scan_missing {states : ℕ → Option (ObjState W)} (h : states handle = none)
    {handles : List ℕ} (hmem : handle ∈ handles) (hroom : handles.length ≤ size) :
    handle ||| 0x80000000 ∈ (scan states handles size).signaled :=
  foldl_scanHandle_missing h hmem (by simpa using hroom)

end Pass

/-- A wait on what is not there returns at once. -/
lemma gone_of_none {m : HandleManager W} {handle : ℕ} (h : m.states handle = none) :
    Gone m handle := by
  refine ⟨h, fun w handles size timeout hw hmem hroom => ?_⟩
  have hreported := scan_missing h hmem hroom
  have hne : (scan m.states handles size).signaled ≠ [] := List.ne_nil_of_mem hreported
  simp only [HandleManager.waitForObjects, hw, hne, ne_eq, not_false_eq_true, true_or, if_true]
  exact ⟨trivial, _, rfl, hreported⟩

/-! ### What a step does -/

/-- What sets, resets, destructions and releases do: they make no state, and at most notify. -/
structure Calm (m m' : HandleManager W) : Prop where
  states : ∀ {handle}, m.states handle = none → m'.states handle = none
  waits : ∃ ws, m'.waits = notifyAll m.waits ws

lemma Calm.refl (m : HandleManager W) : Calm m m := ⟨id, [], by simp⟩

lemma Calm.handles {m m' : HandleManager W} (h : Calm m m') (w : W) :
    (m'.waits w).handles = (m.waits w).handles := by
  obtain ⟨ws, hws⟩ := h.waits
  rw [hws, handles_notifyAll]

lemma Calm.blocked_iff {m m' : HandleManager W} (h : Calm m m') (handle : ℕ) (w : W) :
    Blocked m' handle w ↔ Blocked m handle w := by
  unfold Blocked
  rw [h.handles w]

lemma Calm.idle {m m' : HandleManager W} (h : Calm m m') {w : W} (hw : m'.waits w = .idle) :
    m.waits w = .idle := by
  obtain ⟨ws, hws⟩ := h.waits
  rw [hws] at hw
  unfold notifyAll at hw
  cases hwait : m.waits w with
  | idle => rfl
  | blocked handles size timeout notified =>
    rw [hwait] at hw
    split_ifs at hw
    simp [Wait.notify] at hw

omit [DecidableEq W] in
/-- A state that is there is replaced. -/
lemma update_none {states : ℕ → Option (ObjState W)} {k handle : ℕ} {o : ObjState W}
    (hk : states k = some o) (h : states handle = none) (o' : Option (ObjState W)) :
    Function.update states k o' handle = none := by
  have hne : handle ≠ k := by
    rintro rfl
    exact absurd (h.symm.trans hk) (by simp)
  rw [Function.update_of_ne hne, h]

lemma calm_setSignalObject (m : HandleManager W) (k : ℕ) : Calm m (m.setSignalObject k) := by
  unfold HandleManager.setSignalObject
  cases ho : m.states k with
  | none => exact .refl m
  | some o => exact ⟨fun h => update_none ho h _, _, rfl⟩

lemma calm_resetSignalObject (m : HandleManager W) (k : ℕ) : Calm m (m.resetSignalObject k) := by
  unfold HandleManager.resetSignalObject
  cases ho : m.states k with
  | none => exact .refl m
  | some o => exact ⟨fun h => update_none ho h _, [], by simp [HandleManager.setState]⟩

lemma calm_destroySignalObject (m : HandleManager W) (k : ℕ) :
    Calm m (m.destroySignalObject k) := by
  unfold HandleManager.destroySignalObject
  cases ho : m.states k with
  | none => exact .refl m
  | some o => exact ⟨fun h => update_none ho h _, _, rfl⟩

lemma calm_destroy (m : HandleManager W) (type k : ℕ) : Calm m (m.destroy type k) := by
  unfold HandleManager.destroy
  split_ifs
  · exact ⟨(calm_destroySignalObject m k).states, (calm_destroySignalObject m k).waits⟩
  · exact .refl m

lemma calm_releaseSemaphore {m m' : HandleManager W} {k : ℕ} {count : ℤ} {b : Bool}
    (h : m.releaseSemaphore k count = some (b, m')) : Calm m m' := by
  rcases releaseSemaphore_cases h with ⟨-, rfl⟩ | ⟨-, -, -, o, maxCount, ho, -, -, rfl⟩
  · exact .refl m'
  · exact ⟨fun hn => update_none ho hn _, _, rfl⟩

/-- Only creations and waits are not calm. -/
theorem step_cases (m : HandleManager W) (i : Input W) :
    Calm m (step m i) ∨
      (∃ handle o, Creates m handle i ∧
        (step m i).states = Function.update m.states handle (some o) ∧
        (step m i).waits = m.waits) ∨
      (∃ w handles size timeout, i = .waitForObjects w handles size timeout) ∨
      ∃ w timedOut, i = .wake w timedOut := by
  cases i with
  | createEvent manualReset initialState => exact Or.inr (Or.inl ⟨_, _, rfl, rfl, rfl⟩)
  | createSemaphore initialCount maximumCount => exact Or.inr (Or.inl ⟨_, _, rfl, rfl, rfl⟩)
  | setEvent k =>
    left
    simp only [step, HandleManager.setEvent]
    split_ifs
    · exact calm_setSignalObject m k
    · exact .refl m
  | resetEvent k =>
    left
    simp only [step, HandleManager.resetEvent]
    split_ifs
    · exact calm_resetSignalObject m k
    · exact .refl m
  | destroyEvent k => exact Or.inl (calm_destroy m _ k)
  | destroySemaphore k => exact Or.inl (calm_destroy m _ k)
  | releaseSemaphore k count =>
    left
    simp only [step]
    cases hr : m.releaseSemaphore k count with
    | none => exact .refl m
    | some r => exact calm_releaseSemaphore hr
  | waitForObjects w handles size timeout => exact Or.inr (Or.inr (Or.inl ⟨_, _, _, _, rfl⟩))
  | wake w timedOut => exact Or.inr (Or.inr (Or.inr ⟨_, _, rfl⟩))

lemma calm_of_destroys {m : HandleManager W} {handle : ℕ} {i : Input W} (h : Destroys handle i) :
    Calm m (step m i) := by
  cases i with
  | destroyEvent k => exact calm_destroy m _ k
  | destroySemaphore k => exact calm_destroy m _ k
  | _ => exact h.elim

lemma none_of_destroys {m : HandleManager W} {handle : ℕ} {i : Input W} (h : Destroys handle i) :
    (step m i).states handle = none := by
  have hnone : (m.destroySignalObject handle).states handle = none := by
    unfold HandleManager.destroySignalObject
    cases ho : m.states handle <;> simp [ho]
  cases i with
  | destroyEvent k =>
    obtain ⟨rfl, htype⟩ := h
    simpa [step, HandleManager.destroy, htype] using hnone
  | destroySemaphore k =>
    obtain ⟨rfl, htype⟩ := h
    simpa [step, HandleManager.destroy, htype] using hnone
  | _ => exact h.elim

/-! ### A destruction that meets no wait -/

/-- Without a state, and no wait is blocked on it. -/
structure Absent (m : HandleManager W) (handle : ℕ) : Prop where
  state : m.states handle = none
  free : ∀ w, ¬ Blocked m handle w

/-- One wait changes, and is not blocked on the handle. -/
lemma free_update {m : HandleManager W} {handle : ℕ} (h : ∀ v, ¬ Blocked m handle v) {w : W}
    {wait : Wait} (hwait : handle ∉ wait.handles) (v : W) :
    handle ∉ (Function.update m.waits w wait v).handles := by
  by_cases hvw : v = w
  · subst hvw
    simpa using hwait
  · simpa [hvw, Blocked] using h v

lemma absent_waitForObjects {m : HandleManager W} {handle : ℕ} (h : Absent m handle) (w : W)
    {handles : List ℕ} {size : ℕ} (hroom : handles.length ≤ size) (timeout : Timeout) :
    Absent (m.waitForObjects w handles size timeout) handle := by
  rcases waitForObjects_cases m w handles size timeout with ⟨-, hm'⟩ | ⟨-, hm'⟩ |
    ⟨-, hnil, hm'⟩ <;> rw [hm']
  · exact h
  · exact ⟨scan_none h.state handles size, h.free⟩
  · have hnot : handle ∉ handles := fun hmem =>
      List.ne_nil_of_mem (scan_missing h.state hmem hroom) hnil
    constructor
    · exact (foldl_onWaiters_other _ handles _ hnot).trans (scan_none h.state handles size)
    · exact free_update h.free hnot

lemma absent_wake {m : HandleManager W} {handle : ℕ} (h : Absent m handle) (w : W)
    (timedOut : Bool) : Absent (m.wake w timedOut) handle := by
  rcases wake_cases m w timedOut with ⟨-, hm'⟩ |
    ⟨handles, size, timeout, notified, hw, hm' | ⟨-, hm'⟩⟩ <;> rw [hm']
  · exact h
  · have hnot : handle ∉ handles := by simpa [Blocked, hw, Wait.handles] using h.free w
    refine ⟨?_, free_update h.free List.not_mem_nil⟩
    exact (foldl_onWaiters_other _ handles _ hnot).trans (scan_none h.state handles size)
  · have hnot : handle ∉ handles := by simpa [Blocked, hw, Wait.handles] using h.free w
    exact ⟨scan_none h.state handles size, free_update h.free hnot⟩

lemma absent_step {m : HandleManager W} {handle : ℕ} (h : Absent m handle) {i : Input W}
    (hroom : Room i) (hnot : ¬ Creates m handle i) : Absent (step m i) handle := by
  rcases step_cases m i with hcalm | ⟨k, o, hmade, hstates, hwaits⟩ | ⟨w, handles, size, timeout,
    rfl⟩ | ⟨w, timedOut, rfl⟩
  · exact ⟨hcalm.states h.state, fun w hw => h.free w ((hcalm.blocked_iff handle w).mp hw)⟩
  · have hne : handle ≠ k := by
      rintro rfl
      exact hnot hmade
    refine ⟨by rw [hstates, Function.update_of_ne hne, h.state], fun w hw => h.free w ?_⟩
    unfold Blocked at hw ⊢
    rwa [hwaits] at hw
  · exact absent_waitForObjects h w hroom timeout
  · exact absent_wake h w timedOut

/-- **A destruction that meets no wait is final**, until the handle is handed out anew. -/
theorem absent_run {m : HandleManager W} {handle : ℕ} {i : Input W} (hi : Destroys handle i)
    (hfree : ∀ w, ¬ Blocked m handle w) {b : List (Input W)} (hroom : ∀ j ∈ b, Room j)
    (hb : Each step (fun m j => ¬ Creates m handle j) (step m i) b) :
    Absent (run step (step m i) b) handle := by
  have hstart : Absent (step m i) handle :=
    ⟨none_of_destroys hi, fun w hw => hfree w (((calm_of_destroys hi).blocked_iff handle w).mp hw)⟩
  generalize step m i = m' at hb hstart
  induction b generalizing m' with
  | nil => exact hstart
  | cons j b ih =>
    have hj := absent_step hstart (hroom j List.mem_cons_self) hb.1
    exact ih (fun k hk => hroom k (List.mem_cons_of_mem j hk)) _ hb.2 hj

/-! ### A destruction that meets a wait -/

omit [DecidableEq W] in
/-- The lookup of a list of waiters makes what it does not find. -/
lemma foldl_onWaiters_ne_none (f : List W → List W) {handles : List ℕ}
    (states : ℕ → Option (ObjState W)) {handle : ℕ} (hmem : handle ∈ handles) :
    handles.foldl (onWaiters f) states handle ≠ none := by
  induction handles generalizing states with
  | nil => exact absurd hmem List.not_mem_nil
  | cons other handles ih =>
    rw [List.foldl_cons]
    by_cases htail : handle ∈ handles
    · exact ih _ htail
    · obtain rfl : handle = other := by simpa [htail] using hmem
      rw [foldl_onWaiters_other f handles _ htail]
      simp [onWaiters]

/-- A blocked wait stays so with its handles, or returns and leaves a state for each. -/
lemma blocked_wake {m : HandleManager W} (w v : W) (timedOut : Bool) (hw : m.waits w ≠ .idle) :
    ((m.wake v timedOut).waits w ≠ .idle ∧
        ((m.wake v timedOut).waits w).handles = (m.waits w).handles) ∨
      ((m.wake v timedOut).waits w = .idle ∧
        ∀ handle ∈ (m.waits w).handles, (m.wake v timedOut).states handle ≠ none) := by
  rcases wake_cases m v timedOut with ⟨-, hm'⟩ |
    ⟨handles, size, timeout, notified, hv, hm'⟩
  · rw [hm']
    exact Or.inl ⟨hw, rfl⟩
  · by_cases hwv : w = v
    · subst hwv
      rcases hm' with hm' | ⟨-, hm'⟩ <;> rw [hm']
      · right
        refine ⟨by simp [HandleManager.setWait], fun handle hmem => ?_⟩
        rw [hv] at hmem
        exact foldl_onWaiters_ne_none _ _ hmem
      · left
        simp [HandleManager.setWait, hv, Wait.handles]
    · left
      rcases hm' with hm' | ⟨-, hm'⟩ <;> simp [hm', HandleManager.setWait, hwv, hw]

lemma blocked_waitForObjects {m : HandleManager W} (w v : W) (handles : List ℕ) (size : ℕ)
    (timeout : Timeout) (hw : m.waits w ≠ .idle) :
    (m.waitForObjects v handles size timeout).waits w = m.waits w := by
  rcases waitForObjects_cases m v handles size timeout with ⟨-, hm'⟩ | ⟨-, hm'⟩ |
    ⟨hv, -, hm'⟩ <;> rw [hm']
  have hwv : w ≠ v := by
    rintro rfl
    exact hw hv
  simp [HandleManager.setWait, hwv]

lemma blocked_step {m : HandleManager W} {w : W} (hw : m.waits w ≠ .idle) (i : Input W) :
    ((step m i).waits w ≠ .idle ∧ ((step m i).waits w).handles = (m.waits w).handles) ∨
      ((step m i).waits w = .idle ∧
        ∀ handle ∈ (m.waits w).handles, (step m i).states handle ≠ none) := by
  rcases step_cases m i with hcalm | ⟨k, o, -, -, hwaits⟩ | ⟨v, handles, size, timeout, rfl⟩ |
    ⟨v, timedOut, rfl⟩
  · exact Or.inl ⟨fun hidle => hw (hcalm.idle hidle), hcalm.handles w⟩
  · exact Or.inl (by rw [hwaits]; exact ⟨hw, rfl⟩)
  · have hsame := blocked_waitForObjects w v handles size timeout hw
    exact Or.inl (by rw [step, hsame]; exact ⟨hw, rfl⟩)
  · exact blocked_wake w v timedOut hw

/-- As long as a wait has not returned it is blocked on the same handles. -/
lemma handles_run {m : HandleManager W} {w : W} {b : List (Input W)}
    (hb : ∀ b', b' <+: b → (run step m b').waits w ≠ .idle) :
    ((run step m b).waits w).handles = (m.waits w).handles := by
  induction b using List.reverseRecOn with
  | nil => rfl
  | append_singleton b j ih =>
    have hold := ih fun b' hb' => hb b' (hb'.trans (List.prefix_append b [j]))
    have hnow := hb (b ++ [j]) (List.prefix_refl _)
    rw [run_concat] at hnow ⊢
    rcases blocked_step (hb b (List.prefix_append b [j])) j with ⟨-, hsame⟩ | ⟨hidle, -⟩
    · exact hsame.trans hold
    · exact absurd hidle hnow

omit [DecidableEq W] in
lemma not_idle_of_blocked {m : HandleManager W} {handle : ℕ} {w : W} (h : Blocked m handle w) :
    m.waits w ≠ .idle := by
  intro hidle
  rw [Blocked, hidle] at h
  exact List.not_mem_nil h

/-- **The last wait to return makes the handle anew**: when each wait that is blocked on a handle
has returned, there was a moment before at which all had and there was a state for it. -/
theorem exists_made {m : HandleManager W} {handle : ℕ} {w : W} (hw : Blocked m handle w)
    {b : List (Input W)} (hb : Returned m handle b) :
    ∃ b₁, b₁ <+: b ∧ Returned m handle b₁ ∧ (run step m b₁).states handle ≠ none := by
  -- before the first step `w` has not returned
  have h0 : ¬ Returned m handle [] := by
    intro hall
    obtain ⟨b', hb', hidle⟩ := hall w hw
    rw [List.prefix_nil.mp hb'] at hidle
    exact not_idle_of_blocked hw hidle
  obtain ⟨b₁, j, b₂, rfl, hnot, hall⟩ := exists_turn (F := Returned m handle) h0 hb
  refine ⟨b₁ ++ [j], ⟨b₂, by simp⟩, hall, ?_⟩
  -- the last one that returned
  unfold Returned at hnot
  push Not at hnot
  obtain ⟨v, hv, hbefore⟩ := hnot
  obtain ⟨b', hb', hidle⟩ := hall v hv
  rcases List.prefix_concat_iff.mp hb' with rfl | hb'
  · rw [run_concat] at hidle ⊢
    rcases blocked_step (hbefore b₁ (List.prefix_refl _)) j with ⟨hstill, -⟩ | ⟨-, hmade⟩
    · exact absurd hidle hstill
    · refine hmade handle ?_
      rw [handles_run hbefore]
      exact hv
  · exact absurd hidle (hbefore b' hb')

/-! ### Runs -/

/-- **What is destroyed is gone** in exactly the runs in which no wait was blocked on it, or one of
these has not returned; in particular in those that destroy only what no wait is blocked on. -/
theorem destroyed_gone_iff (l : List (Input W)) (hroom : ∀ i ∈ l, Room i) :
    (Law l ↔ ∀ a i b handle, Aftermath l a i b handle →
      ∀ w, ¬ Blocked (run step start a) handle w) ∧
    (Each step Alone start l → Law l) := by
  have hfinal : ∀ a i b handle, Aftermath l a i b handle →
      (∀ w, ¬ Blocked (run step start a) handle w) →
      Gone (run step start (a ++ i :: b)) handle := by
    intro a i b handle h hfree
    have hb : ∀ j ∈ b, Room j := fun j hj =>
      hroom j (h.begins.subset (List.mem_append_right a (List.mem_cons_of_mem i hj)))
    have hmade := h.notMade
    rw [run_concat] at hmade
    rw [run_append]
    exact gone_of_none (absent_run h.destroys hfree hb hmade).state
  refine ⟨⟨fun hlaw a i b handle h w hw => ?_, fun hfree a i b handle h =>
    hfinal a i b handle h (hfree a i b handle h)⟩, fun hl a i b handle h => ?_⟩
  · have hblocked : Blocked (run step start (a ++ [i])) handle w := by
      rw [run_concat]
      exact ((calm_of_destroys h.destroys).blocked_iff handle w).mpr hw
    obtain ⟨b₁, ⟨b₂, rfl⟩, hall, hsome⟩ := exists_made hblocked h.returned
    have hearly : Aftermath l a i b₁ handle := by
      refine ⟨?_, h.destroys, ((each_append _ _ _).mp h.notMade).1, hall⟩
      exact List.IsPrefix.trans ⟨b₂, by simp⟩ h.begins
    refine hsome ?_
    have hgone := (hlaw a i b₁ handle hearly).state
    rwa [List.append_cons, run_append] at hgone
  · obtain ⟨c, rfl⟩ := h.begins
    rw [List.append_assoc] at hl
    exact hfinal a i b handle h (((each_append _ _ _).mp hl).2.1 handle h.destroys)

/-- An event is waited for, set and destroyed, and waited for again. -/
theorem destroyed_gone_iff_alone :
    let l : List (Input Bool) := [.createEvent false false,
      .waitForObjects true [eventHandle 0] 1 .never, .setEvent (eventHandle 0), .wake true false,
      .destroyEvent (eventHandle 0), .waitForObjects false [eventHandle 0] 1 .never]
    Law l := by
  intro l
  have halone : Each step Alone start l := by
    refine ⟨fun _ h => h.elim, fun _ h => h.elim, fun _ h => h.elim, fun _ h => h.elim, ?_,
      fun _ h => h.elim, trivial⟩
    rintro handle ⟨rfl, -⟩ w
    unfold Blocked
    revert w
    decide
  exact (destroyed_gone_iff l (by simp [l, Room])).2 halone

/-- A wait is blocked on an event when it is destroyed. When it has woken and returned there is
a state for the event again, and the next wait on it is blocked. -/
theorem destroyed_made_again :
    let l : List (Input Bool) := [.createEvent false false,
      .waitForObjects true [eventHandle 0] 1 .never, .destroyEvent (eventHandle 0),
      .wake true false]
    ¬ Law l ∧ (((run step start l).waitForObjects false [eventHandle 0] 1 .never).waits
      false).handles = [eventHandle 0] := by
  intro l
  refine ⟨fun hlaw => ?_, by decide⟩
  have hreturned : ∀ w : Bool, (run step start l).waits w = .idle := by
    intro w
    cases w <;> rfl
  have hgone := hlaw (l.take 2) (.destroyEvent (eventHandle 0)) [.wake true false] (eventHandle 0)
    { begins := List.prefix_refl l
      destroys := ⟨rfl, by decide⟩
      notMade := ⟨id, trivial⟩
      returned := fun w _ => ⟨_, List.prefix_refl _, hreturned w⟩ }
  have hsome : ((run step start l).states (eventHandle 0)).isSome = true := by decide
  have hnone : (run step start l).states (eventHandle 0) = none := hgone.state
  rw [hnone] at hsome
  exact absurd hsome (by simp)

end Kuavo.Synchronization
