import Kuavo.Lib.Runs
import Mathlib.Algebra.Order.Ring.Int
import Mathlib.Data.List.Count
import Mathlib.Data.Nat.Bitwise
import Mathlib.Tactic.NormNum

/-!
`lib/common/Synchronization.cpp`: events, semaphores and `waitForObjects`.

Everything happens under the mutex of the manager, which a wait gives up only while it is
blocked on its condition variable. So each call is one step, and a wait takes a further step
each time it wakes: notified, timed out, or for no reason.
-/

namespace Kuavo.Synchronization

open Kuavo.Lib.Runs

abbrev WPI_Handle := ℕ

def kHandleTypeEvent : ℕ := 1
def kHandleTypeSemaphore : ℕ := 2

/-- `State`; the waiters are the waits whose condition variables are in the list. -/
structure ObjState (W : Type*) where
  signaled : ℤ := 0
  autoReset : Bool := false
  waiters : List W := []

/-- Whether `timeout` is zero, negative or positive. -/
inductive Timeout
  | zero | never | finite
  deriving DecidableEq

/-- A call of `waitForObjects` that is not there, or is blocked. -/
inductive Wait
  | idle
  | blocked (handles : List WPI_Handle) (size : ℕ) (timeout : Timeout) (notified : Bool)

/-- What has happened, for the record. -/
inductive Entry
  | created (handle : WPI_Handle) (initial : ℤ)
  | set (handle : WPI_Handle)
  | released (handle : WPI_Handle) (count : ℤ)
  | returned (signaled : List WPI_Handle)
  deriving DecidableEq

structure HandleManager (W : Type*) where
  eventIds : List ℤ := []
  semaphoreIds : List ℤ := []
  states : WPI_Handle → Option (ObjState W) := fun _ => none
  waits : W → Wait := fun _ => .idle
  log : List Entry := []

def eventHandle (index : ℕ) : ℕ := kHandleTypeEvent <<< 24 ||| (index &&& 0xffffff)

def semaphoreHandle (index : ℕ) : ℕ :=
  kHandleTypeSemaphore <<< 24 ||| (index &&& 0xffffff)

lemma handle_eq (type index : ℕ) :
    type <<< 24 ||| (index &&& 0xffffff) = type * 2 ^ 24 + index % 2 ^ 24 := by
  rw [show (0xffffff : ℕ) = 2 ^ 24 - 1 from rfl, Nat.and_two_pow_sub_one_eq_mod,
    ← Nat.shiftLeft_add_eq_or_of_lt (Nat.mod_lt _ (by norm_num)), Nat.shiftLeft_eq]

lemma eventHandle_eq (index : ℕ) : eventHandle index = 2 ^ 24 + index % 2 ^ 24 := by
  unfold eventHandle kHandleTypeEvent
  rw [handle_eq, Nat.one_mul]

lemma semaphoreHandle_eq (index : ℕ) : semaphoreHandle index = 2 * 2 ^ 24 + index % 2 ^ 24 :=
  handle_eq 2 index

@[simp] lemma eventHandle_type (index : ℕ) : eventHandle index >>> 24 = kHandleTypeEvent := by
  rw [eventHandle_eq, Nat.shiftRight_eq_div_pow]
  unfold kHandleTypeEvent
  omega

@[simp] lemma semaphoreHandle_type (index : ℕ) :
    semaphoreHandle index >>> 24 = kHandleTypeSemaphore := by
  rw [semaphoreHandle_eq, Nat.shiftRight_eq_div_pow]
  unfold kHandleTypeSemaphore
  omega

lemma semaphoreHandle_index {index : ℕ} (h : index < 2 ^ 24) :
    semaphoreHandle index &&& 0xffffff = index := by
  rw [semaphoreHandle_eq, show (0xffffff : ℕ) = 2 ^ 24 - 1 from rfl,
    Nat.and_two_pow_sub_one_eq_mod]
  omega

lemma semaphoreHandle_inj {i j : ℕ} (hi : i < 2 ^ 24) (hj : j < 2 ^ 24)
    (h : semaphoreHandle i = semaphoreHandle j) : i = j := by
  rw [← semaphoreHandle_index hi, ← semaphoreHandle_index hj, h]

/-- No handle of a known type has the error bit. -/
lemma lt_of_type {handle type : ℕ} (h : handle >>> 24 = type) (ht : type < 128) :
    handle < 0x80000000 := by
  rw [Nat.shiftRight_eq_div_pow] at h
  omega

variable {W : Type*} [DecidableEq W]

/-! ### Notification -/

def Wait.notify : Wait → Wait
  | .idle => .idle
  | .blocked handles size timeout _ => .blocked handles size timeout true

/-- `notify_all` on the condition variables of `ws`. -/
def notifyAll (waits : W → Wait) (ws : List W) (w : W) : Wait :=
  if w ∈ ws then (waits w).notify else waits w

/-! ### Events -/

namespace HandleManager

variable (m : HandleManager W)

def setState (handle : WPI_Handle) (state : ObjState W) : HandleManager W :=
  { m with states := Function.update m.states handle (some state) }

def createEvent (manualReset initialState : Bool) : HandleManager W :=
  let handle := eventHandle m.eventIds.length
  let state := (m.states handle).getD {}
  let signaled := if initialState then 1 else 0
  { m.setState handle { state with signaled := signaled, autoReset := !manualReset } with
    eventIds := m.eventIds ++ [0]
    log := m.log ++ [.created handle signaled] }

/-- An event that is reset by itself wakes its first waiter, any other all of them. -/
def toNotify (state : ObjState W) : List W :=
  if state.autoReset then state.waiters.take 1 else state.waiters

def setSignalObject (handle : WPI_Handle) : HandleManager W :=
  match m.states handle with
  | none => m
  | some state =>
    { m.setState handle { state with signaled := 1 } with
      waits := notifyAll m.waits (toNotify state)
      log := m.log ++ [.set handle] }

def setEvent (handle : WPI_Handle) : HandleManager W :=
  if handle >>> 24 = kHandleTypeEvent then m.setSignalObject handle else m

def resetSignalObject (handle : WPI_Handle) : HandleManager W :=
  match m.states handle with
  | none => m
  | some state => m.setState handle { state with signaled := 0 }

def resetEvent (handle : WPI_Handle) : HandleManager W :=
  if handle >>> 24 = kHandleTypeEvent then m.resetSignalObject handle else m

def destroySignalObject (handle : WPI_Handle) : HandleManager W :=
  match m.states handle with
  | none => m
  | some state =>
    { m with
      states := Function.update m.states handle none
      waits := notifyAll m.waits state.waiters }

/-- The ids of events are searched for the handle of a semaphore too. -/
def destroy (type : ℕ) (handle : WPI_Handle) : HandleManager W :=
  if handle >>> 24 = type then
    { m.destroySignalObject handle with eventIds := m.eventIds.erase handle }
  else m

/-! ### Semaphores -/

def createSemaphore (initialCount maximumCount : ℤ) : HandleManager W :=
  let handle := semaphoreHandle m.semaphoreIds.length
  let state := (m.states handle).getD {}
  { m.setState handle { state with signaled := initialCount, autoReset := true } with
    semaphoreIds := m.semaphoreIds ++ [maximumCount]
    log := m.log ++ [.created handle initialCount] }

/-- `releaseSemaphore`, with what it returns. The limit is read from the ids of the events, and
beyond their end it is undefined what is read. -/
def releaseSemaphore (handle : WPI_Handle) (releaseCount : ℤ) : Option (Bool × HandleManager W) :=
  if handle >>> 24 ≠ kHandleTypeSemaphore ∨ releaseCount ≤ 0 then some (false, m)
  else
    match m.states handle with
    | none => some (false, m)
    | some state =>
      (m.eventIds[handle &&& 0xffffff]?).map fun maxCount =>
        if maxCount - state.signaled < releaseCount then (false, m)
        else
          (true,
            { m.setState handle { state with signaled := state.signaled + releaseCount } with
              waits := notifyAll m.waits state.waiters
              log := m.log ++ [.released handle releaseCount] })

end HandleManager

/-! ### Waiting -/

/-- What a pass over the handles leaves, and what it reported so far. -/
structure Scan (W : Type*) where
  states : WPI_Handle → Option (ObjState W)
  signaled : List WPI_Handle := []

/-- Reports a handle if there is room for it. -/
def Scan.report (r : Scan W) (size : ℕ) (handle : WPI_Handle) : List WPI_Handle :=
  if r.signaled.length < size then r.signaled ++ [handle] else r.signaled

/-- A handle that does not exist counts as signaled, with its error bit. -/
def scanHandle (size : ℕ) (r : Scan W) (handle : WPI_Handle) : Scan W :=
  match r.states handle with
  | none => { r with signaled := r.report size (handle ||| 0x80000000) }
  | some state =>
    if 0 < state.signaled then
      { states :=
          if state.autoReset then
            Function.update r.states handle
              (some { state with signaled := max (state.signaled - 1) 0 })
          else r.states
        signaled := r.report size handle }
    else r

def scan (states : WPI_Handle → Option (ObjState W)) (handles : List WPI_Handle) (size : ℕ) :
    Scan W :=
  handles.foldl (scanHandle size) { states := states }

/-- `manager.states[handle]` makes a state that is not there. -/
def onWaiters (f : List W → List W) (states : WPI_Handle → Option (ObjState W))
    (handle : WPI_Handle) : WPI_Handle → Option (ObjState W) :=
  let state := (states handle).getD {}
  Function.update states handle (some { state with waiters := f state.waiters })

def addWaiters (w : W) (states : WPI_Handle → Option (ObjState W)) (handles : List WPI_Handle) :
    WPI_Handle → Option (ObjState W) :=
  handles.foldl (onWaiters fun ws => ws ++ [w]) states

def removeWaiters (w : W) (states : WPI_Handle → Option (ObjState W))
    (handles : List WPI_Handle) : WPI_Handle → Option (ObjState W) :=
  handles.foldl (onWaiters fun ws => ws.erase w) states

namespace HandleManager

variable (m : HandleManager W)

def setWait (w : W) (wait : Wait) : HandleManager W :=
  { m with waits := Function.update m.waits w wait }

/-- The call of `waitForObjects` up to where it returns or is blocked. -/
def waitForObjects (w : W) (handles : List WPI_Handle) (size : ℕ) (timeout : Timeout) :
    HandleManager W :=
  match m.waits w with
  | .blocked _ _ _ _ => m
  | .idle =>
    let r := scan m.states handles size
    if r.signaled ≠ [] ∨ timeout = .zero then
      { m with states := r.states, log := m.log ++ [.returned r.signaled] }
    else
      ({ m with states := addWaiters w r.states handles } : HandleManager W).setWait w
        (.blocked handles size timeout false)

/-- A wait wakes; `timedOut` says whether its time is over. -/
def wake (w : W) (timedOut : Bool) : HandleManager W :=
  match m.waits w with
  | .idle => m
  | .blocked handles size timeout _ =>
    let r := scan m.states handles size
    if (timedOut ∧ timeout = .finite) ∨ r.signaled ≠ [] then
      ({ m with
        states := removeWaiters w r.states handles
        log := m.log ++ [.returned r.signaled] } : HandleManager W).setWait w .idle
    else
      ({ m with states := r.states } : HandleManager W).setWait w
        (.blocked handles size timeout false)

end HandleManager

inductive Input (W : Type*)
  | createEvent (manualReset initialState : Bool)
  | createSemaphore (initialCount maximumCount : ℤ)
  | setEvent (handle : WPI_Handle)
  | resetEvent (handle : WPI_Handle)
  | destroyEvent (handle : WPI_Handle)
  | destroySemaphore (handle : WPI_Handle)
  | releaseSemaphore (handle : WPI_Handle) (releaseCount : ℤ)
  | waitForObjects (w : W) (handles : List WPI_Handle) (size : ℕ) (timeout : Timeout)
  | wake (w : W) (timedOut : Bool)

def step (m : HandleManager W) : Input W → HandleManager W
  | .createEvent manualReset initialState => m.createEvent manualReset initialState
  | .createSemaphore initialCount maximumCount => m.createSemaphore initialCount maximumCount
  | .setEvent handle => m.setEvent handle
  | .resetEvent handle => m.resetEvent handle
  | .destroyEvent handle => m.destroy kHandleTypeEvent handle
  | .destroySemaphore handle => m.destroy kHandleTypeSemaphore handle
  | .releaseSemaphore handle releaseCount =>
    ((m.releaseSemaphore handle releaseCount).map Prod.snd).getD m
  | .waitForObjects w handles size timeout => m.waitForObjects w handles size timeout
  | .wake w timedOut => m.wake w timedOut

def start : HandleManager W := {}

/-! ### What a call comes to -/

/-- A release that returns is refused, or adds to the count and wakes all waiters. -/
lemma releaseSemaphore_cases {m m' : HandleManager W} {handle : ℕ} {count : ℤ} {b : Bool}
    (h : m.releaseSemaphore handle count = some (b, m')) :
    (b = false ∧ m' = m) ∨
      (b = true ∧ handle >>> 24 = kHandleTypeSemaphore ∧ 0 < count ∧
        ∃ o maxCount, m.states handle = some o ∧
          m.eventIds[handle &&& 0xffffff]? = some maxCount ∧ count ≤ maxCount - o.signaled ∧
          m' = { m.setState handle { o with signaled := o.signaled + count } with
            waits := notifyAll m.waits o.waiters
            log := m.log ++ [.released handle count] }) := by
  unfold HandleManager.releaseSemaphore at h
  split_ifs at h with hguard
  · obtain ⟨rfl, rfl⟩ : false = b ∧ m = m' := by simpa using h
    exact Or.inl ⟨rfl, rfl⟩
  · rw [not_or, not_not, not_le] at hguard
    cases ho : m.states handle with
    | none =>
      rw [ho] at h
      obtain ⟨rfl, rfl⟩ : false = b ∧ m = m' := by simpa using h
      exact Or.inl ⟨rfl, rfl⟩
    | some o =>
      rw [ho] at h
      obtain ⟨maxCount, hmax, hres⟩ := Option.map_eq_some_iff.mp h
      split_ifs at hres with hfit
      · obtain ⟨rfl, rfl⟩ : false = b ∧ m = m' := by simpa using hres
        exact Or.inl ⟨rfl, rfl⟩
      · obtain ⟨rfl, rfl⟩ := Prod.mk.inj hres
        exact Or.inr ⟨rfl, hguard.1, hguard.2, o, maxCount, rfl, hmax, not_lt.mp hfit, rfl⟩

/-- A call returns after its first pass, or is blocked when this reported nothing. -/
lemma waitForObjects_cases (m : HandleManager W) (w : W) (handles : List ℕ) (size : ℕ)
    (timeout : Timeout) :
    let r := scan m.states handles size
    let m' := m.waitForObjects w handles size timeout
    (m.waits w ≠ .idle ∧ m' = m) ∨
      (m.waits w = .idle ∧
        m' = { m with states := r.states, log := m.log ++ [.returned r.signaled] }) ∨
      (m.waits w = .idle ∧ r.signaled = [] ∧
        m' = ({ m with states := addWaiters w r.states handles } : HandleManager W).setWait w
          (.blocked handles size timeout false)) := by
  intro r m'
  have hm' : m.waitForObjects w handles size timeout = m' := rfl
  unfold HandleManager.waitForObjects at hm'
  cases hw : m.waits w with
  | blocked handles' size' timeout' notified =>
    rw [hw] at hm'
    exact Or.inl ⟨nofun, hm'.symm⟩
  | idle =>
    rw [hw] at hm'
    dsimp only at hm'
    split_ifs at hm' with hret
    · exact Or.inr (Or.inl ⟨rfl, hm'.symm⟩)
    · rw [not_or, not_not] at hret
      exact Or.inr (Or.inr ⟨rfl, hret.1, hm'.symm⟩)

/-- A wait that wakes leaves the lists of waiters and returns, or goes on when its pass reported
nothing. -/
lemma wake_cases (m : HandleManager W) (w : W) (timedOut : Bool) :
    (m.waits w = .idle ∧ m.wake w timedOut = m) ∨
      ∃ handles size timeout notified, m.waits w = .blocked handles size timeout notified ∧
        (m.wake w timedOut = ({ m with
            states := removeWaiters w (scan m.states handles size).states handles
            log := m.log ++ [.returned (scan m.states handles size).signaled] } :
              HandleManager W).setWait w .idle ∨
          ((scan m.states handles size).signaled = [] ∧
            m.wake w timedOut = ({ m with states := (scan m.states handles size).states } :
              HandleManager W).setWait w (.blocked handles size timeout false))) := by
  unfold HandleManager.wake
  cases hw : m.waits w with
  | idle => exact Or.inl ⟨rfl, rfl⟩
  | blocked handles size timeout notified =>
    right
    refine ⟨handles, size, timeout, notified, rfl, ?_⟩
    dsimp only
    split_ifs with hret
    · exact Or.inl rfl
    · rw [not_or, not_not] at hret
      exact Or.inr ⟨hret.2, rfl⟩

/-! ### What a pass over the handles does -/

omit [DecidableEq W] in
lemma report_cases (r : Scan W) (size : ℕ) (handle : ℕ) :
    r.report size handle = r.signaled ∨ r.report size handle = r.signaled ++ [handle] := by
  unfold Scan.report
  split_ifs
  · exact Or.inr rfl
  · exact Or.inl rfl

/-- What a pass does to the state of a handle: it may take from the count of one that resets
itself, and reports no more than it took. -/
structure Spent (handle : ℕ) (r r' : Scan W) (o o' : ObjState W) : Prop where
  autoReset : o'.autoReset = o.autoReset
  waiters : o'.waiters = o.waiters
  le : o'.signaled ≤ o.signaled
  nonneg : 0 ≤ o.signaled → 0 ≤ o'.signaled
  manual : o.autoReset = false → o'.signaled = o.signaled
  reports : o.autoReset = true ∨ o.signaled = 0 → handle < 0x80000000 → 0 ≤ o.signaled →
    o'.signaled + r'.signaled.count handle ≤ o.signaled + r.signaled.count handle

omit [DecidableEq W] in
lemma Spent.refl (handle : ℕ) (r : Scan W) (o : ObjState W) : Spent handle r r o o :=
  ⟨rfl, rfl, le_rfl, id, fun _ => rfl, fun _ _ _ => le_rfl⟩

omit [DecidableEq W] in
lemma Spent.trans {handle : ℕ} {r r' r'' : Scan W} {o o' o'' : ObjState W}
    (h : Spent handle r r' o o') (h' : Spent handle r' r'' o' o'') : Spent handle r r'' o o'' where
  autoReset := h'.autoReset.trans h.autoReset
  waiters := h'.waiters.trans h.waiters
  le := h'.le.trans h.le
  nonneg h0 := h'.nonneg (h.nonneg h0)
  manual hm := (h'.manual (h.autoReset.trans hm)).trans (h.manual hm)
  reports hauto hlt h0 := by
    refine (h'.reports ?_ hlt (h.nonneg h0)).trans (h.reports hauto hlt h0)
    rcases hauto with ha | hz
    · exact Or.inl (h.autoReset.trans ha)
    · exact Or.inr (le_antisymm (hz ▸ h.le) (h.nonneg h0))

omit [DecidableEq W] in
/-- A handle that does not exist is reported as another. -/
lemma count_report_missing (r : Scan W) (size : ℕ) {handle missing : ℕ}
    (h : handle < 0x80000000) :
    (r.report size (missing ||| 0x80000000)).count handle = r.signaled.count handle := by
  have hne : missing ||| 0x80000000 ≠ handle := by
    have hle : 0x80000000 ≤ missing ||| 0x80000000 := Nat.right_le_or
    omega
  rcases report_cases r size (missing ||| 0x80000000) with hr | hr <;> rw [hr]
  rw [List.count_append, List.count_singleton]
  simp [hne]

omit [DecidableEq W] in
lemma count_report_le (r : Scan W) (size : ℕ) (handle other : ℕ) :
    (r.report size other).count handle ≤
      r.signaled.count handle + if handle = other then 1 else 0 := by
  rcases report_cases r size other with hr | hr <;> rw [hr]
  · omega
  · rw [List.count_append, List.count_singleton]
    by_cases h : handle = other
    · simp [h]
    · simp [h, Ne.symm h]

omit [DecidableEq W] in
lemma scanHandle_none {size : ℕ} {r : Scan W} {handle other : ℕ}
    (h : r.states handle = none) : (scanHandle size r other).states handle = none := by
  unfold scanHandle
  cases ho : r.states other with
  | none => exact h
  | some state =>
    have hne : handle ≠ other := by
      rintro rfl
      rw [h] at ho
      exact absurd ho (by simp)
    dsimp only
    split_ifs <;> simp [hne, h]

omit [DecidableEq W] in
lemma scanHandle_spent (size : ℕ) {r : Scan W} {handle : ℕ} {o : ObjState W}
    (h : r.states handle = some o) (other : ℕ) :
    ∃ o', (scanHandle size r other).states handle = some o' ∧
      Spent handle r (scanHandle size r other) o o' := by
  unfold scanHandle
  cases ho : r.states other with
  | none =>
    exact ⟨o, h, rfl, rfl, le_rfl, id, fun _ => rfl, fun _ hlt _ =>
      le_of_eq (by rw [count_report_missing r size hlt])⟩
  | some state =>
    have hle := count_report_le r size handle other
    by_cases hne : handle = other
    · subst hne
      obtain rfl : o = state := Option.some.inj (h.symm.trans ho)
      rw [if_pos rfl] at hle
      dsimp only
      split_ifs with hpos hauto
      · refine ⟨{ o with signaled := max (o.signaled - 1) 0 }, by simp, rfl, rfl, ?_, ?_, ?_, ?_⟩
        · exact max_le (by omega) (by omega)
        · exact fun _ => le_max_right _ _
        · exact fun hm => absurd hauto (by simp [hm])
        · intro _ _ _
          rw [max_eq_left (by omega)]
          push_cast [← Int.ofNat_le] at hle ⊢
          omega
      · refine ⟨o, h, rfl, rfl, le_rfl, id, fun _ => rfl, fun ha _ _ => ?_⟩
        rcases ha with ha | hz
        · exact absurd ha hauto
        · omega
      · exact ⟨o, h, Spent.refl handle r o⟩
    · rw [if_neg hne] at hle
      dsimp only
      split_ifs with hpos hauto
      · exact ⟨o, by simp [hne, h], rfl, rfl, le_rfl, id, fun _ => rfl, fun _ _ _ => by
          dsimp only
          omega⟩
      · exact ⟨o, h, rfl, rfl, le_rfl, id, fun _ => rfl, fun _ _ _ => by
          dsimp only
          omega⟩
      · exact ⟨o, h, Spent.refl handle r o⟩

section Pass

variable (size : ℕ) (handles : List ℕ)

omit [DecidableEq W] in
lemma foldl_scanHandle_none {r : Scan W} {handle : ℕ} (h : r.states handle = none) :
    (handles.foldl (scanHandle size) r).states handle = none := by
  induction handles generalizing r with
  | nil => exact h
  | cons other handles ih => exact ih (scanHandle_none h)

omit [DecidableEq W] in
lemma foldl_scanHandle_spent {r : Scan W} {handle : ℕ} {o : ObjState W}
    (h : r.states handle = some o) :
    ∃ o', (handles.foldl (scanHandle size) r).states handle = some o' ∧
      Spent handle r (handles.foldl (scanHandle size) r) o o' := by
  induction handles generalizing r o with
  | nil => exact ⟨o, h, Spent.refl handle r o⟩
  | cons other handles ih =>
    obtain ⟨o₁, h₁, hs₁⟩ := scanHandle_spent size h other
    obtain ⟨o₂, h₂, hs₂⟩ := ih h₁
    exact ⟨o₂, h₂, hs₁.trans hs₂⟩

omit [DecidableEq W] in
/-- What does not exist is not reported. -/
lemma count_foldl_scanHandle {r : Scan W} {handle : ℕ} (h : r.states handle = none)
    (hlt : handle < 0x80000000) :
    (handles.foldl (scanHandle size) r).signaled.count handle = r.signaled.count handle := by
  induction handles generalizing r with
  | nil => rfl
  | cons other handles ih =>
    rw [List.foldl_cons, ih (scanHandle_none h)]
    unfold scanHandle
    cases ho : r.states other with
    | none => exact count_report_missing r size hlt
    | some state =>
      have hne : handle ≠ other := by
        rintro rfl
        rw [h] at ho
        exact absurd ho (by simp)
      dsimp only
      split_ifs
      all_goals
        rcases report_cases r size other with hr | hr <;> simp [hr, Ne.symm hne]

omit [DecidableEq W] in
/-- An event that resets itself is not signaled after a pass over it. -/
lemma foldl_scanHandle_reset {r : Scan W} {handle : ℕ} {o o' : ObjState W} (hmem : handle ∈ handles)
    (h : r.states handle = some o) (hauto : o.autoReset = true) (hle : o.signaled ≤ 1)
    (h' : (handles.foldl (scanHandle size) r).states handle = some o') : o'.signaled ≤ 0 := by
  induction handles generalizing r o with
  | nil => exact absurd hmem List.not_mem_nil
  | cons other handles ih =>
    obtain ⟨o₁, h₁, hs₁⟩ := scanHandle_spent size h other
    by_cases heq : handle = other
    · subst heq
      have hzero : o₁.signaled ≤ 0 := by
        unfold scanHandle at h₁
        rw [h] at h₁
        dsimp only at h₁
        by_cases hpos : 0 < o.signaled
        · rw [if_pos hpos, if_pos hauto] at h₁
          obtain rfl : _ = o₁ := by simpa using h₁
          exact max_le (by omega) le_rfl
        · rw [if_neg hpos, h] at h₁
          obtain rfl : o = o₁ := Option.some.inj h₁
          omega
      obtain ⟨o₂, h₂, hs₂⟩ := foldl_scanHandle_spent size handles h₁
      obtain rfl : o₂ = o' := Option.some.inj (h₂.symm.trans h')
      exact hs₂.le.trans hzero
    · exact ih (by simpa [heq] using hmem) h₁ (hs₁.autoReset.trans hauto) (hs₁.le.trans hle) h'

omit [DecidableEq W] in
lemma length_report_le (r : Scan W) (handle : ℕ) :
    r.signaled.length ≤ (r.report size handle).length := by
  rcases report_cases r size handle with hr | hr <;> rw [hr]
  simp

omit [DecidableEq W] in
lemma length_foldl_scanHandle (r : Scan W) :
    r.signaled.length ≤ (handles.foldl (scanHandle size) r).signaled.length := by
  induction handles generalizing r with
  | nil => exact le_rfl
  | cons other handles ih =>
    refine le_trans ?_ (ih (scanHandle size r other))
    unfold scanHandle
    cases r.states other with
    | none => exact length_report_le size r _
    | some state =>
      dsimp only
      split_ifs
      · exact length_report_le size r _
      · exact length_report_le size r _
      · exact le_rfl

omit [DecidableEq W] in
/-- With room for a report, a pass that reports nothing found nothing, and changed nothing. -/
lemma foldl_scanHandle_nothing {states : ℕ → Option (ObjState W)} (hsize : handles.length ≤ size)
    (hnil : (handles.foldl (scanHandle size) ⟨states, []⟩).signaled = []) :
    handles.foldl (scanHandle size) ⟨states, []⟩ = ⟨states, []⟩ ∧
      ∀ handle ∈ handles, ∃ o, states handle = some o ∧ o.signaled ≤ 0 := by
  induction handles with
  | nil => exact ⟨rfl, fun _ h => absurd h List.not_mem_nil⟩
  | cons other handles ih =>
    have hroom : 0 < size := by
      simp only [List.length_cons] at hsize
      omega
    have hreport : ∀ handle, (⟨states, []⟩ : Scan W).report size handle = [handle] := by
      intro handle
      unfold Scan.report
      simp [hroom]
    rw [List.foldl_cons] at hnil ⊢
    -- a report would stay
    have hlen := length_foldl_scanHandle size handles (scanHandle size ⟨states, []⟩ other)
    rw [hnil] at hlen
    have hsame : scanHandle size ⟨states, []⟩ other = ⟨states, []⟩ ∧
        ∃ o, states other = some o ∧ o.signaled ≤ 0 := by
      unfold scanHandle at hlen ⊢
      dsimp only at hlen ⊢
      cases ho : states other with
      | none =>
        rw [ho] at hlen
        dsimp only at hlen
        rw [hreport] at hlen
        simp at hlen
      | some state =>
        rw [ho] at hlen
        dsimp only at hlen ⊢
        by_cases hpos : 0 < state.signaled
        · rw [if_pos hpos] at hlen
          dsimp only at hlen
          rw [hreport] at hlen
          simp at hlen
        · rw [if_neg hpos]
          exact ⟨rfl, state, rfl, by omega⟩
    rw [hsame.1] at hnil ⊢
    obtain ⟨hrest, hzero⟩ := ih (by simp only [List.length_cons] at hsize; omega) hnil
    refine ⟨hrest, fun handle hmem => ?_⟩
    rcases List.mem_cons.mp hmem with rfl | h
    · exact hsame.2
    · exact hzero handle h

end Pass

omit [DecidableEq W] in
lemma scan_none {states : ℕ → Option (ObjState W)} {handle : ℕ} (h : states handle = none)
    (handles : List ℕ) (size : ℕ) : (scan states handles size).states handle = none :=
  foldl_scanHandle_none size handles h

omit [DecidableEq W] in
lemma scan_spent {states : ℕ → Option (ObjState W)} {handle : ℕ} {o : ObjState W}
    (h : states handle = some o) (handles : List ℕ) (size : ℕ) :
    ∃ o', (scan states handles size).states handle = some o' ∧
      Spent handle ⟨states, []⟩ (scan states handles size) o o' :=
  foldl_scanHandle_spent size handles h

omit [DecidableEq W] in
/-- The same of a pass from its start. -/
lemma scan_nothing {states : ℕ → Option (ObjState W)} {handles : List ℕ} {size : ℕ}
    (hroom : handles.length ≤ size) (hnil : (scan states handles size).signaled = []) :
    (scan states handles size).states = states ∧
      ∀ handle ∈ handles, ∃ o, states handle = some o ∧ o.signaled ≤ 0 := by
  obtain ⟨hsame, hzero⟩ := foldl_scanHandle_nothing size handles hroom hnil
  exact ⟨congrArg Scan.states hsame, hzero⟩

/-! ### The lists of waiters -/

section Waiters

variable (f : List W → List W) (handles : List ℕ)

omit [DecidableEq W] in
/-- A state whose list of waiters is handled as often as its handle is named. -/
lemma foldl_onWaiters {states : ℕ → Option (ObjState W)} {handle : ℕ} {o : ObjState W}
    (h : states handle = some o) :
    handles.foldl (onWaiters f) states handle =
      some { o with waiters := f^[handles.count handle] o.waiters } := by
  induction handles generalizing states o with
  | nil => simpa using h
  | cons other handles ih =>
    rw [List.foldl_cons, List.count_cons]
    by_cases heq : handle = other
    · subst heq
      have h₁ : onWaiters f states handle handle =
          some { o with waiters := f o.waiters } := by
        simp [onWaiters, h]
      rw [ih h₁]
      simp
    · have h₁ : onWaiters f states other handle = some o := by
        simp [onWaiters, heq, h]
      rw [ih h₁]
      simp [Ne.symm heq]

omit [DecidableEq W] in
lemma foldl_onWaiters_other (states : ℕ → Option (ObjState W)) {handle : ℕ}
    (h : handle ∉ handles) : handles.foldl (onWaiters f) states handle = states handle := by
  induction handles generalizing states with
  | nil => rfl
  | cons other handles ih =>
    rw [List.mem_cons, not_or] at h
    rw [List.foldl_cons, ih _ h.2]
    simp [onWaiters, h.1]

omit [DecidableEq W] in
/-- With a state for each handle that is named, none is made. -/
lemma foldl_onWaiters_some {states : ℕ → Option (ObjState W)} {handles : List ℕ}
    (hlive : ∀ handle ∈ handles, states handle ≠ none) {handle : ℕ} {o' : ObjState W}
    (h' : handles.foldl (onWaiters f) states handle = some o') :
    ∃ o, states handle = some o ∧
      o' = { o with waiters := f^[handles.count handle] o.waiters } := by
  cases ho : states handle with
  | none =>
    have hsame := foldl_onWaiters_other f handles states fun hmem => hlive handle hmem ho
    exact absurd (h'.symm.trans (hsame.trans ho)) (by simp)
  | some o => exact ⟨o, rfl, Option.some.inj (h'.symm.trans (foldl_onWaiters f handles ho))⟩

end Waiters

lemma count_iterate_append (w v : W) (n : ℕ) (ws : List W) :
    ((fun ws => ws ++ [w])^[n] ws).count v = ws.count v + if v = w then n else 0 := by
  induction n generalizing ws with
  | zero => simp
  | succ n ih =>
    rw [Function.iterate_succ_apply, ih, List.count_append, List.count_singleton]
    by_cases h : v = w
    · simp [h]
      omega
    · simp [h, Ne.symm h]

lemma count_iterate_erase (w v : W) (n : ℕ) (ws : List W) :
    ((fun ws => ws.erase w)^[n] ws).count v = ws.count v - if v = w then n else 0 := by
  induction n generalizing ws with
  | zero => simp
  | succ n ih =>
    rw [Function.iterate_succ_apply, ih]
    by_cases h : v = w
    · subst h
      rw [List.count_erase_self, if_pos rfl, if_pos rfl]
      omega
    · rw [List.count_erase_of_ne h, if_neg h, if_neg h]

/-! ### What was granted and what was reported -/

/-- The waits that reported a handle. -/
def reports (handle : ℕ) (log : List Entry) : ℕ :=
  log.countP fun
    | .returned signaled => handle ∈ signaled
    | _ => false

/-- What an entry adds to the count of a handle. -/
def credit (handle : ℕ) : Entry → ℤ
  | .created h initial => if h = handle then initial else 0
  | .set h => if h = handle then 1 else 0
  | .released h count => if h = handle then count else 0
  | .returned _ => 0

/-- The initial count of a handle, and all that was added to it. -/
def granted (handle : ℕ) (log : List Entry) : ℤ := (log.map (credit handle)).sum

lemma granted_concat (handle : ℕ) (log : List Entry) (e : Entry) :
    granted handle (log ++ [e]) = granted handle log + credit handle e := by
  simp [granted]

lemma reports_concat (handle : ℕ) (log : List Entry) (signaled : List ℕ) :
    reports handle (log ++ [.returned signaled]) =
      reports handle log + if handle ∈ signaled then 1 else 0 := by
  by_cases h : handle ∈ signaled <;> simp [reports, List.countP_append, h]

/-- The count of a handle, `0` for one that does not exist. -/
def level (states : ℕ → Option (ObjState W)) (handle : ℕ) : ℤ :=
  ((states handle).map ObjState.signaled).getD 0

omit [DecidableEq W] in
@[simp] lemma level_update_self (states : ℕ → Option (ObjState W)) (handle : ℕ)
    (o : ObjState W) : level (Function.update states handle (some o)) handle = o.signaled := by
  simp [level]

omit [DecidableEq W] in
lemma level_congr {states states' : ℕ → Option (ObjState W)} {handle : ℕ}
    (h : states' handle = states handle) : level states' handle = level states handle := by
  rw [level, level, h]

omit [DecidableEq W] in
lemma level_foldl_onWaiters (f : List W → List W) (handles : List ℕ)
    (states : ℕ → Option (ObjState W)) (handle : ℕ) :
    level (handles.foldl (onWaiters f) states) handle = level states handle := by
  induction handles generalizing states with
  | nil => rfl
  | cons other handles ih =>
    rw [List.foldl_cons, ih]
    by_cases h : handle = other
    · subst h
      cases ho : states handle <;> simp [onWaiters, level, ho]
    · exact level_congr (by simp [onWaiters, h])

/-- No more was reported than granted, and what is left is still there. -/
structure Ledger (states : ℕ → Option (ObjState W)) (log : List Entry) (handle : ℕ) : Prop where
  nonneg : 0 ≤ level states handle
  le : reports handle log + level states handle ≤ granted handle log

/-- A pass takes what it reports from those that reset themselves. -/
def Spendable (states : ℕ → Option (ObjState W)) (handle : ℕ) : Prop :=
  ∀ o, states handle = some o → o.autoReset = true ∨ o.signaled = 0

omit [DecidableEq W] in
lemma scan_level {states : ℕ → Option (ObjState W)} {handle : ℕ} (hlt : handle < 0x80000000)
    (hspend : Spendable states handle) (hnonneg : 0 ≤ level states handle) (handles : List ℕ)
    (size : ℕ) :
    0 ≤ level (scan states handles size).states handle ∧
      level (scan states handles size).states handle +
        (scan states handles size).signaled.count handle ≤ level states handle := by
  cases h : states handle with
  | none =>
    have hcount : (scan states handles size).signaled.count handle = 0 :=
      count_foldl_scanHandle size handles h hlt
    unfold level
    rw [scan_none h, hcount, h]
    simp
  | some o =>
    unfold level at hnonneg
    rw [h] at hnonneg
    obtain ⟨o', h', hs⟩ := scan_spent h handles size
    have hle := hs.reports (hspend o h) hlt hnonneg
    unfold level
    rw [h', h]
    exact ⟨hs.nonneg hnonneg, by simpa using hle⟩

omit [DecidableEq W] in
/-- A wait that returns what its pass reported. -/
lemma Ledger.returned {states : ℕ → Option (ObjState W)} {log : List Entry} {handle : ℕ}
    (h : Ledger states log handle) (hlt : handle < 0x80000000)
    (hspend : Spendable states handle) (handles : List ℕ) (size : ℕ) :
    Ledger (scan states handles size).states
      (log ++ [.returned (scan states handles size).signaled]) handle := by
  obtain ⟨hnonneg, hle⟩ := scan_level hlt hspend h.nonneg handles size
  refine ⟨hnonneg, ?_⟩
  have hone : (if handle ∈ (scan states handles size).signaled then 1 else 0) ≤
      (scan states handles size).signaled.count handle := by
    split_ifs with hmem
    · exact List.count_pos_iff.mpr hmem
    · exact Nat.zero_le _
  have hold := h.le
  rw [reports_concat, granted_concat]
  simp only [credit, add_zero]
  push_cast [← Int.ofNat_le] at hone ⊢
  omega

end Kuavo.Synchronization
