import Kuavo.DsAccesses
import Kuavo.EventWaits

/-!
`tools/main.cpp` with `tools/DriverStationModeThread.cpp`: news from the driver station, handed on
by events.

The thread of the packets sets the events of those who wait for new data. The mode thread waits
for one of these, refreshes the data, and sets the events of those who wait for refreshed data;
the main thread waits for one of those and looks at the control word. What is handed on so must
not be lost between a look and the next wait. The packet itself is never lost, but its control
word may be: a refresh that began before the packet was handed over may zero it.
-/

namespace Kuavo.NewData

open Kuavo.DsAccesses Kuavo.Lib.Runs Kuavo.Synchronization
open Kuavo.ModeChange (effective effective_eq_zero_iff)

inductive Thread
  | mode | main
  deriving DecidableEq

/-! ### The program -/

/-- Where the thread of the packets is in `newDataOccur`; `setting` is the pass of `wakeup` with
what it has still to set. -/
inductive MqttPc
  | idle
  | occur (pc : PacketPc)
  | wakeup
  | setting (left : List WPI_Handle)
  deriving DecidableEq

/-- Where `DriverStationModeThread::Run` is. -/
inductive ModePc
  | absent
  /-- The event is made, and provided. -/
  | create | provide
  | wait | waiting
  /-- `DriverStation::refreshData`, and in it `wakeup`. -/
  | refresh (r : RefreshPc)
  | wakeup
  | setting (left : List WPI_Handle)
  deriving DecidableEq

/-- Where `main` is; `inner` is for the loop in which the robot is enabled. -/
inductive MainPc
  | refreshData (r : RefreshPc)
  /-- The mode thread is constructed. -/
  | construct
  | create | provide
  | wait (inner : Bool)
  | waiting (inner : Bool)
  | buttons
  | check (inner : Bool)
  deriving DecidableEq

/-- The mode thread has the lock of the caches. -/
def ModePc.locks : ModePc → Bool
  | .refresh .zero | .refresh .copy => true
  | _ => false

structure System where
  manager : HandleManager Thread := {}
  ds : FRCDriverStation
  events : Thread → Option WPI_Handle := fun _ => none
  newDataEvents : List WPI_Handle := []
  refreshEvents : List WPI_Handle := []
  mqtt : MqttPc := .idle
  mode : ModePc := .absent
  main : MainPc := .refreshData .loadGiven
  /-- The control word that `main` looked at last. -/
  seen : Option HAL_ControlWord := none

def isEnabled (w : HAL_ControlWord) : Bool := w.enabled && w.dsAttached

def isBlocked (m : HandleManager Thread) (t : Thread) : Bool :=
  match m.waits t with
  | .idle => false
  | .blocked _ _ _ _ => true

inductive Input
  /-- A packet arrives, and is put into its cache. -/
  | packet (payload : Payload)
  | mqtt
  | mode
  | main

namespace System

variable (s : System)

/-- `waitForObject`, up to where it returns or is blocked. -/
def waitForObject (t : Thread) : HandleManager Thread :=
  match s.events t with
  | none => s.manager
  | some handle => s.manager.waitForObjects t [handle] 1 .never

def create (t : Thread) : System :=
  { s with
    events := Function.update s.events t (some (eventHandle s.manager.eventIds.length))
    manager := s.manager.createEvent false false }

def mqttStep : System :=
  match s.mqtt with
  | .idle => s
  | .occur pc =>
    { s with
      ds := (packetStep s.ds pc).1
      mqtt := (packetStep s.ds pc).2.elim .wakeup .occur }
  | .wakeup => { s with mqtt := .setting s.newDataEvents }
  | .setting [] => { s with mqtt := .idle }
  | .setting (handle :: left) =>
    { s with manager := s.manager.setEvent handle, mqtt := .setting left }

/-- The lists of events are under a mutex, which `wakeup` holds. -/
def modeStep : System :=
  match s.mode with
  | .absent => s
  | .create => { s.create .mode with mode := .provide }
  | .provide =>
    match s.mqtt with
    | .setting _ => s
    | _ => { s with newDataEvents := s.newDataEvents ++ (s.events .mode).toList, mode := .wait }
  | .wait =>
    let manager := s.waitForObject .mode
    { s with manager, mode := if isBlocked manager .mode then .waiting else .refresh .loadGiven }
  | .waiting =>
    let manager := s.manager.wake .mode false
    { s with manager, mode := if isBlocked manager .mode then .waiting else .refresh .loadGiven }
  | .refresh r =>
    { s with
      ds := (refreshStep s.ds r).1
      mode := (refreshStep s.ds r).2.elim .wakeup .refresh }
  | .wakeup => { s with mode := .setting s.refreshEvents }
  | .setting [] => { s with mode := .wait }
  | .setting (handle :: left) =>
    { s with manager := s.manager.setEvent handle, mode := .setting left }

/-- Where `main` goes when its wait has returned. -/
def afterWait (inner : Bool) : MainPc := if inner then .buttons else .check false

/-- The control word is looked at under the lock of the caches. -/
def mainStep : System :=
  match s.main with
  | .refreshData r =>
    { s with
      ds := (refreshStep s.ds r).1
      main := (refreshStep s.ds r).2.elim .construct .refreshData }
  | .construct => { s with mode := .create, main := .create }
  | .create => { s.create .main with main := .provide }
  | .provide =>
    match s.mode with
    | .setting _ => s
    | _ =>
      { s with refreshEvents := s.refreshEvents ++ (s.events .main).toList, main := .wait false }
  | .wait inner =>
    let manager := s.waitForObject .main
    { s with manager, main := if isBlocked manager .main then .waiting inner else afterWait inner }
  | .waiting inner =>
    let manager := s.manager.wake .main false
    { s with manager, main := if isBlocked manager .main then .waiting inner else afterWait inner }
  | .buttons => { s with main := .check true }
  | .check inner =>
    if s.mode.locks then s
    else
      { s with
        seen := some s.ds.newestControlWord
        main :=
          if isEnabled s.ds.newestControlWord then if inner then .wait true else .check true
          else .wait false }

end System

def step (signed : Bool) (s : System) : Input → System
  | .packet payload =>
    -- there is one thread of the packets
    match s.mqtt with
    | .idle => { s with ds := update s.ds signed payload, mqtt := .occur .exchange }
    | _ => s
  | .mqtt => s.mqttStep
  | .mode => s.modeStep
  | .main => s.mainStep

def start : System := { ds := ModeChange.start.ds }

/-! ### Waiting for one event -/

/-- The event of a thread has a signal. -/
def Signaled (m : HandleManager Thread) (handle : WPI_Handle) : Prop := 0 < level m.states handle

/-- Each thread has an event of its own that resets itself, and waits for no other. -/
structure Own (m : HandleManager Thread) (events : Thread → Option WPI_Handle)
    (blocked : Thread → Prop) : Prop where
  inv : Inv m.states m.waits
  auto : ∀ {t handle}, events t = some handle →
    ∃ o, m.states handle = some o ∧ o.autoReset = true
  made : ∀ {t handle}, events t = some handle →
    ∃ k < m.eventIds.length, handle = eventHandle k
  fresh : ∀ k, m.eventIds.length ≤ k → k < 3 → m.states (eventHandle k) = none
  few : m.eventIds.length =
    (if (events .mode).isSome then 1 else 0) + if (events .main).isSome then 1 else 0
  apart : ∀ {t u handle}, events t = some handle → events u = some handle → t = u
  idle : ∀ {t}, ¬ blocked t → m.waits t = .idle
  blocked : ∀ {t}, blocked t →
    ∃ handle notified, events t = some handle ∧ m.waits t = .blocked [handle] 1 .never notified

lemma scan_one {states : WPI_Handle → Option (ObjState Thread)} {handle : WPI_Handle}
    {o : ObjState Thread} (ho : states handle = some o) (hauto : o.autoReset = true) :
    scan states [handle] 1 =
      if 0 < o.signaled then
        ⟨Function.update states handle (some { o with signaled := max (o.signaled - 1) 0 }),
          [handle]⟩
      else ⟨states, []⟩ := by
  unfold scan
  rw [List.foldl_cons, List.foldl_nil]
  unfold scanHandle
  simp [ho, hauto, Scan.report]

lemma eventHandle_inj {i j : ℕ} (hi : i < 3) (hj : j < 3) (h : eventHandle i = eventHandle j) :
    i = j := by
  rw [eventHandle_eq, eventHandle_eq] at h
  omega

variable {m : HandleManager Thread} {events : Thread → Option WPI_Handle} {blocked : Thread → Prop}

/-- A thread makes its event. -/
lemma Own.create (h : Own m events blocked) {t : Thread} (ht : events t = none) :
    Own (m.createEvent false false)
      (Function.update events t (some (eventHandle m.eventIds.length))) blocked := by
  have hlen : m.eventIds.length < 2 := by
    have hfew := h.few
    cases t <;> simp [ht] at hfew <;> split_ifs at hfew <;> omega
  have hnone : m.states (eventHandle m.eventIds.length) = none := h.fresh _ le_rfl (by omega)
  have hne : ∀ {u handle}, events u = some handle → handle ≠ eventHandle m.eventIds.length := by
    rintro u handle hu rfl
    obtain ⟨o, ho, -⟩ := h.auto hu
    rw [hnone] at ho
    cases ho
  -- the thread has the new event, and the other what it had
  have hcases : ∀ {u handle}, Function.update events t (some (eventHandle m.eventIds.length)) u =
      some handle → (u = t ∧ handle = eventHandle m.eventIds.length) ∨
        (u ≠ t ∧ events u = some handle) := by
    intro u handle hu
    by_cases hut : u = t
    · subst hut
      rw [Function.update_self] at hu
      exact Or.inl ⟨rfl, (Option.some.inj hu).symm⟩
    · rw [Function.update_of_ne hut] at hu
      exact Or.inr ⟨hut, hu⟩
  have hnew : (m.createEvent false false).eventIds.length = m.eventIds.length + 1 := by
    simp [HandleManager.createEvent]
  refine ⟨h.inv.create hnone 0 true fun _ => by simp, fun {u handle} hu => ?_,
    fun {u handle} hu => ?_, fun k hk hk3 => ?_, ?_, fun {u v handle} hu hv => ?_, h.idle,
    fun {u} hu => ?_⟩
  · rcases hcases hu with ⟨-, rfl⟩ | ⟨-, hu⟩
    · exact ⟨_, Function.update_self _ _ _, rfl⟩
    · obtain ⟨o, ho, hauto⟩ := h.auto hu
      exact ⟨o, (Function.update_of_ne (hne hu) _ _).trans ho, hauto⟩
  · rw [hnew]
    rcases hcases hu with ⟨-, rfl⟩ | ⟨-, hu⟩
    · exact ⟨_, Nat.lt_succ_self _, rfl⟩
    · obtain ⟨k, hk, hhandle⟩ := h.made hu
      exact ⟨k, by omega, hhandle⟩
  · rw [hnew] at hk
    have hkne : eventHandle k ≠ eventHandle m.eventIds.length := by
      intro heq
      have := eventHandle_inj hk3 (by omega) heq
      omega
    exact (Function.update_of_ne hkne _ _).trans (h.fresh k (by omega) hk3)
  · rw [hnew, h.few]
    cases t <;> simp [ht]; omega
  · rcases hcases hu with ⟨hut, hnewu⟩ | ⟨-, hu⟩ <;> rcases hcases hv with ⟨hvt, hnewv⟩ | ⟨-, hv⟩
    · rw [hut, hvt]
    · exact absurd hnewu (hne hv)
    · exact absurd hnewv (hne hu)
    · exact h.apart hu hv
  · obtain ⟨handle, notified, hu', hwait⟩ := h.blocked hu
    have hut : u ≠ t := by
      rintro rfl
      rw [ht] at hu'
      cases hu'
    exact ⟨handle, notified, (Function.update_of_ne hut _ _).trans hu', hwait⟩

/-- The manager may change its states and waits, as long as each event stays what it is. -/
lemma Own.change {m' : HandleManager Thread} {blocked' : Thread → Prop} (h : Own m events blocked)
    (hinv : Inv m'.states m'.waits) (hids : m'.eventIds = m.eventIds)
    (hsome : ∀ {k o}, m.states k = some o →
      ∃ o', m'.states k = some o' ∧ o'.autoReset = o.autoReset)
    (hnone : ∀ {k}, m.states k = none → m'.states k = none)
    (hidle : ∀ {t}, ¬ blocked' t → m'.waits t = .idle)
    (hblocked : ∀ {t}, blocked' t → ∃ handle notified, events t = some handle ∧
      m'.waits t = .blocked [handle] 1 .never notified) :
    Own m' events blocked' := by
  refine ⟨hinv, fun {t handle} ht => ?_, fun ht => hids ▸ h.made ht, fun k hk hk3 => ?_,
    hids ▸ h.few, h.apart, hidle, hblocked⟩
  · obtain ⟨o, ho, hauto⟩ := h.auto ht
    obtain ⟨o', ho', hsame⟩ := hsome ho
    exact ⟨o', ho', hsame.trans hauto⟩
  · exact hnone (h.fresh k (hids ▸ hk) hk3)

lemma setEvent_some {handle : WPI_Handle} {o : ObjState Thread} (ho : m.states handle = some o)
    (htype : handle >>> 24 = kHandleTypeEvent) :
    m.setEvent handle = { m with
      states := Function.update m.states handle (some { o with signaled := 1 })
      waits := notifyAll m.waits (HandleManager.toNotify o)
      log := m.log ++ [.set handle] } := by
  unfold HandleManager.setEvent HandleManager.setSignalObject
  rw [if_pos htype, ho]
  rfl

lemma Signaled.congr {m' : HandleManager Thread} {k : WPI_Handle}
    (h : m'.states k = m.states k) : Signaled m' k ↔ Signaled m k := by
  unfold Signaled
  rw [level_congr h]

lemma signaled_iff {handle : WPI_Handle} {o : ObjState Thread} (ho : m.states handle = some o) :
    Signaled m handle ↔ 0 < o.signaled := by
  simp [Signaled, level, ho]

/-- An event is set: it has a signal, and no other loses its own. -/
lemma Own.set (h : Own m events blocked) {t : Thread} {handle : WPI_Handle}
    (ht : events t = some handle) :
    Own (m.setEvent handle) events blocked ∧ Signaled (m.setEvent handle) handle ∧
      ∀ k, Signaled m k → Signaled (m.setEvent handle) k := by
  obtain ⟨o, ho, -⟩ := h.auto ht
  obtain ⟨i, -, hi⟩ := h.made ht
  have htype : handle >>> 24 = kHandleTypeEvent := hi ▸ eventHandle_type i
  have hinv : Inv (m.setEvent handle).states (m.setEvent handle).waits := by
    unfold HandleManager.setEvent
    rw [if_pos htype]
    exact h.inv.setSignalObject handle
  rw [setEvent_some ho htype] at hinv ⊢
  have hset : Signaled { m with
      states := Function.update m.states handle (some { o with signaled := 1 })
      waits := notifyAll m.waits (HandleManager.toNotify o)
      log := m.log ++ [.set handle] } handle := by
    rw [signaled_iff (Function.update_self _ _ _)]
    exact Int.one_pos
  refine ⟨h.change hinv rfl (fun {k o'} ho' => ?_) (fun {k} hk => ?_) (fun {u} hu => ?_)
    (fun {u} hu => ?_), hset, fun k hk => ?_⟩
  · by_cases hkh : k = handle
    · subst hkh
      obtain rfl : o = o' := Option.some.inj (ho.symm.trans ho')
      exact ⟨_, Function.update_self _ _ _, rfl⟩
    · exact ⟨o', (Function.update_of_ne hkh _ _).trans ho', rfl⟩
  · have hkh : k ≠ handle := by
      rintro rfl
      rw [ho] at hk
      cases hk
    exact (Function.update_of_ne hkh _ _).trans hk
  · simp only [notifyAll, h.idle hu]
    split_ifs <;> rfl
  · obtain ⟨k, notified, hk, hwait⟩ := h.blocked hu
    simp only [notifyAll, hwait]
    split_ifs
    · exact ⟨k, true, hk, rfl⟩
    · exact ⟨k, notified, hk, rfl⟩
  · by_cases hkh : k = handle
    · exact hkh ▸ hset
    · exact (Signaled.congr (Function.update_of_ne hkh _ _)).mpr hk

/-- What a step of a wait comes to: it returns with the signal, or is blocked without one. No
other event is touched. -/
structure Waited (m m' : HandleManager Thread) (events : Thread → Option WPI_Handle)
    (blocked : Thread → Prop) (t : Thread) (handle : WPI_Handle) : Prop where
  iff : isBlocked m' t = true ↔ ¬ Signaled m handle
  own : Own m' events fun u => if u = t then isBlocked m' t = true else blocked u
  others : ∀ k, k ≠ handle → Signaled m k → Signaled m' k

lemma isBlocked_iff (t : Thread) : isBlocked m t = true ↔ m.waits t ≠ .idle := by
  unfold isBlocked
  cases m.waits t <;> simp

/-- It comes to that if it changes only the state of the event and the wait of the thread. -/
lemma Own.waited (h : Own m events blocked) {m' : HandleManager Thread} {t : Thread}
    {handle : WPI_Handle} (ht : events t = some handle) {o o' : ObjState Thread}
    (ho : m.states handle = some o) (hinv : Inv m'.states m'.waits)
    (hids : m'.eventIds = m.eventIds)
    (hstates : m'.states = Function.update m.states handle (some o'))
    (hauto : o'.autoReset = o.autoReset) (hwaits : ∀ u, u ≠ t → m'.waits u = m.waits u)
    (hcase : if 0 < o.signaled then m'.waits t = .idle
      else ∃ notified, m'.waits t = .blocked [handle] 1 .never notified) :
    Waited m m' events blocked t handle := by
  have hsame : ∀ {k}, k ≠ handle → m'.states k = m.states k := fun hk => by
    rw [hstates, Function.update_of_ne hk]
  refine ⟨?_, h.change hinv hids (fun {k o₁} hk => ?_) (fun {k} hk => ?_) (fun {u} hu => ?_)
    (fun {u} hu => ?_), fun k hk => (Signaled.congr (hsame hk)).mpr⟩
  · rw [isBlocked_iff, signaled_iff ho]
    split_ifs at hcase with hsig
    · simp [hcase, hsig]
    · obtain ⟨notified, hwait⟩ := hcase
      simp [hwait, hsig]
  · by_cases hkh : k = handle
    · subst hkh
      obtain rfl : o = o₁ := Option.some.inj (ho.symm.trans hk)
      exact ⟨o', by rw [hstates, Function.update_self], hauto⟩
    · exact ⟨o₁, (hsame hkh).trans hk, rfl⟩
  · have hkh : k ≠ handle := by
      rintro rfl
      rw [ho] at hk
      cases hk
    exact (hsame hkh).trans hk
  · by_cases hut : u = t
    · subst hut
      rw [if_pos rfl] at hu
      rw [isBlocked_iff, not_not] at hu
      exact hu
    · rw [if_neg hut] at hu
      rw [hwaits u hut]
      exact h.idle hu
  · by_cases hut : u = t
    · subst hut
      rw [if_pos rfl, isBlocked_iff] at hu
      split_ifs at hcase with hsig
      · exact absurd hcase hu
      · obtain ⟨notified, hwait⟩ := hcase
        exact ⟨handle, notified, ht, hwait⟩
    · rw [if_neg hut] at hu
      rw [hwaits u hut]
      exact h.blocked hu

/-- A call of `waitForObject`. -/
lemma Own.wait (h : Own m events blocked) {t : Thread} {handle : WPI_Handle}
    (ht : events t = some handle) (hidle : ¬ blocked t) :
    Waited m (m.waitForObjects t [handle] 1 .never) events blocked t handle := by
  obtain ⟨o, ho, hauto⟩ := h.auto ht
  have hinv : Inv (m.waitForObjects t [handle] 1 .never).states
      (m.waitForObjects t [handle] 1 .never).waits := h.inv.waitForObjects t le_rfl .never
  have hscan := scan_one ho hauto
  have hwait := h.idle hidle
  by_cases hsig : 0 < o.signaled
  · have hm' : m.waitForObjects t [handle] 1 .never = { m with
        states := Function.update m.states handle
          (some { o with signaled := max (o.signaled - 1) 0 })
        log := m.log ++ [.returned [handle]] } := by
      unfold HandleManager.waitForObjects
      simp [hwait, hscan, hsig]
    rw [hm'] at hinv ⊢
    exact h.waited ht ho hinv rfl rfl rfl (fun _ _ => rfl) (by rw [if_pos hsig]; exact hwait)
  · have hm' : m.waitForObjects t [handle] 1 .never =
        (m.setState handle { o with waiters := o.waiters ++ [t] }).setWait t
          (.blocked [handle] 1 .never false) := by
      unfold HandleManager.waitForObjects
      simp [hwait, hscan, hsig, addWaiters, onWaiters, ho, HandleManager.setState]
    rw [hm'] at hinv ⊢
    refine h.waited ht ho hinv rfl rfl rfl (fun u hu => Function.update_of_ne hu _ _) ?_
    rw [if_neg hsig]
    exact ⟨false, Function.update_self _ _ _⟩

/-- The wait wakes, for a notification or for no reason. -/
lemma Own.wake (h : Own m events blocked) {t : Thread} {handle : WPI_Handle}
    (ht : events t = some handle) (hblocked : blocked t) :
    Waited m (m.wake t false) events blocked t handle := by
  obtain ⟨o, ho, hauto⟩ := h.auto ht
  obtain ⟨handle', notified, ht', hwait⟩ := h.blocked hblocked
  obtain rfl : handle = handle' := Option.some.inj (ht.symm.trans ht')
  have hinv := h.inv.wake t false
  have hscan := scan_one ho hauto
  by_cases hsig : 0 < o.signaled
  · have hm' : m.wake t false = ({ m with
        states := Function.update m.states handle
          (some { o with signaled := max (o.signaled - 1) 0, waiters := o.waiters.erase t })
        log := m.log ++ [.returned [handle]] } : HandleManager Thread).setWait t .idle := by
      unfold HandleManager.wake
      simp [hwait, hscan, hsig, removeWaiters, onWaiters]
    rw [hm'] at hinv ⊢
    refine h.waited ht ho hinv rfl rfl rfl (fun u hu => Function.update_of_ne hu _ _) ?_
    rw [if_pos hsig]
    exact Function.update_self _ _ _
  · have hm' : m.wake t false = m.setWait t (.blocked [handle] 1 .never false) := by
      unfold HandleManager.wake
      simp [hwait, hscan, hsig]
    rw [hm'] at hinv ⊢
    have hstates : m.states = Function.update m.states handle (some o) := by
      rw [← ho, Function.update_eq_self]
    refine h.waited ht ho hinv rfl hstates rfl (fun u hu => Function.update_of_ne hu _ _) ?_
    rw [if_neg hsig]
    exact ⟨false, Function.update_self _ _ _⟩

/-- A thread that is blocked and not notified has an event without a signal. -/
lemma Own.notified_of_signaled (h : Own m events blocked) {t : Thread} {handle : WPI_Handle}
    (ht : events t = some handle) (hblocked : blocked t) (hsig : Signaled m handle) :
    (m.waits t).notified = true := by
  obtain ⟨o, ho, hauto⟩ := h.auto ht
  obtain ⟨i, -, hi⟩ := h.made ht
  obtain ⟨handle', notified, ht', hwait⟩ := h.blocked hblocked
  obtain rfl : handle = handle' := Option.some.inj (ht.symm.trans ht')
  have hmem : t ∈ o.waiters := (h.inv.mem_waiters ho t).mpr (by simp [hwait, Wait.handles])
  have hwoken := h.inv.woken (hi ▸ eventHandle_type i) ho ((signaled_iff ho).mp hsig)
  unfold Woken at hwoken
  rw [if_pos hauto] at hwoken
  obtain ⟨u, hu, hn⟩ := hwoken (List.ne_nil_of_mem hmem)
  -- whoever waits for the event of the thread is the thread
  have hut : u = t := by
    have hin := (h.inv.mem_waiters ho u).mp hu
    by_cases hub : blocked u
    · obtain ⟨k, b, hk, hwait'⟩ := h.blocked hub
      obtain rfl : handle = k := by simpa [hwait', Wait.handles] using hin
      exact h.apart hk ht
    · rw [h.idle hub] at hin
      simp [Wait.handles] at hin
  exact hut ▸ hn

/-! ### What every step keeps -/

namespace System

/-- The threads that are in a wait. -/
def Waits (s : System) : Thread → Prop
  | .mode => s.mode = .waiting
  | .main => ∃ inner, s.main = .waiting inner

end System

/-- `main` has not constructed the mode thread. -/
def MainPc.alone : MainPc → Bool
  | .refreshData _ | .construct => true
  | _ => false

/-- `main` has made its event. -/
def MainPc.made : MainPc → Bool
  | .refreshData _ | .construct | .create => false
  | _ => true

structure Facts (s : System) : Prop where
  own : Own s.manager s.events s.Waits
  modeEvent : (s.events .mode).isSome = true ↔ s.mode ≠ .absent ∧ s.mode ≠ .create
  mainEvent : (s.events .main).isSome = s.main.made
  absent : s.mode = .absent ↔ s.main.alone = true
  newDataEvents : ∀ handle ∈ s.newDataEvents, s.events .mode = some handle
  refreshEvents : ∀ handle ∈ s.refreshEvents, s.events .main = some handle
  mqtt : ∀ left, s.mqtt = .setting left → ∀ handle ∈ left, s.events .mode = some handle
  setting : ∀ left, s.mode = .setting left → ∀ handle ∈ left, s.events .main = some handle

lemma Own.congr {blocked' : Thread → Prop} (h : Own m events blocked)
    (hiff : ∀ t, blocked' t ↔ blocked t) : Own m events blocked' := by
  obtain rfl : blocked' = blocked := funext fun t => propext (hiff t)
  exact h

lemma facts_start : Facts start where
  own := by
    refine ⟨inv_start, fun ht => ?_, fun ht => ?_, fun _ _ _ => rfl, rfl, fun ht => ?_,
      fun _ => rfl, fun {t} ht => ?_⟩
    · cases ht
    · cases ht
    · cases ht
    · cases t with
      | mode => cases ht
      | main =>
        obtain ⟨inner, ht⟩ := ht
        cases ht
  modeEvent := by simp [start]
  mainEvent := rfl
  absent := by simp [start, MainPc.alone]
  newDataEvents := by simp [start]
  refreshEvents := by simp [start]
  mqtt := by simp [start]
  setting := by simp [start]

variable {s : System} {signed : Bool}

lemma Facts.events_mode (h : Facts s) (hmode : s.mode ≠ .absent ∧ s.mode ≠ .create) :
    ∃ handle, s.events .mode = some handle :=
  Option.isSome_iff_exists.mp (h.modeEvent.mpr hmode)

lemma Facts.events_main (h : Facts s) (hmain : s.main.made = true) :
    ∃ handle, s.events .main = some handle :=
  Option.isSome_iff_exists.mp (h.mainEvent.trans hmain)

lemma facts_packet (h : Facts s) (payload : Payload) : Facts (step signed s (.packet payload)) := by
  unfold step
  dsimp only
  split
  · exact { h with mqtt := by simp }
  · exact h

lemma facts_mqttStep (h : Facts s) : Facts s.mqttStep := by
  unfold System.mqttStep
  split
  · exact h
  · rename_i pc _
    exact { h with mqtt := by cases (packetStep s.ds pc).2 <;> simp }
  · exact { h with mqtt := fun left hleft handle hmem =>
      h.newDataEvents handle (MqttPc.setting.inj hleft ▸ hmem) }
  · exact { h with mqtt := by simp }
  · rename_i handle left hleft
    have ht := h.mqtt _ hleft
    exact { h with
      own := (h.own.set (ht handle (by simp))).1
      mqtt := fun left' hleft' k hk =>
        ht k (List.mem_cons_of_mem _ (MqttPc.setting.inj hleft' ▸ hk)) }

/-- Nobody has an event that is not there. -/
lemma forall_of_none {l : List WPI_Handle} {event : Option WPI_Handle} (hnone : event = none)
    (hl : ∀ handle ∈ l, event = some handle) (event' : Option WPI_Handle) :
    ∀ handle ∈ l, event' = some handle := by
  intro handle hmem
  have := hl handle hmem
  rw [hnone] at this
  cases this

lemma facts_create_mode (h : Facts s) (hmode : s.mode = .create) :
    Facts { s.create .mode with mode := .provide } := by
  have hnone : s.events .mode = none := by
    rw [← Option.not_isSome_iff_eq_none, h.modeEvent]
    simp [hmode]
  have hmain : (s.create .mode).events .main = s.events .main := by simp [System.create]
  exact {
    own := (h.own.create hnone).congr fun t => by
      cases t <;> simp [System.Waits, System.create, hmode]
    modeEvent := by simp [System.create]
    mainEvent := by rw [hmain]; exact h.mainEvent
    absent := by simpa [System.create, hmode] using h.absent
    newDataEvents := forall_of_none hnone h.newDataEvents _
    refreshEvents := by rw [hmain]; exact h.refreshEvents
    mqtt := fun left hleft => forall_of_none hnone (h.mqtt left hleft) _
    setting := by simp }

lemma facts_create_main (h : Facts s) (hmain : s.main = .create) :
    Facts { s.create .main with main := .provide } := by
  have hnone : s.events .main = none := by
    rw [← Option.isNone_iff_eq_none, ← Option.not_isSome, h.mainEvent, hmain]
    rfl
  have hmode : (s.create .main).events .mode = s.events .mode := by simp [System.create]
  exact {
    own := (h.own.create hnone).congr fun t => by
      cases t <;> simp [System.Waits, System.create, hmain]
    modeEvent := by rw [hmode]; exact h.modeEvent
    mainEvent := by simp [System.create, MainPc.made]
    absent := by
      have habsent := h.absent
      rw [hmain] at habsent
      exact habsent
    newDataEvents := by rw [hmode]; exact h.newDataEvents
    refreshEvents := forall_of_none hnone h.refreshEvents _
    mqtt := by rw [hmode]; exact h.mqtt
    setting := fun left hleft => forall_of_none hnone (h.setting left hleft) _ }

lemma waited_waitForObject (h : Facts s) {t : Thread} {handle : WPI_Handle}
    (ht : s.events t = some handle) (hidle : ¬ s.Waits t) :
    Waited s.manager (s.waitForObject t) s.events s.Waits t handle := by
  unfold System.waitForObject
  rw [ht]
  exact h.own.wait ht hidle

/-- A step of the wait of the mode thread. -/
lemma facts_wait_mode (h : Facts s) {manager : HandleManager Thread} {handle : WPI_Handle}
    (hmode : s.mode ≠ .absent ∧ s.mode ≠ .create)
    (hw : Waited s.manager manager s.events s.Waits .mode handle) :
    Facts { s with
      manager
      mode := if isBlocked manager .mode then .waiting else .refresh .loadGiven } where
  own := hw.own.congr fun t => by
    cases t with
    | mode => cases hb : isBlocked manager .mode <;> simp [System.Waits]
    | main => simp [System.Waits]
  modeEvent := by
    rw [h.modeEvent]
    cases isBlocked manager .mode <;> simpa using hmode
  mainEvent := h.mainEvent
  absent := by
    rw [← h.absent]
    cases isBlocked manager .mode <;> simpa using hmode.1
  newDataEvents := h.newDataEvents
  refreshEvents := h.refreshEvents
  mqtt := h.mqtt
  setting := by
    intro left hleft
    cases hb : isBlocked manager .mode <;> simp [hb] at hleft

/-- A step of the wait of `main`. -/
lemma facts_wait_main (h : Facts s) {manager : HandleManager Thread} {handle : WPI_Handle}
    (hmade : s.main.made = true) (halone : s.main.alone = false) (inner : Bool)
    (hw : Waited s.manager manager s.events s.Waits .main handle) :
    Facts { s with
      manager
      main := if isBlocked manager .main then .waiting inner else System.afterWait inner } where
  own := hw.own.congr fun t => by
    cases t with
    | mode => simp [System.Waits]
    | main => cases hb : isBlocked manager .main <;> cases inner <;>
        simp [System.Waits, System.afterWait]
  modeEvent := h.modeEvent
  mainEvent := by
    rw [h.mainEvent, hmade]
    cases isBlocked manager .main <;> cases inner <;> rfl
  absent := by
    rw [h.absent, halone]
    cases isBlocked manager .main <;> cases inner <;> rfl
  newDataEvents := h.newDataEvents
  refreshEvents := h.refreshEvents
  mqtt := h.mqtt
  setting := h.setting

/-- A thread goes on without the manager; it was not in a wait, and is not. -/
lemma Own.goOn {s' : System} (h : Facts s) (hmanager : s'.manager = s.manager)
    (hevents : s'.events = s.events) (hwaits : ∀ t, s'.Waits t ↔ s.Waits t) :
    Own s'.manager s'.events s'.Waits := by
  rw [hmanager, hevents]
  exact h.own.congr hwaits

lemma facts_modeStep (h : Facts s) : Facts s.modeStep := by
  unfold System.modeStep
  split
  · exact h
  · rename_i hmode
    exact facts_create_mode h hmode
  · rename_i hmode
    split
    · exact h
    · exact { h with
        own := .goOn h rfl rfl fun t => by cases t <;> simp [System.Waits, hmode]
        modeEvent := by simpa [hmode] using h.modeEvent
        absent := by simpa [hmode] using h.absent
        newDataEvents := fun handle hmem => by
          rcases List.mem_append.mp hmem with hmem | hmem
          · exact h.newDataEvents handle hmem
          · exact Option.mem_toList.mp hmem
        setting := by simp }
  · rename_i hmode
    have hready : s.mode ≠ .absent ∧ s.mode ≠ .create := by simp [hmode]
    obtain ⟨handle, ht⟩ := h.events_mode hready
    exact facts_wait_mode h hready (waited_waitForObject h ht (by simp [System.Waits, hmode]))
  · rename_i hmode
    have hready : s.mode ≠ .absent ∧ s.mode ≠ .create := by simp [hmode]
    obtain ⟨handle, ht⟩ := h.events_mode hready
    exact facts_wait_mode h hready (h.own.wake ht hmode)
  · rename_i r hmode
    exact { h with
      own := .goOn h rfl rfl fun t => by
        cases t <;> cases (refreshStep s.ds r).2 <;> simp [System.Waits, hmode]
      modeEvent := by cases (refreshStep s.ds r).2 <;> simpa [hmode] using h.modeEvent
      absent := by cases (refreshStep s.ds r).2 <;> simpa [hmode] using h.absent
      setting := by cases (refreshStep s.ds r).2 <;> simp }
  · rename_i hmode
    exact { h with
      own := .goOn h rfl rfl fun t => by cases t <;> simp [System.Waits, hmode]
      modeEvent := by simpa [hmode] using h.modeEvent
      absent := by simpa [hmode] using h.absent
      setting := fun left hleft handle hmem =>
        h.refreshEvents handle (ModePc.setting.inj hleft ▸ hmem) }
  · rename_i hmode
    exact { h with
      own := .goOn h rfl rfl fun t => by cases t <;> simp [System.Waits, hmode]
      modeEvent := by simpa [hmode] using h.modeEvent
      absent := by simpa [hmode] using h.absent
      setting := by simp }
  · rename_i handle left hmode
    have ht := h.setting _ hmode
    exact { h with
      own := ((h.own.set (ht handle (by simp))).1).congr fun t => by
        cases t <;> simp [System.Waits, hmode]
      modeEvent := by simpa [hmode] using h.modeEvent
      absent := by simpa [hmode] using h.absent
      setting := fun left' hleft' k hk =>
        ht k (List.mem_cons_of_mem _ (ModePc.setting.inj hleft' ▸ hk)) }

/-- `main` goes on as it was, as far as its event and the mode thread are concerned. -/
lemma facts_main {s' : System} (h : Facts s) (hmanager : s'.manager = s.manager)
    (hevents : s'.events = s.events) (hmqtt : s'.mqtt = s.mqtt) (hmode : s'.mode = s.mode)
    (hnew : s'.newDataEvents = s.newDataEvents) (hrefresh : s'.refreshEvents = s.refreshEvents)
    (hwaits : ∀ inner, s.main ≠ .waiting inner) (hwaits' : ∀ inner, s'.main ≠ .waiting inner)
    (hmade : s'.main.made = s.main.made) (halone : s'.main.alone = s.main.alone) : Facts s' where
  own := .goOn h hmanager hevents fun t => by
    cases t with
    | mode => simp [System.Waits, hmode]
    | main => simp [System.Waits, hwaits, hwaits']
  modeEvent := by
    rw [hevents, hmode]
    exact h.modeEvent
  mainEvent := by
    rw [hevents, hmade]
    exact h.mainEvent
  absent := by
    rw [hmode, halone]
    exact h.absent
  newDataEvents := by
    rw [hnew, hevents]
    exact h.newDataEvents
  refreshEvents := by
    rw [hrefresh, hevents]
    exact h.refreshEvents
  mqtt := by
    rw [hmqtt, hevents]
    exact h.mqtt
  setting := by
    rw [hmode, hevents]
    exact h.setting

lemma facts_mainStep (h : Facts s) : Facts s.mainStep := by
  unfold System.mainStep
  split
  · rename_i r hmain
    refine facts_main h rfl rfl rfl rfl rfl rfl (by simp [hmain]) ?_ ?_ ?_ <;>
      cases (refreshStep s.ds r).2 <;> simp [hmain, MainPc.made, MainPc.alone]
  · rename_i hmain
    have habsent : s.mode = .absent := h.absent.mpr (by rw [hmain]; rfl)
    exact { h with
      own := .goOn h rfl rfl fun t => by cases t <;> simp [System.Waits, hmain, habsent]
      modeEvent := by simpa [habsent] using h.modeEvent
      mainEvent := h.mainEvent.trans (by rw [hmain]; rfl)
      absent := by simp [MainPc.alone]
      setting := by simp }
  · rename_i hmain
    exact facts_create_main h hmain
  · rename_i hmain
    split
    · exact h
    · exact { h with
        own := .goOn h rfl rfl fun t => by cases t <;> simp [System.Waits, hmain]
        mainEvent := h.mainEvent.trans (by rw [hmain]; rfl)
        absent := h.absent.trans (by rw [hmain]; rfl)
        refreshEvents := fun handle hmem => by
          rcases List.mem_append.mp hmem with hmem | hmem
          · exact h.refreshEvents handle hmem
          · exact Option.mem_toList.mp hmem }
  · rename_i inner hmain
    have hmade : s.main.made = true := by rw [hmain]; rfl
    obtain ⟨handle, ht⟩ := h.events_main hmade
    exact facts_wait_main h hmade (by rw [hmain]; rfl) inner
      (waited_waitForObject h ht (by simp [System.Waits, hmain]))
  · rename_i inner hmain
    have hmade : s.main.made = true := by rw [hmain]; rfl
    obtain ⟨handle, ht⟩ := h.events_main hmade
    exact facts_wait_main h hmade (by rw [hmain]; rfl) inner (h.own.wake ht ⟨inner, hmain⟩)
  · rename_i hmain
    exact facts_main h rfl rfl rfl rfl rfl rfl (by simp [hmain]) (by simp) (by rw [hmain]; rfl)
      (by rw [hmain]; rfl)
  · rename_i inner hmain
    have hwaits : ∀ inner, s.main ≠ .waiting inner := by simp [hmain]
    split_ifs
    · exact h
    all_goals
      exact facts_main h rfl rfl rfl rfl rfl rfl hwaits (by simp) (by rw [hmain]; rfl)
        (by rw [hmain]; rfl)

theorem facts_step (h : Facts s) (i : Input) : Facts (step signed s i) := by
  cases i with
  | packet payload => exact facts_packet h payload
  | mqtt => exact facts_mqttStep h
  | mode => exact facts_modeStep h
  | main => exact facts_mainStep h

lemma facts_run (l : List Input) : Facts (run (step signed) start l) :=
  run_invariant (I := Facts) (fun _ i h => facts_step h i) facts_start l

/-! ### Alone -/

/-- **Agreement.** If the thread of the packets is alone in the call, its steps are those of the
whole `newDataOccur`. -/
theorem newDataOccur_alone (signed : Bool) (s : System) (hs : s.mqtt = .idle) (payload : Payload) :
    run (step signed) s [.packet payload, .mqtt, .mqtt] =
      { s with ds := s.ds.newDataOccur signed payload, mqtt := .wakeup } := by
  obtain ⟨d', pc, hexchange, hgive⟩ := packet_alone s.ds signed payload
  simp [step, hs, System.mqttStep, hexchange, hgive]

/-- **Agreement.** If the mode thread is alone in the call, its steps are those of the whole
`HAL_RefreshDSData`. -/
theorem refreshData_alone (signed : Bool) (s : System) (hs : s.mode = .refresh .loadGiven) :
    ∃ n, run (step signed) s (List.replicate n .mode) =
      { s with ds := s.ds.HAL_RefreshDSData.1, mode := .wakeup } := by
  obtain ⟨word, d', pc, hgiven, hword, htake, hcopy | hzero⟩ := refresh_alone s.ds
  · obtain ⟨rfl, hcopy⟩ := hcopy
    exact ⟨4, by simp [List.replicate, step, hs, System.modeStep, hgiven, hword, htake, hcopy]⟩
  · obtain ⟨rfl, d'', hzero, hcopy⟩ := hzero
    exact ⟨5, by
      simp [List.replicate, step, hs, System.modeStep, hgiven, hword, htake, hzero, hcopy]⟩

/-! ### Where the news is -/

/-- Both threads have an event among those that are set for them. -/
structure Registered (s : System) : Prop where
  mode : ∃ handle ∈ s.newDataEvents, s.events .mode = some handle
  main : ∃ handle ∈ s.refreshEvents, s.events .main = some handle

variable {g : Fin 3}

/-- The mode thread is about to read the cache: its event will be set, or is, or it is in a refresh
that has read nothing else. -/
def Taking (g : Fin 3) (s : System) : Prop :=
  s.mqtt = .wakeup ∨
    (∃ handle left, s.events .mode = some handle ∧ s.mqtt = .setting left ∧ handle ∈ left) ∨
    (∃ handle, s.events .mode = some handle ∧ Signaled s.manager handle) ∨
    ∃ r, s.mode = .refresh r ∧ Reads g s.ds r

/-- So `main` is about to look. -/
def Looking (s : System) : Prop :=
  s.mode = .wakeup ∨
    (∃ handle left, s.events .main = some handle ∧ s.mode = .setting left ∧ handle ∈ left) ∨
    (∃ handle, s.events .main = some handle ∧ Signaled s.manager handle) ∨
    s.main = .buttons ∨ ∃ inner, s.main = .check inner

/-- Where the packet in the cache `g` is on its way to `main`, or `main` has looked at what became
of it. -/
inductive Handed (g : Fin 3) (s : System) : Prop
  | exchange (hmqtt : s.mqtt = .occur .exchange) (hcache : s.ds.cacheToUpdate = g)
  | give (prev : Option (Fin 3)) (hmqtt : s.mqtt = .occur (.give prev))
    (hcache : s.ds.cacheToUpdate = g) (hplaced : Placed g s.ds)
  | taking (hmqtt : ∀ pc, s.mqtt ≠ .occur pc) (hgiven : Given g s.ds) (h : Taking g s)
  | taken (hmqtt : ∀ pc, s.mqtt ≠ .occur pc) (hgiven : Given g s.ds) (hread : Read g s.ds)
    (hmode : ∀ r, s.mode ≠ .refresh r)
    (h : Looking s ∨ s.seen = some s.ds.newestControlWord)

lemma Registered.made (hr : Registered s) (h : Facts s) : s.main.made = true := by
  obtain ⟨-, e, -, hmain⟩ := hr
  exact h.mainEvent.symm.trans (by simp [hmain])

lemma Registered.step (hr : Registered s) (h : Facts s) (i : Input) :
    Registered (step signed s i) := by
  have hmade := hr.made h
  obtain ⟨⟨e, he, hmode⟩, e', he', hmain⟩ := hr
  cases i with
  | packet payload =>
    unfold NewData.step
    dsimp only
    split <;> exact ⟨⟨e, he, hmode⟩, e', he', hmain⟩
  | mqtt =>
    simp only [NewData.step, System.mqttStep]
    split <;> exact ⟨⟨e, he, hmode⟩, e', he', hmain⟩
  | mode =>
    have hready := h.modeEvent.mp (by simp [hmode])
    simp only [NewData.step, System.modeStep]
    split
    · exact ⟨⟨e, he, hmode⟩, e', he', hmain⟩
    · rename_i hpc
      exact absurd hpc hready.2
    · split
      · exact ⟨⟨e, he, hmode⟩, e', he', hmain⟩
      · exact ⟨⟨e, List.mem_append_left _ he, hmode⟩, e', he', hmain⟩
    all_goals exact ⟨⟨e, he, hmode⟩, e', he', hmain⟩
  | main =>
    simp only [NewData.step, System.mainStep]
    split
    · exact ⟨⟨e, he, hmode⟩, e', he', hmain⟩
    · exact ⟨⟨e, he, hmode⟩, e', he', hmain⟩
    · rename_i hpc
      rw [hpc] at hmade
      cases hmade
    · split
      · exact ⟨⟨e, he, hmode⟩, e', he', hmain⟩
      · exact ⟨⟨e, he, hmode⟩, e', List.mem_append_left _ he', hmain⟩
    · exact ⟨⟨e, he, hmode⟩, e', he', hmain⟩
    · exact ⟨⟨e, he, hmode⟩, e', he', hmain⟩
    · exact ⟨⟨e, he, hmode⟩, e', he', hmain⟩
    · split <;> exact ⟨⟨e, he, hmode⟩, e', he', hmain⟩

/-- The thread of the packets hands the cache over, and then wakes the mode thread. -/
lemma handed_mqttStep (hr : Registered s) (h : Facts s) (hp : Handed g s) :
    Handed g s.mqttStep := by
  obtain ⟨⟨e, he, hmode⟩, -⟩ := hr
  unfold System.mqttStep
  split
  · exact hp
  · rename_i pc hpc
    cases hp with
    | exchange hmqtt hcache =>
      obtain rfl : pc = .exchange := MqttPc.occur.inj (hpc.symm.trans hmqtt)
      exact .give _ rfl hcache (placed_exchange hcache)
    | give prev hmqtt hcache hplaced =>
      obtain rfl : pc = .give prev := MqttPc.occur.inj (hpc.symm.trans hmqtt)
      have hwakeup : (packetStep s.ds (.give prev)).2 = none := by cases prev <;> rfl
      exact .taking (by simp [hwakeup]) (given_give hcache hplaced) (Or.inl (by simp [hwakeup]))
    | taking hmqtt | taken hmqtt => exact absurd hpc (hmqtt pc)
  · rename_i hpc
    have hset : ∀ hgiven : Given g s.ds, Handed g { s with mqtt := .setting s.newDataEvents } :=
      fun hgiven => .taking (by simp) hgiven (Or.inr (Or.inl ⟨e, _, hmode, rfl, he⟩))
    cases hp with
    | exchange hmqtt | give _ hmqtt => simp [hpc] at hmqtt
    | taking hmqtt hgiven => exact hset hgiven
    | taken hmqtt hgiven => exact hset hgiven
  · rename_i hpc
    cases hp with
    | exchange hmqtt | give _ hmqtt => simp [hpc] at hmqtt
    | taking hmqtt hgiven htaking =>
      refine .taking (by simp) hgiven ?_
      rcases htaking with hwakeup | ⟨e', left, -, hleft, hmem⟩ | hnext
      · simp [hpc] at hwakeup
      · rw [hpc] at hleft
        rw [← MqttPc.setting.inj hleft] at hmem
        simp at hmem
      · exact Or.inr (Or.inr hnext)
    | taken hmqtt hgiven hread hnot hlook =>
      exact .taken (by simp) hgiven hread hnot hlook
  · rename_i e' left hpc
    -- the event is that of the mode thread
    have hset := h.own.set (h.mqtt _ hpc e' (by simp))
    have hsignal : ∀ hgiven : Given g s.ds, Handed g
        { s with manager := s.manager.setEvent e', mqtt := .setting left } := fun hgiven =>
      .taking (by simp) hgiven
        (Or.inr (Or.inr (Or.inl ⟨e', h.mqtt _ hpc e' (by simp), hset.2.1⟩)))
    cases hp with
    | exchange hmqtt | give _ hmqtt => simp [hpc] at hmqtt
    | taking hmqtt hgiven => exact hsignal hgiven
    | taken hmqtt hgiven => exact hsignal hgiven

/-- A step of the wait of the mode thread: it begins a refresh, or there is no signal for it. -/
lemma handed_wait_mode (hp : Handed g s) {manager : HandleManager Thread} {handle : WPI_Handle}
    (h : Facts s) (ht : s.events .mode = some handle) (hpc : s.mode = .wait ∨ s.mode = .waiting)
    (hw : Waited s.manager manager s.events s.Waits .mode handle) :
    Handed g { s with
      manager
      mode := if isBlocked manager .mode then .waiting else .refresh .loadGiven } := by
  have hother : ∀ e, s.events .main = some e → Signaled s.manager e → Signaled manager e := by
    intro e he hsig
    refine hw.others e ?_ hsig
    rintro rfl
    exact absurd (h.own.apart ht he) (by decide)
  have hnot : ∀ r, s.mode ≠ .refresh r := by
    intro r hr
    rcases hpc with hpc | hpc <;> rw [hpc] at hr <;> cases hr
  cases hp with
  | exchange hmqtt hcache => exact .exchange hmqtt hcache
  | give prev hmqtt hcache hplaced => exact .give prev hmqtt hcache hplaced
  | taking hmqtt hgiven htaking =>
    refine .taking hmqtt hgiven ?_
    rcases htaking with hwakeup | hset | ⟨e, he, hsig⟩ | ⟨r, hr, -⟩
    · exact Or.inl hwakeup
    · exact Or.inr (Or.inl hset)
    · obtain rfl : handle = e := Option.some.inj (ht.symm.trans he)
      have hb : isBlocked manager .mode ≠ true := fun hb => hw.iff.mp hb hsig
      exact Or.inr (Or.inr (Or.inr ⟨.loadGiven, by simp [hb], trivial⟩))
    · exact absurd hr (hnot r)
  | taken hmqtt hgiven hread _ hlook =>
    by_cases hb : isBlocked manager .mode = true
    · refine .taken hmqtt hgiven hread (by simp [hb]) (hlook.imp_left ?_)
      rintro (hwake | ⟨e, left, -, hset, -⟩ | ⟨e, he, hsig⟩ | hmain)
      · rcases hpc with hpc | hpc <;> rw [hpc] at hwake <;> cases hwake
      · rcases hpc with hpc | hpc <;> rw [hpc] at hset <;> cases hset
      · exact Or.inr (Or.inr (Or.inl ⟨e, he, hother e he hsig⟩))
      · exact Or.inr (Or.inr (Or.inr hmain))
    · exact .taking hmqtt hgiven (Or.inr (Or.inr (Or.inr ⟨.loadGiven, by simp [hb], trivial⟩)))

/-- A step of the wait of `main`: it looks next, or there is no signal for it. -/
lemma handed_wait_main (hp : Handed g s) {manager : HandleManager Thread} {handle : WPI_Handle}
    (h : Facts s) (ht : s.events .main = some handle) {inner : Bool}
    (hpc : s.main = .wait inner ∨ s.main = .waiting inner)
    (hw : Waited s.manager manager s.events s.Waits .main handle) :
    Handed g { s with
      manager
      main := if isBlocked manager .main then .waiting inner else System.afterWait inner } := by
  have hother : ∀ e, s.events .mode = some e → Signaled s.manager e → Signaled manager e := by
    intro e he hsig
    refine hw.others e ?_ hsig
    rintro rfl
    exact absurd (h.own.apart ht he) (by decide)
  cases hp with
  | exchange hmqtt hcache => exact .exchange hmqtt hcache
  | give prev hmqtt hcache hplaced => exact .give prev hmqtt hcache hplaced
  | taking hmqtt hgiven htaking =>
    refine .taking hmqtt hgiven ?_
    rcases htaking with hwakeup | hset | ⟨e, he, hsig⟩ | hrefresh
    · exact Or.inl hwakeup
    · exact Or.inr (Or.inl hset)
    · exact Or.inr (Or.inr (Or.inl ⟨e, he, hother e he hsig⟩))
    · exact Or.inr (Or.inr (Or.inr hrefresh))
  | taken hmqtt hgiven hread hnot hlook =>
    refine .taken hmqtt hgiven hread hnot ?_
    by_cases hb : isBlocked manager .main = true
    · refine hlook.imp_left ?_
      rintro (hwake | hset | ⟨e, he, hsig⟩ | hmain)
      · exact Or.inl hwake
      · exact Or.inr (Or.inl hset)
      · obtain rfl : handle = e := Option.some.inj (ht.symm.trans he)
        exact absurd hsig (hw.iff.mp hb)
      · rcases hpc with hpc | hpc <;> simp [hpc] at hmain
    · refine Or.inl (Or.inr (Or.inr (Or.inr ?_)))
      cases inner
      · exact Or.inr ⟨false, by simp [hb, System.afterWait]⟩
      · exact Or.inl (by simp [hb, System.afterWait])

/-- An access of a refresh: it goes on with what the cache holds, or knows nothing of it yet. -/
lemma handed_refresh (hp : Handed g s) {r : RefreshPc} (hpc : s.mode = .refresh r) :
    Handed g { s with
      ds := (refreshStep s.ds r).1
      mode := (refreshStep s.ds r).2.elim .wakeup .refresh } := by
  have hupdate := (refreshStep_frame s.ds r).2
  cases hp with
  | exchange hmqtt hcache => exact .exchange hmqtt (hupdate.trans hcache)
  | give prev hmqtt hcache hplaced =>
    exact .give prev hmqtt (hupdate.trans hcache) (hplaced.refreshStep r)
  | taking hmqtt hgiven htaking =>
    have hgiven' := hgiven.refreshStep r
    rcases htaking with hwakeup | hset | hsig | ⟨r', hr', hreads⟩
    · exact .taking hmqtt hgiven' (Or.inl hwakeup)
    · exact .taking hmqtt hgiven' (Or.inr (Or.inl hset))
    · exact .taking hmqtt hgiven' (Or.inr (Or.inr (Or.inl hsig)))
    · obtain rfl : r = r' := ModePc.refresh.inj (hpc.symm.trans hr')
      have hnext := hreads.refreshStep hgiven
      cases hstep : (refreshStep s.ds r).2 with
      | none =>
        rw [hstep] at hnext
        exact .taken hmqtt hgiven' hnext (by simp) (Or.inl (Or.inl rfl))
      | some r' =>
        rw [hstep] at hnext
        exact .taking hmqtt hgiven' (Or.inr (Or.inr (Or.inr ⟨r', rfl, hnext⟩)))
  | taken hmqtt hgiven hread hnot => exact absurd hpc (hnot r)

/-- What the mode thread does next to its wait and its refresh keeps the news, if it keeps a look
that is to come from itself. -/
lemma handed_mode {s' : System} (hp : Handed g s) (hevents : s'.events = s.events)
    (hmanager : s'.manager = s.manager) (hmqtt : s'.mqtt = s.mqtt) (hmain : s'.main = s.main)
    (hseen : s'.seen = s.seen) (hds : s'.ds = s.ds) (hnot : ∀ r, s.mode ≠ .refresh r)
    (hnot' : ∀ r, s'.mode ≠ .refresh r)
    (hlook : (s.mode = .wakeup ∨ ∃ handle left, s.events .main = some handle ∧
      s.mode = .setting left ∧ handle ∈ left) → Looking s') : Handed g s' := by
  cases hp with
  | exchange h hcache => exact .exchange (hmqtt.trans h) (hds ▸ hcache)
  | give prev h hcache hplaced => exact .give prev (hmqtt.trans h) (hds ▸ hcache) (hds ▸ hplaced)
  | taking h hgiven htaking =>
    refine .taking (hmqtt ▸ h) (hds ▸ hgiven) ?_
    rcases htaking with hwakeup | hset | hsig | ⟨r, hr, -⟩
    · exact Or.inl (hmqtt.trans hwakeup)
    · refine Or.inr (Or.inl ?_)
      rwa [hevents, hmqtt]
    · refine Or.inr (Or.inr (Or.inl ?_))
      rwa [hevents, hmanager]
    · exact absurd hr (hnot r)
  | taken h hgiven hread _ hnext =>
    refine .taken (hmqtt ▸ h) (hds ▸ hgiven) (hds ▸ hread) hnot' ?_
    rw [hseen, hds]
    refine hnext.imp_left ?_
    rintro (hwake | hset | hsig | hnext)
    · exact hlook (Or.inl hwake)
    · exact hlook (Or.inr hset)
    · refine Or.inr (Or.inr (Or.inl ?_))
      rwa [hevents, hmanager]
    · refine Or.inr (Or.inr (Or.inr ?_))
      rwa [hmain]

lemma handed_modeStep (hr : Registered s) (h : Facts s) (hp : Handed g s) :
    Handed g s.modeStep := by
  obtain ⟨⟨e, he, hmode⟩, e', he', hmain⟩ := hr
  have hready := h.modeEvent.mp (by simp [hmode])
  unfold System.modeStep
  split
  · exact hp
  · rename_i hpc
    exact absurd hpc hready.2
  · rename_i hpc
    split
    · exact hp
    · exact handed_mode hp rfl rfl rfl rfl rfl rfl (by simp [hpc]) (by simp) (by simp [hpc])
  · rename_i hpc
    exact handed_wait_mode hp h hmode (Or.inl hpc)
      (waited_waitForObject h hmode (by simp [System.Waits, hpc]))
  · rename_i hpc
    exact handed_wait_mode hp h hmode (Or.inr hpc) (h.own.wake hmode hpc)
  · rename_i r hpc
    exact handed_refresh hp hpc
  · rename_i hpc
    exact handed_mode hp rfl rfl rfl rfl rfl rfl (by simp [hpc]) (by simp) fun _ =>
      Or.inr (Or.inl ⟨e', s.refreshEvents, hmain, rfl, he'⟩)
  · -- the pass is over
    rename_i hpc
    exact handed_mode hp rfl rfl rfl rfl rfl rfl (by simp [hpc]) (by simp) (by simp [hpc])
  · rename_i k left hpc
    have hk := h.setting _ hpc k (by simp)
    obtain ⟨-, hset, hkept⟩ := h.own.set hk
    cases hp with
    | exchange hmqtt hcache => exact .exchange hmqtt hcache
    | give prev hmqtt hcache hplaced => exact .give prev hmqtt hcache hplaced
    | taking hmqtt hgiven htaking =>
      refine .taking hmqtt hgiven ?_
      rcases htaking with hwakeup | hleft | ⟨e, he, hsig⟩ | ⟨r, hr, -⟩
      · exact Or.inl hwakeup
      · exact Or.inr (Or.inl hleft)
      · exact Or.inr (Or.inr (Or.inl ⟨e, he, hkept e hsig⟩))
      · rw [hpc] at hr
        cases hr
    | taken hmqtt hgiven hread =>
      exact .taken hmqtt hgiven hread (by simp)
        (Or.inl (Or.inr (Or.inr (Or.inl ⟨k, hk, hset⟩))))

/-- What `main` does next to its wait keeps a look that is to come. -/
lemma handed_main {s' : System} (hp : Handed g s) (hevents : s'.events = s.events)
    (hmanager : s'.manager = s.manager) (hmqtt : s'.mqtt = s.mqtt) (hmode : s'.mode = s.mode)
    (hds : s'.ds = s.ds)
    (hlook : (s.main = .buttons ∨ ∃ inner, s.main = .check inner) ∨
        s.seen = some s.ds.newestControlWord →
      Looking s' ∨ s'.seen = some s.ds.newestControlWord) : Handed g s' := by
  cases hp with
  | exchange h hcache => exact .exchange (hmqtt.trans h) (hds ▸ hcache)
  | give prev h hcache hplaced => exact .give prev (hmqtt.trans h) (hds ▸ hcache) (hds ▸ hplaced)
  | taking h hgiven htaking =>
    refine .taking (hmqtt ▸ h) (hds ▸ hgiven) ?_
    unfold Taking at htaking ⊢
    rwa [hevents, hmanager, hmqtt, hmode, hds]
  | taken h hgiven hread hnot hnext =>
    refine .taken (hmqtt ▸ h) (hds ▸ hgiven) (hds ▸ hread) (hmode ▸ hnot) ?_
    rw [hds]
    rcases hnext with (hwake | hset | hsig | hmain) | hseen
    · exact Or.inl (Or.inl (hmode.trans hwake))
    · refine Or.inl (Or.inr (Or.inl ?_))
      rwa [hevents, hmode]
    · refine Or.inl (Or.inr (Or.inr (Or.inl ?_)))
      rwa [hevents, hmanager]
    · exact hlook (Or.inl hmain)
    · exact hlook (Or.inr hseen)

lemma handed_mainStep (hr : Registered s) (h : Facts s) (hp : Handed g s) :
    Handed g s.mainStep := by
  have hmade := hr.made h
  obtain ⟨-, e', he', hmain⟩ := hr
  unfold System.mainStep
  split
  · rename_i hpc
    simp [hpc, MainPc.made] at hmade
  · rename_i hpc
    simp [hpc, MainPc.made] at hmade
  · rename_i hpc
    simp [hpc, MainPc.made] at hmade
  · rename_i hpc
    split
    · exact hp
    · exact handed_main hp rfl rfl rfl rfl rfl fun hlook => Or.inr (by simpa [hpc] using hlook)
  · rename_i inner hpc
    exact handed_wait_main hp h hmain (Or.inl hpc)
      (waited_waitForObject h hmain (by simp [System.Waits, hpc]))
  · rename_i inner hpc
    exact handed_wait_main hp h hmain (Or.inr hpc) (h.own.wake hmain ⟨inner, hpc⟩)
  · exact handed_main hp rfl rfl rfl rfl rfl fun _ =>
      Or.inl (Or.inr (Or.inr (Or.inr (Or.inr ⟨true, rfl⟩))))
  · split
    · exact hp
    · -- a look at what was taken
      exact handed_main hp rfl rfl rfl rfl rfl fun _ => Or.inr rfl

/-- **One step** hands the news on, if it brings none itself. -/
theorem handed_step (hr : Registered s) (h : Facts s) (hp : Handed g s) {i : Input}
    (hi : ∀ payload, i ≠ .packet payload) : Handed g (step signed s i) := by
  cases i with
  | packet payload => exact absurd rfl (hi payload)
  | mqtt => exact handed_mqttStep hr h hp
  | mode => exact handed_modeStep hr h hp
  | main => exact handed_mainStep hr h hp

/-- What every step behind the packet keeps. -/
structure OnItsWay (g : Fin 3) (s : System) : Prop where
  registered : Registered s
  facts : Facts s
  handed : Handed g s

lemma OnItsWay.step (h : OnItsWay g s) {i : Input} (hi : ∀ payload, i ≠ .packet payload) :
    OnItsWay g (step signed s i) :=
  ⟨h.registered.step h.facts i, facts_step h.facts i, handed_step h.registered h.facts h.handed hi⟩

lemma ne_packet_of_mem {l : List Input} (hl : ∀ payload, .packet payload ∉ l) {i : Input}
    (hi : i ∈ l) (payload : Payload) : i ≠ .packet payload := by
  rintro rfl
  exact hl payload hi

lemma OnItsWay.run (h : OnItsWay g s) {l : List Input} (hl : ∀ payload, .packet payload ∉ l) :
    OnItsWay g (run (NewData.step signed) s l) := by
  induction l generalizing s with
  | nil => exact h
  | cons i l ih =>
    exact ih (h.step (ne_packet_of_mem hl List.mem_cons_self))
      fun payload hmem => hl payload (List.mem_cons_of_mem _ hmem)

/-! ### What becomes of the control word -/

/-- The mode thread zeroes the control word in the cache though the word is attached: it judges by
an older one. -/
def Zeroes (g : Fin 3) (s : System) : Input → Prop
  | .mode => s.mode = .refresh .zero ∧ s.ds.currentRead = g ∧ (held g s.ds).dsAttached = true
  | _ => False

instance (g : Fin 3) (s : System) : (i : Input) → Decidable (Zeroes g s i)
  | .mode => inferInstanceAs (Decidable (s.mode = .refresh .zero ∧ s.ds.currentRead = g ∧
      (held g s.ds).dsAttached = true))
  | .packet _ | .mqtt | .main => isFalse id

lemma effective_held_step (h : OnItsWay g s) {i : Input} (hi : ∀ payload, i ≠ .packet payload) :
    effective (held g (step signed s i).ds) =
      if Zeroes g s i then {} else effective (held g s.ds) := by
  cases i with
  | packet payload => exact absurd rfl (hi payload)
  | mqtt =>
    have hheld : held g (step signed s .mqtt).ds = held g s.ds := by
      simp only [step, System.mqttStep]
      split <;> first | rfl | exact held_packetStep g s.ds _
    rw [hheld, if_neg (show ¬ Zeroes g s .mqtt from id)]
  | main =>
    have hmade := h.registered.made h.facts
    have hheld : held g (step signed s .main).ds = held g s.ds := by
      simp only [step, System.mainStep]
      split
      · rename_i hpc
        simp [hpc, MainPc.made] at hmade
      all_goals first | rfl | (split <;> rfl)
    rw [hheld, if_neg (show ¬ Zeroes g s .main from id)]
  | mode =>
    by_cases hrefresh : ∃ r, s.mode = .refresh r
    · obtain ⟨r, hpc⟩ := hrefresh
      have hds : (step signed s .mode).ds = (refreshStep s.ds r).1 := by
        simp [step, System.modeStep, hpc]
      rw [hds, held_refreshStep]
      by_cases hzero : r = .zero ∧ s.ds.currentRead = g
      · rw [if_pos hzero]
        split_ifs with hz
        · rfl
        · -- the word was not attached before
          have hatt : (held g s.ds).dsAttached = false := by
            rw [← Bool.not_eq_true]
            exact fun hatt => hz ⟨hpc.trans (by rw [hzero.1]), hzero.2, hatt⟩
          rw [(effective_eq_zero_iff _).mpr hatt]
          rfl
      · rw [if_neg hzero, if_neg]
        rintro ⟨hz, hread, -⟩
        exact hzero ⟨ModePc.refresh.inj (hpc.symm.trans hz), hread⟩
    · have hheld : held g (step signed s .mode).ds = held g s.ds := by
        simp only [step, System.modeStep]
        split
        case h_6 r hpc => exact absurd ⟨r, hpc⟩ hrefresh
        all_goals first | rfl | (split <;> rfl)
      rw [hheld, if_neg]
      rintro ⟨hz, -⟩
      exact hrefresh ⟨_, hz⟩

/-- **In a run** the control word in the cache stays the same unless it is zeroed, and then it was
attached and is nothing. -/
lemma effective_held_run (signed : Bool) (h : OnItsWay g s) {l : List Input}
    (hl : ∀ payload, .packet payload ∉ l) :
    effective (held g (run (step signed) s l).ds) =
      if Each (step signed) (fun s i => ¬ Zeroes g s i) s l then effective (held g s.ds)
      else {} := by
  induction l generalizing s with
  | nil => rfl
  | cons i l ih =>
    have hi := ne_packet_of_mem hl List.mem_cons_self
    refine (ih (h.step hi) fun payload hmem => hl payload (List.mem_cons_of_mem _ hmem)).trans ?_
    rw [effective_held_step h hi]
    by_cases hz : Zeroes g s i
    · have hnot : ¬ Each (step signed) (fun s i => ¬ Zeroes g s i) s (i :: l) :=
        fun heach => heach.1 hz
      rw [if_pos hz, if_neg hnot, ite_self]
    · have hiff : Each (step signed) (fun s i => ¬ Zeroes g s i) s (i :: l) ↔
          Each (step signed) (fun s i => ¬ Zeroes g s i) (step signed s i) l :=
        and_iff_right hz
      rw [if_neg hz]
      exact if_congr hiff.symm rfl rfl

/-! ### Refreshes that began behind the hand-over -/

/-- The cache has been handed over, and a refresh under way goes on with what it holds. -/
structure Fresh (g : Fin 3) (s : System) : Prop where
  mqtt : ∀ pc, s.mqtt ≠ .occur pc
  given : Given g s.ds
  reads : ∀ r, s.mode = .refresh r → Reads g s.ds r

/-- They do not zero it. -/
lemma Fresh.not_zeroes (hf : Fresh g s) (i : Input) : ¬ Zeroes g s i := by
  cases i with
  | packet _ | mqtt | main => exact id
  | mode =>
    rintro ⟨hzero, -, hatt⟩
    rw [(hf.reads _ hzero).2] at hatt
    cases hatt

lemma Handed.given (hp : Handed g s) (hmqtt : ∀ pc, s.mqtt ≠ .occur pc) : Given g s.ds := by
  cases hp with
  | exchange hin | give _ hin => exact absurd hin (hmqtt _)
  | taking _ hgiven | taken _ hgiven => exact hgiven

/-- The wait of the mode thread returns into a refresh that has read nothing. -/
lemma Fresh.wait (hf : Fresh g s) (manager : HandleManager Thread) :
    Fresh g { s with
      manager
      mode := if isBlocked manager .mode then .waiting else .refresh .loadGiven } := by
  refine ⟨hf.mqtt, hf.given, fun r hr => ?_⟩
  dsimp only at hr
  split_ifs at hr
  obtain rfl : RefreshPc.loadGiven = r := ModePc.refresh.inj hr
  trivial

lemma Fresh.step (h : OnItsWay g s) (hf : Fresh g s) {i : Input}
    (hi : ∀ payload, i ≠ .packet payload) : Fresh g (step signed s i) := by
  cases i with
  | packet payload => exact absurd rfl (hi payload)
  | mqtt =>
    simp only [NewData.step, System.mqttStep]
    split
    · exact hf
    · rename_i hpc
      exact absurd hpc (hf.mqtt _)
    all_goals exact ⟨by simp, hf.given, hf.reads⟩
  | mode =>
    simp only [NewData.step, System.modeStep]
    split
    · exact hf
    · exact ⟨hf.mqtt, hf.given, by simp⟩
    · split
      · exact hf
      · exact ⟨hf.mqtt, hf.given, by simp⟩
    · exact hf.wait _
    · exact hf.wait _
    · rename_i r hpc
      have hnext := (hf.reads r hpc).refreshStep hf.given
      refine ⟨hf.mqtt, hf.given.refreshStep r, fun r' hr' => ?_⟩
      cases hstep : (refreshStep s.ds r).2 with
      | none => simp [hstep] at hr'
      | some r₁ =>
        rw [hstep] at hnext
        obtain rfl : r₁ = r' := by simpa [hstep] using hr'
        exact hnext
    all_goals exact ⟨hf.mqtt, hf.given, by simp⟩
  | main =>
    have hmade := h.registered.made h.facts
    simp only [NewData.step, System.mainStep]
    split
    · rename_i hpc
      simp [hpc, MainPc.made] at hmade
    · exact ⟨hf.mqtt, hf.given, by simp⟩
    · exact ⟨hf.mqtt, hf.given, hf.reads⟩
    · split <;> exact ⟨hf.mqtt, hf.given, hf.reads⟩
    · exact ⟨hf.mqtt, hf.given, hf.reads⟩
    · exact ⟨hf.mqtt, hf.given, hf.reads⟩
    · exact ⟨hf.mqtt, hf.given, hf.reads⟩
    · split <;> exact ⟨hf.mqtt, hf.given, hf.reads⟩

lemma Fresh.run (h : OnItsWay g s) (hf : Fresh g s) {l : List Input}
    (hl : ∀ payload, .packet payload ∉ l) : Fresh g (run (NewData.step signed) s l) := by
  induction l generalizing s with
  | nil => exact hf
  | cons i l ih =>
    have hi := ne_packet_of_mem hl List.mem_cons_self
    exact ih (h.step hi) (hf.step h hi) fun payload hmem => hl payload (List.mem_cons_of_mem _ hmem)

/-- **A refresh that zeroes the word** has been under way ever since the cache was handed over. -/
lemma refresh_of_zeroes (h : OnItsWay g s) {b₁ b₂ : List Input}
    (hb₁ : ∀ payload, .packet payload ∉ b₁) (hb₂ : ∀ payload, .packet payload ∉ b₂) {i : Input}
    (hz : Zeroes g (run (step signed) s (b₁ ++ b₂)) i)
    (hmqtt : ∀ pc, (run (step signed) s b₁).mqtt ≠ .occur pc) :
    ∃ r, (run (step signed) s b₁).mode = .refresh r := by
  by_contra hno
  have hway : OnItsWay g (run (step signed) s b₁) := h.run hb₁
  have hfresh : Fresh g (run (step signed) s b₁) :=
    ⟨hmqtt, hway.handed.given hmqtt, fun r hr => absurd ⟨r, hr⟩ hno⟩
  rw [run_append] at hz
  exact (hfresh.run hway hb₂).not_zeroes i hz

/-! ### When all is quiet -/

/-- The thread of the packets is done, and both other threads are blocked with no notification. -/
structure Quiet (s : System) : Prop where
  mqtt : s.mqtt = .idle
  waits : ∀ t, s.Waits t
  notified : ∀ t, (s.manager.waits t).notified = false

/-- Nothing is on its way any more. -/
lemma Handed.quiet (hp : Handed g s) (h : Facts s) (hquiet : Quiet s) :
    Given g s.ds ∧ Read g s.ds ∧ s.seen = some s.ds.newestControlWord := by
  have hno : ∀ t handle, s.events t = some handle → ¬ Signaled s.manager handle := by
    intro t handle ht hsig
    have hn := h.own.notified_of_signaled ht (hquiet.waits t) hsig
    rw [hquiet.notified t] at hn
    cases hn
  have hmqtt := hquiet.mqtt
  have hmode : s.mode = .waiting := hquiet.waits .mode
  obtain ⟨inner, hmain⟩ : ∃ inner, s.main = .waiting inner := hquiet.waits .main
  cases hp with
  | exchange h | give _ h =>
    rw [hmqtt] at h
    cases h
  | taking _ _ htaking =>
    rcases htaking with hwakeup | ⟨e, left, -, hleft, -⟩ | ⟨e, he, hsig⟩ | ⟨r, hrefresh, -⟩
    · rw [hmqtt] at hwakeup
      cases hwakeup
    · rw [hmqtt] at hleft
      cases hleft
    · exact absurd hsig (hno _ e he)
    · rw [hmode] at hrefresh
      cases hrefresh
  | taken _ hgiven hread _ hlook =>
    refine ⟨hgiven, hread, ?_⟩
    rcases hlook with (hwake | ⟨e, left, -, hset, -⟩ | ⟨e, he, hsig⟩ | hbuttons | ⟨c, hcheck⟩) |
      hseen
    · rw [hmode] at hwake
      cases hwake
    · rw [hmode] at hset
      cases hset
    · exact absurd hsig (hno _ e he)
    · rw [hmain] at hbuttons
      cases hbuttons
    · rw [hmain] at hcheck
      cases hcheck
    · exact hseen

/-- **The news is handed on.** Once both threads have registered their events, a packet arrives at
a time when its thread is free. Whatever the threads do then, access by access and in any order:
when all of them are blocked again and no further packet has come, the cache of the packet has been
taken and is the one that is read, and `main` has looked last at the newest control word. That is
the one of the packet, unless a refresh has zeroed it by the word of an older packet, and such a
refresh has been under way ever since the cache was handed over. -/
theorem news_handed_on (signed : Bool) (a b : List Input) (payload : Payload)
    (hr : Registered (run (step signed) start a))
    (hfree : (run (step signed) start a).mqtt = .idle) (hb : ∀ payload, .packet payload ∉ b)
    (hquiet : Quiet (run (step signed) start (a ++ .packet payload :: b))) :
    let g := (run (step signed) start a).ds.cacheToUpdate
    let arrived := run (step signed) start (a ++ [.packet payload])
    let s := run (step signed) start (a ++ .packet payload :: b)
    s.ds.currentCache = none ∧ s.ds.currentRead = g ∧ s.seen = some s.ds.newestControlWord ∧
      (s.ds.newestControlWord =
        if Each (step signed) (fun s i => ¬ Zeroes g s i) arrived b then effective ⟨payload 3⟩
        else {}) ∧
      ∀ b₁ b₂ i b₃, b = b₁ ++ b₂ ++ i :: b₃ →
        Zeroes g (run (step signed) arrived (b₁ ++ b₂)) i →
        (∀ pc, (run (step signed) arrived b₁).mqtt ≠ .occur pc) →
        ∃ r, (run (step signed) arrived b₁).mode = .refresh r := by
  intro g arrived s
  have hs : s = run (step signed) arrived b := by
    simp only [s, arrived, run_append, run_cons, run_nil]
  have harrived : arrived =
      { run (step signed) start a with
        ds := update (run (step signed) start a).ds signed payload
        mqtt := .occur .exchange } := by
    simp [arrived, run_append, step, hfree]
  have hway : OnItsWay g arrived := by
    have hrun : arrived = step signed (run (step signed) start a) (.packet payload) :=
      run_concat _ _ _ _
    refine ⟨hrun ▸ hr.step (facts_run a) (.packet payload), facts_run _, ?_⟩
    rw [harrived]
    exact .exchange rfl rfl
  have hheld : held g arrived.ds = ⟨payload 3⟩ := by
    rw [harrived]
    simp [held, update, g, JoystickDataCache.Update]
  have hend : Handed g s := hs ▸ (hway.run hb).handed
  obtain ⟨hgiven, hread, hseen⟩ := hend.quiet (facts_run _) hquiet
  have hword := effective_held_run signed hway hb
  rw [← hs] at hword
  refine ⟨hread.currentCache, (hgiven.placed.resolve_left (by simp [hread.currentCache])).2, hseen,
    ?_, ?_⟩
  · rw [hread.newest, hword, hheld]
  · rintro b₁ b₂ i b₃ rfl hz hmqtt
    exact refresh_of_zeroes hway (fun payload hmem => hb payload (by simp [hmem]))
      (fun payload hmem => hb payload (by simp [hmem])) hz hmqtt

/-- The threads register their events and wait. -/
def register : List Input :=
  List.replicate 6 .main ++ [.mode, .mode, .mode, .main, .main, .main]

/-- The news goes from the thread of the packets to the mode thread, and on to `main`. -/
def handOn : List Input :=
  List.replicate 5 .mqtt ++ List.replicate 9 .mode ++ List.replicate 4 .main

/-- A packet of an operator who has enabled the robot, and one of nobody. -/
def enabledPacket : Payload := fun i => if i = 3 then 0x21 else 0
def detachedPacket : Payload := fun _ => 0

/-- A refresh has read the control word of a packet of nobody, and has not taken the lock. -/
def begun : List Input :=
  register ++ .packet detachedPacket :: (List.replicate 5 .mqtt ++ List.replicate 3 .mode)

/-- The next packet is handed over before it goes on. -/
def overtaken : List Input :=
  List.replicate 2 .mqtt ++ List.replicate 5 .mode ++ List.replicate 3 .mqtt ++
    List.replicate 15 .mode ++ List.replicate 4 .main

lemma quiet_of_waits {s : System} (inner : Bool) (hmqtt : s.mqtt = .idle)
    (hmode : s.mode = .waiting) (hmain : s.main = .waiting inner)
    (hnotified : ∀ t, (s.manager.waits t).notified = false) : Quiet s := by
  refine ⟨hmqtt, fun t => ?_, hnotified⟩
  cases t with
  | mode => exact hmode
  | main => exact ⟨inner, hmain⟩

theorem news_handed_on_enabled :
    (run (step true) start (register ++ .packet enabledPacket :: handOn)).seen = some ⟨0x21⟩ ∧
      (run (step true) start (begun ++ .packet enabledPacket :: overtaken)).seen = some {} := by
  have hclean :
      Quiet (run (step true) start (register ++ .packet enabledPacket :: handOn)) := by
    refine quiet_of_waits true (by decide +kernel) (by decide +kernel) (by decide +kernel)
      fun t => ?_
    cases t <;> decide +kernel
  have hrace :
      Quiet (run (step true) start (begun ++ .packet enabledPacket :: overtaken)) := by
    refine quiet_of_waits false (by decide +kernel) (by decide +kernel) (by decide +kernel)
      fun t => ?_
    cases t <;> decide +kernel
  have hregister : Registered (run (step true) start register) :=
    ⟨⟨eventHandle 0, by decide +kernel, by decide +kernel⟩,
      ⟨eventHandle 1, by decide +kernel, by decide +kernel⟩⟩
  have hbegun : Registered (run (step true) start begun) :=
    ⟨⟨eventHandle 0, by decide +kernel, by decide +kernel⟩,
      ⟨eventHandle 1, by decide +kernel, by decide +kernel⟩⟩
  constructor
  · obtain ⟨-, -, hseen, hword, -⟩ := news_handed_on true register handOn enabledPacket hregister
      (by decide +kernel) (by simp [handOn]) hclean
    rw [if_pos (by decide +kernel)] at hword
    rw [hseen, hword]
    decide
  · -- the refresh zeroes the word of the packet
    obtain ⟨-, -, hseen, hword, -⟩ := news_handed_on true begun overtaken enabledPacket hbegun
      (by decide +kernel) (by simp [overtaken]) hrace
    rw [if_neg (by decide +kernel)] at hword
    rw [hseen, hword]

end Kuavo.NewData
