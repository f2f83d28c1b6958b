import Kuavo.Lib.Runs

/-!
`lib/mqtt/MqttClient.cpp`: when the client tries to connect to the broker, and when again.

All handlers run on the thread that services the connections, one at a time; nothing shuts the
client down. An attempt that has been started ends with a callback, established or error; which
callbacks come, and in which order, is open. A call that cannot start an attempt may have made
the callback of the error or not. Times are in milliseconds, and no clock comes near
`time_point::max()`.
-/

namespace Kuavo.MqttConnection

open Kuavo.Lib.Runs

/-- The states of the system that matter here. -/
inductive Systate | OPERATIONAL | other
  deriving DecidableEq

structure State where
  m_context : Bool := false
  m_shutdown : Bool := false
  m_isConnected : Bool := false
  /-- `none` is `time_point::max()`. -/
  m_reconnectAt : Option ℕ := none
  m_reconnectDelay : ℕ := 1000
  m_reconnectPending : Bool := false
  /-- The attempts that were started and have not ended. -/
  inFlight : ℕ := 0
  /-- Whether the system has been operational. -/
  operational : Bool := false
  deriving DecidableEq

/-- What a call of `connect` comes to; a failure may have made the callback, at some time. -/
inductive Attempt
  | started
  | failed (errorAt : Option ℕ)
  deriving DecidableEq

namespace State

def nextDelay (m_reconnectDelay : ℕ) : ℕ :=
  if m_reconnectDelay < 30000 / 2 then m_reconnectDelay * 2 else 30000

def scheduleReconnect (s : State) (now : ℕ) : State :=
  if s.m_shutdown then s
  else { s with
    m_reconnectPending := false
    m_reconnectAt := some (now + s.m_reconnectDelay)
    m_reconnectDelay := nextDelay s.m_reconnectDelay }

/-- `LWS_CALLBACK_CLIENT_CONNECTION_ERROR` -/
def connectionError (s : State) (now : ℕ) : State :=
  { s with m_isConnected := false }.scheduleReconnect now

/-- `LWS_CALLBACK_MQTT_CLIENT_CLOSED` -/
def clientClosed (s : State) (now : ℕ) : State :=
  { s with m_isConnected := false }.scheduleReconnect now

/-- `LWS_CALLBACK_MQTT_CLIENT_ESTABLISHED` -/
def clientEstablished (s : State) : State :=
  { s with
    m_isConnected := true
    m_reconnectPending := false
    m_reconnectDelay := 1000
    m_reconnectAt := none }

/-- The result is 0 if an attempt was started. -/
def connect (s : State) : Attempt → ℕ × State
  | .started => (0, { s with inFlight := s.inFlight + 1 })
  | .failed none => (1, s)
  | .failed (some now) => (1, s.connectionError now)

def reconnect (s : State) (attempt : Attempt) (now : ℕ) : State :=
  if !s.m_context || s.m_reconnectPending || s.m_shutdown then s
  else
    let (ret, s) := { s with m_reconnectPending := true }.connect attempt
    if ret ≠ 0 then
      { s with
        m_reconnectPending := false
        m_reconnectAt := some (now + s.m_reconnectDelay)
        m_reconnectDelay := nextDelay s.m_reconnectDelay }
    else s

/-- What follows `lws_service` in a turn of the loop of `run`. -/
def turn (s : State) (clock : ℕ) (attempt : Attempt) (now : ℕ) : State :=
  match s.m_reconnectAt with
  | none => s
  | some reconnectAt =>
    if !s.m_shutdown && !s.m_isConnected && !s.m_reconnectPending && reconnectAt ≤ clock then
      s.reconnect attempt now
    else s

/-- The result of `connect` is only logged. -/
def notifyCallback (s : State) (current target : Systate) (attempt : Attempt) : State :=
  let s := { s with m_context := true }
  if current ≠ .OPERATIONAL ∨ target ≠ .OPERATIONAL then s
  else ({ s with operational := true }.connect attempt).2

end State

inductive Event
  | notify (current target : Systate) (attempt : Attempt)
  | turn (clock : ℕ) (attempt : Attempt) (now : ℕ)
  | established
  | error (now : ℕ)
  | closed (now : ℕ)
  deriving DecidableEq

def step (s : State) : Event → State
  | .notify current target attempt => s.notifyCallback current target attempt
  | .turn clock attempt now => s.turn clock attempt now
  | .established => { s with inFlight := s.inFlight - 1 }.clientEstablished
  | .error now => { s with inFlight := s.inFlight - 1 }.connectionError now
  | .closed now => s.clientClosed now

/-! ### What is owed -/

def DelayInRange (s : State) : Prop := 1000 ≤ s.m_reconnectDelay ∧ s.m_reconnectDelay ≤ 30000

/-- The client is connected, about to be, or has a retry scheduled. -/
def Trying (s : State) : Prop :=
  s.m_isConnected = false → s.inFlight = 0 →
    s.m_reconnectPending = false ∧ s.m_reconnectAt ≠ none

/-- From when the system is operational, the client does not give up. -/
def Law (s : State) (e : Event) : Prop :=
  DelayInRange (step s e) ∧ ((step s e).operational = true → Trying (step s e))

/-- When the system becomes operational, an attempt is started or its error reported by the
callback, unless the client has got one or is connected already. -/
def Told (s : State) : Event → Prop
  | .notify .OPERATIONAL .OPERATIONAL (.failed none) =>
    s.m_isConnected = true ∨ 0 < s.inFlight ∨ s.m_reconnectAt ≠ none
  | _ => True

/-- What holds at any time, whatever happens. -/
structure Sound (s : State) : Prop where
  running : s.m_shutdown = false
  delay : DelayInRange s
  pending : s.m_reconnectPending = true → 0 < s.inFlight

structure Inv (s : State) : Prop extends Sound s where
  trying : s.operational = true → Trying s

lemma inv_init : Inv {} where
  running := rfl
  delay := by unfold DelayInRange; decide
  pending := nofun
  trying := nofun

/-! ### One event -/

lemma nextDelay_inRange {d : ℕ} (h : 1000 ≤ d ∧ d ≤ 30000) :
    1000 ≤ State.nextDelay d ∧ State.nextDelay d ≤ 30000 := by
  unfold State.nextDelay
  split_ifs <;> omega

/-- A retry is scheduled. -/
lemma inv_scheduleReconnect {s : State} (hrun : s.m_shutdown = false) (hdelay : DelayInRange s)
    (now : ℕ) : Inv (s.scheduleReconnect now) := by
  have hno : ¬ s.m_shutdown = true := by simp [hrun]
  rw [State.scheduleReconnect, if_neg hno]
  exact { running := hrun
          delay := nextDelay_inRange hdelay
          pending := nofun
          trying := fun _ _ _ => ⟨rfl, nofun⟩ }

/-- An attempt that fails in `reconnect` is tried again. -/
lemma inv_retry {s : State} (hrun : s.m_shutdown = false) (hdelay : DelayInRange s) (now : ℕ) :
    Inv { s with
      m_reconnectPending := false
      m_reconnectAt := some (now + s.m_reconnectDelay)
      m_reconnectDelay := State.nextDelay s.m_reconnectDelay } where
  running := hrun
  delay := nextDelay_inRange hdelay
  pending := nofun
  trying := fun _ _ _ => ⟨rfl, nofun⟩

/-- A started attempt is in flight. -/
lemma inv_started {s : State} (hrun : s.m_shutdown = false) (hdelay : DelayInRange s) :
    Inv { s with inFlight := s.inFlight + 1 } where
  running := hrun
  delay := hdelay
  pending := fun _ => Nat.succ_pos _
  trying := fun _ _ h => absurd h (Nat.succ_ne_zero _)

lemma inv_reconnect {s : State} (h : Inv s) (attempt : Attempt) (now : ℕ) :
    Inv (s.reconnect attempt now) := by
  unfold State.reconnect
  split_ifs with hguard
  · exact h
  · cases attempt with
    | started => exact inv_started h.running h.delay
    | failed errorAt =>
      cases errorAt with
      | none => exact inv_retry h.running h.delay now
      | some errorNow =>
        have herror := inv_scheduleReconnect (s := { s with
          m_reconnectPending := true
          m_isConnected := false }) h.running h.delay errorNow
        exact inv_retry herror.running herror.delay now

lemma inv_turn {s : State} (h : Inv s) (clock : ℕ) (attempt : Attempt) (now : ℕ) :
    Inv (s.turn clock attempt now) := by
  unfold State.turn
  cases s.m_reconnectAt with
  | none => exact h
  | some reconnectAt =>
    dsimp only
    split_ifs
    · exact inv_reconnect h attempt now
    · exact h

lemma inv_clientEstablished {s : State} (hrun : s.m_shutdown = false) :
    Inv s.clientEstablished where
  running := hrun
  delay := show 1000 ≤ 1000 ∧ 1000 ≤ 30000 by decide
  pending := nofun
  trying := nofun

/-- After a notification the client tries, unless the attempt could not be started and that was
not reported. -/
lemma notify_spec {s : State} (h : Inv s) (current target : Systate) (attempt : Attempt) :
    Sound (s.notifyCallback current target attempt) ∧
      (((s.notifyCallback current target attempt).operational = true →
        Trying (s.notifyCallback current target attempt)) ↔
          Told s (.notify current target attempt)) := by
  have hfirst : Sound { s with m_context := true } := ⟨h.running, h.delay, h.pending⟩
  cases current with
  | other => exact ⟨hfirst, fun _ => trivial, fun _ => h.trying⟩
  | OPERATIONAL =>
    cases target with
    | other => exact ⟨hfirst, fun _ => trivial, fun _ => h.trying⟩
    | OPERATIONAL =>
      cases attempt with
      | started =>
        have hstarted : Inv (s.notifyCallback .OPERATIONAL .OPERATIONAL .started) :=
          inv_started (s := { s with m_context := true, operational := true }) h.running h.delay
        exact ⟨hstarted.toSound, fun _ => trivial, fun _ => hstarted.trying⟩
      | failed errorAt =>
        cases errorAt with
        | some now =>
          have herror : Inv (s.notifyCallback .OPERATIONAL .OPERATIONAL (.failed (some now))) :=
            inv_scheduleReconnect (s := { s with
              m_context := true
              operational := true
              m_isConnected := false }) h.running h.delay now
          exact ⟨herror.toSound, fun _ => trivial, fun _ => herror.trying⟩
        | none =>
          refine ⟨⟨h.running, h.delay, h.pending⟩, ?_⟩
          change (true = true → Trying _) ↔ _
          have hpending : s.inFlight = 0 → s.m_reconnectPending = false := by
            intro h0
            rw [← Bool.not_eq_true]
            intro hp
            have := h.pending hp
            omega
          constructor
          · intro htrying
            by_cases hconn : s.m_isConnected = true
            · exact Or.inl hconn
            · rcases Nat.eq_zero_or_pos s.inFlight with h0 | h0
              · exact Or.inr (Or.inr (htrying rfl (Bool.eq_false_iff.mpr hconn) h0).2)
              · exact Or.inr (Or.inl h0)
          · rintro (hconn | h0 | hat) - hno hzero
            · exact absurd (hconn.symm.trans hno) nofun
            · exact absurd (hzero : s.inFlight = 0) (Nat.ne_of_gt h0)
            · exact ⟨hpending hzero, hat⟩

/-- Every event but a notification keeps the client trying. -/
lemma inv_step {s : State} (h : Inv s) (e : Event)
    (he : ∀ current target attempt, e ≠ .notify current target attempt) : Inv (step s e) := by
  cases e with
  | notify current target attempt => exact absurd rfl (he current target attempt)
  | turn clock attempt now => exact inv_turn h clock attempt now
  | established =>
    exact inv_clientEstablished (s := { s with inFlight := s.inFlight - 1 }) h.running
  | error now =>
    exact inv_scheduleReconnect (s := { s with
      inFlight := s.inFlight - 1
      m_isConnected := false }) h.running h.delay now
  | closed now =>
    exact inv_scheduleReconnect (s := { s with m_isConnected := false }) h.running h.delay now

lemma law_iff {s : State} (h : Inv s) (e : Event) : Law s e ↔ Told s e := by
  by_cases he : ∃ current target attempt, e = .notify current target attempt
  · obtain ⟨current, target, attempt, rfl⟩ := he
    obtain ⟨hsound, htrying⟩ := notify_spec h current target attempt
    rw [← htrying]
    exact ⟨fun hlaw => hlaw.2, fun ht => ⟨hsound.delay, ht⟩⟩
  · have hinv := inv_step h e fun c t a hn => he ⟨c, t, a, hn⟩
    refine ⟨fun _ => ?_, fun _ => ⟨hinv.delay, hinv.trying⟩⟩
    cases e with
    | notify current target attempt => exact absurd ⟨current, target, attempt, rfl⟩ he
    | _ => trivial

lemma inv_of_law (s : State) (e : Event) (h : Inv s) (hlaw : Law s e) : Inv (step s e) := by
  by_cases he : ∃ current target attempt, e = .notify current target attempt
  · obtain ⟨current, target, attempt, rfl⟩ := he
    exact ⟨(notify_spec h current target attempt).1, hlaw.2⟩
  · exact inv_step h e fun c t a hn => he ⟨c, t, a, hn⟩

/-- **Retries.** From when the system is operational the client is connected, about to be or has
a retry scheduled, exactly if at every notification an attempt was started or its failure
reported, or was not needed. -/
theorem retries_iff (l : List Event) : Each step Law {} l ↔ Each step Told {} l :=
  each_congr inv_of_law (fun _ e h => law_iff h e) inv_init l

/-- No attempt can be started when the system becomes operational, and no callback says so. -/
theorem notify_unreported :
    ¬ Each step Law {} [.notify .OPERATIONAL .OPERATIONAL (.failed none)] := by
  rintro ⟨⟨-, htrying⟩, -⟩
  exact (htrying rfl rfl rfl).2 rfl

/-- A client without a schedule stays so: no turn of the loop starts an attempt. -/
theorem turns_of_unscheduled {s : State} (h : s.m_reconnectAt = none) (l : List (ℕ × Attempt × ℕ)) :
    run step s (l.map fun t => .turn t.1 t.2.1 t.2.2) = s := by
  induction l with
  | nil => rfl
  | cons t l ih =>
    rw [List.map_cons, run_cons]
    have hturn : step s (.turn t.1 t.2.1 t.2.2) = s := by
      rw [step, State.turn, h]
    rw [hturn, ih]

end Kuavo.MqttConnection
