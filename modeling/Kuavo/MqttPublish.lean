import Kuavo.Lib.BoundedQueue

/-!
`lib/mqtt/MqttClient.cpp`: messages between the threads that publish them and the thread that
hands them to the connection.

A publisher puts a message in the queue under the mutex; the service thread takes one from it
under the mutex, when a connection is writeable, and hands it on after that. Publishers come in
between. Handing on reports a failure by its result.
-/

namespace Kuavo.MqttPublish

open Kuavo.Lib Kuavo.Lib.Runs Kuavo.Lib.BoundedQueue

structure BinaryMessage where
  topic : String
  payload : List UInt8
  qos : ℤ
  retain : Bool
  deriving DecidableEq

def TOPIC_STATUS : String := "robot/status"

def STATE_SUBSCRIBE : ℤ := 0
def STATE_PUBLISH_QOS0 : ℤ := 1

/-- What a connection keeps. -/
structure Pss where
  state : ℤ := 0
  pos : ℕ := 0
  retries : ℕ := 0

def m_highWater : ℕ := 1000
def m_lowWater : ℕ := 500

structure State where
  m_binaryMessages : List BinaryMessage := []
  m_highWaterWarning : Bool := false
  pss : ℕ → Pss := fun _ => {}
  /-- What a callback that is in progress has taken and not handed on yet. -/
  msg : Option BinaryMessage := none
  /-- What was handed on successfully, in order. -/
  sent : List BinaryMessage := []
  /-- The calls of `publish_binary` with what they return, and what was taken. -/
  published : List (BinaryMessage × Bool) := []
  taken : List (Option BinaryMessage) := []

namespace State

def publish_binary (s : State) (topic : Option String) (data : Option (List UInt8)) (qos : ℤ)
    (retain : Bool) : Bool × State :=
  match topic, data with
  | some topic, some data =>
    let msg : BinaryMessage := ⟨topic, data, qos, retain⟩
    if s.m_binaryMessages.length ≥ m_highWater then
      (false, { s with
        m_highWaterWarning := true
        published := s.published ++ [(msg, false)] })
    else
      (true, { s with
        m_highWaterWarning := if s.m_binaryMessages.length ≤ m_lowWater then false
          else s.m_highWaterWarning
        m_binaryMessages := s.m_binaryMessages ++ [msg]
        published := s.published ++ [(msg, true)] })
  | _, _ => (false, s)

def publishStatusOnline (s : State) : State :=
  (s.publish_binary (some TOPIC_STATUS) (some [1]) 1 true).2

def setPss (s : State) (wsi : ℕ) (p : Pss) : State :=
  { s with pss := fun w => if w = wsi then p else s.pss w }

/-- As far as the call that hands a message on. -/
def onClientWriteAble (s : State) (wsi : ℕ) : State :=
  let p := s.pss wsi
  if p.state = STATE_SUBSCRIBE then s.setPss wsi { p with state := STATE_PUBLISH_QOS0 }
  else if p.state = STATE_PUBLISH_QOS0 then
    match s.m_binaryMessages with
    | [] => { s with taken := s.taken ++ [none] }
    | front :: rest =>
      { s with
        m_binaryMessages := rest
        msg := some front
        taken := s.taken ++ [some front] }
  else s

/-- `lws_mqtt_client_send_publish`; a failure is only logged. -/
def sendPublish (s : State) (failed : Bool) : State :=
  match s.msg with
  | none => s
  | some msg => { s with msg := none, sent := if failed then s.sent else s.sent ++ [msg] }

/-- `LWS_CALLBACK_MQTT_RESEND` -/
def resend (s : State) (wsi : ℕ) : State :=
  let p := s.pss wsi
  let p := { p with retries := p.retries + 1 }
  if p.retries = 3 then s.setPss wsi p
  else s.setPss wsi { p with state := p.state - 1, pos := 0 }

/-- `LWS_CALLBACK_MQTT_CLIENT_ESTABLISHED`, on a connection that begins with zeros. -/
def established (s : State) (wsi : ℕ) : State := (s.setPss wsi {}).publishStatusOnline

end State

/-- The callbacks of the service thread. -/
inductive Callback
  | established (wsi : ℕ)
  | writeable (wsi : ℕ)
  | resend (wsi : ℕ)

inductive Event
  | publish (topic : Option String) (data : Option (List UInt8)) (qos : ℤ) (retain : Bool)
  | callback (c : Callback)
  | send (failed : Bool)

def State.callback (s : State) : Callback → State
  | .established wsi => s.established wsi
  | .writeable wsi => s.onClientWriteAble wsi
  | .resend wsi => s.resend wsi

/-- A callback comes when the one before has returned. -/
def step (s : State) : Event → State
  | .publish topic data qos retain => (s.publish_binary topic data qos retain).2
  | .callback c => if s.msg.isSome then s else s.callback c
  | .send failed => s.sendPublish failed

/-! ### The queue -/

/-- The queue and the history of its calls. -/
def State.queue (s : State) : Queue BinaryMessage := ⟨s.m_binaryMessages, s.published, s.taken⟩

lemma queue_publish_binary (s : State) (topic : Option String) (data : Option (List UInt8))
    (qos : ℤ) (retain : Bool) :
    Reachable (BoundedQueue.step m_highWater) s.queue
      (s.publish_binary topic data qos retain).2.queue := by
  cases topic with
  | none => exact .refl _ _
  | some topic =>
    cases data with
    | none => exact .refl _ _
    | some data =>
      refine ⟨[.push ⟨topic, data, qos, retain⟩], ?_⟩
      by_cases hfull : s.m_binaryMessages.length ≥ m_highWater
      · rw [run_cons, run_nil, step_push_full _ (not_lt.mpr hfull)]
        simp [State.publish_binary, State.queue, hfull]
      · rw [run_cons, run_nil, step_push_room _ (not_le.mp hfull)]
        simp [State.publish_binary, State.queue, hfull]

lemma queue_onClientWriteAble (s : State) (wsi : ℕ) :
    Reachable (BoundedQueue.step m_highWater) s.queue (s.onClientWriteAble wsi).queue := by
  unfold State.onClientWriteAble
  dsimp only
  split_ifs
  · exact .refl _ _
  · refine ⟨[.pop], ?_⟩
    cases hitems : s.m_binaryMessages with
    | nil =>
      rw [run_cons, run_nil, step_pop_nil (q := s.queue) hitems]
      simp [State.queue, hitems]
    | cons front rest =>
      rw [run_cons, run_nil, step_pop_cons (q := s.queue) hitems]
      rfl
  · exact .refl _ _

/-- The queue of the client is a bounded queue. -/
theorem queue_step (s : State) (e : Event) :
    Reachable (BoundedQueue.step m_highWater) s.queue (step s e).queue := by
  have hsetPss (wsi : ℕ) (p : Pss) : (s.setPss wsi p).queue = s.queue := rfl
  cases e with
  | publish topic data qos retain => exact queue_publish_binary s topic data qos retain
  | send failed =>
    change Reachable _ s.queue (s.sendPublish failed).queue
    unfold State.sendPublish
    split <;> exact .refl _ _
  | callback c =>
    change Reachable _ s.queue (if s.msg.isSome then s else s.callback c).queue
    split_ifs
    · exact .refl _ _
    · cases c with
      | established wsi => exact queue_publish_binary (s.setPss wsi {}) _ _ _ _
      | writeable wsi => exact queue_onClientWriteAble s wsi
      | resend wsi =>
        unfold State.callback State.resend
        dsimp only
        split_ifs <;> exact .refl _ _

/-! ### What is owed -/

/-- The messages accepted, in order: those for which `publish_binary` returned true. -/
def State.accepted (s : State) : List BinaryMessage := BoundedQueue.accepted s.published

/-- Between callbacks, what was accepted was sent or is queued; and the queue keeps below the
mark. -/
def Law (s : State) (e : Event) : Prop :=
  ((step s e).msg = none →
    (step s e).accepted = (step s e).sent ++ (step s e).m_binaryMessages) ∧
  (step s e).m_binaryMessages.length ≤ m_highWater

/-- Handing on a message succeeds. -/
def Succeeds (s : State) : Event → Prop
  | .send failed => s.msg.isSome = true → failed = false
  | _ => True

/-- The queue is in order, and what was taken from it was sent or is about to be. -/
structure Inv (s : State) : Prop where
  fifo : Fifo m_highWater s.queue
  handed : returned s.taken = s.sent ++ s.msg.toList

lemma inv_init : Inv {} := ⟨⟨rfl, Nat.zero_le _⟩, rfl⟩

lemma fifo_step {s : State} (h : Inv s) (e : Event) : Fifo m_highWater (step s e).queue :=
  (queue_step s e).invariant (I := Fifo m_highWater)
    (fun _ op hq => BoundedQueue.fifo_step hq op) h.fifo

/-- What concerns the message in progress is the service thread's own. -/
lemma handed_publish_binary {s : State} (h : returned s.taken = s.sent ++ s.msg.toList)
    (topic : Option String) (data : Option (List UInt8)) (qos : ℤ) (retain : Bool) :
    returned (s.publish_binary topic data qos retain).2.taken =
      (s.publish_binary topic data qos retain).2.sent ++
        (s.publish_binary topic data qos retain).2.msg.toList := by
  cases topic with
  | none => exact h
  | some topic =>
    cases data with
    | none => exact h
    | some data =>
      unfold State.publish_binary
      dsimp only
      split_ifs <;> exact h

lemma handed_onClientWriteAble {s : State} (h : returned s.taken = s.sent ++ s.msg.toList)
    (hidle : s.msg = none) (wsi : ℕ) :
    returned (s.onClientWriteAble wsi).taken =
      (s.onClientWriteAble wsi).sent ++ (s.onClientWriteAble wsi).msg.toList := by
  unfold State.onClientWriteAble
  dsimp only
  split_ifs
  · exact h
  · cases s.m_binaryMessages with
    | nil =>
      dsimp only
      rw [returned_concat, h, Option.toList_none, List.append_nil]
    | cons front rest =>
      dsimp only
      rw [returned_concat, h, hidle, Option.toList_none, List.append_nil]
  · exact h

lemma inv_step {s : State} (h : Inv s) (e : Event) (he : Succeeds s e) : Inv (step s e) := by
  refine ⟨fifo_step h e, ?_⟩
  cases e with
  | publish topic data qos retain => exact handed_publish_binary h.handed topic data qos retain
  | callback c =>
    unfold step
    dsimp only
    split_ifs with hbusy
    · exact h.handed
    · have hidle : s.msg = none := Option.not_isSome_iff_eq_none.mp hbusy
      cases c with
      | established wsi => exact handed_publish_binary (s := s.setPss wsi {}) h.handed _ _ _ _
      | writeable wsi => exact handed_onClientWriteAble h.handed hidle wsi
      | resend wsi =>
        unfold State.callback State.resend
        dsimp only
        split_ifs <;> exact h.handed
  | send failed =>
    change returned (s.sendPublish failed).taken = (s.sendPublish failed).sent ++
      (s.sendPublish failed).msg.toList
    unfold State.sendPublish
    cases hmsg : s.msg with
    | none =>
      dsimp only
      rw [h.handed]
    | some msg =>
      obtain rfl : failed = false := he (by rw [hmsg]; rfl)
      have hhanded := h.handed
      rw [hmsg] at hhanded
      simpa using hhanded

lemma law_iff {s : State} (h : Inv s) (e : Event) : Law s e ↔ Succeeds s e := by
  constructor
  · rintro ⟨hlaw, -⟩
    cases e with
    | publish topic data qos retain => trivial
    | callback c => trivial
    | send failed =>
      intro hsome
      obtain ⟨msg, hmsg⟩ := Option.isSome_iff_exists.mp hsome
      by_contra hfailed
      have hfailed' : failed = true := by simpa using hfailed
      have hdone : step s (.send failed) = { s with msg := none } := by
        change s.sendPublish failed = _
        rw [State.sendPublish, hmsg, hfailed']
        rfl
      rw [hdone] at hlaw
      -- the message is among those accepted, and nowhere else
      have hconserved : s.accepted = s.sent ++ s.m_binaryMessages := hlaw rfl
      have hfifo : s.accepted = returned s.taken ++ s.m_binaryMessages := h.fifo.accepted_eq
      rw [hfifo, h.handed, hmsg] at hconserved
      have hlength := congrArg List.length hconserved
      simp at hlength
  · intro he
    have hinv := inv_step h e he
    refine ⟨fun hidle => ?_, hinv.fifo.length_le⟩
    have hfifo : (step s e).accepted = returned (step s e).taken ++ (step s e).m_binaryMessages :=
      hinv.fifo.accepted_eq
    rw [hfifo, hinv.handed, hidle, Option.toList_none, List.append_nil]

/-- **Conservation.** However publishers and the service thread interleave, no accepted message
is lost or reordered exactly if no send fails. -/
theorem keepsAccepted_iff (l : List Event) : Each step Law {} l ↔ Each step Succeeds {} l :=
  each_congr (I := Inv) (fun _ e h hlaw => inv_step h e ((law_iff h e).mp hlaw))
    (fun _ e h => law_iff h e) inv_init l

/-- The first message is taken, and the send fails. -/
theorem send_fails :
    ¬ Each step Law {} [.publish (some TOPIC_STATUS) (some [0]) 1 true, .callback (.writeable 0),
      .callback (.writeable 0), .send true] := by
  rintro ⟨-, -, -, ⟨hlaw, -⟩, -⟩
  exact absurd (hlaw rfl) (by decide)

end Kuavo.MqttPublish
