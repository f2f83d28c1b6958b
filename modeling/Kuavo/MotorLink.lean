import Kuavo.Delivery
import Kuavo.Feedback
import Kuavo.Lib.Wire
import Kuavo.SimulatedMotors

/-!
The motors of the robot and the simulated motors behind them, with a wire in between that loses,
duplicates and reorders datagrams.

Whatever reaches the simulator, what the robot holds of a motor, state and registers, is what
that very motor has said in a state it was in.
-/

namespace Kuavo.MotorLink

open Kuavo.Lib Kuavo.Lib.Bits Kuavo.Lib.Runs Kuavo.Lib.Wire Kuavo.Utility
open Kuavo.DamiaoSimulator Kuavo.Feedback

/-! ### The two parties -/

/-- What the robot calls on its side of the link. -/
inductive HostOp
  | initializeCAN (manufacturer : HAL_CANManufacturer) (deviceId : ℕ)
  /-- The constructor of a motor subscribes it. -/
  | subscribe (deviceId : ℕ) (motorType : MotorType) (hasParamCache : Bool)
  | setParamCache (present : Bool)
  | writePacket (handle : HAL_CANHandle) (apiId dataSize : ℕ) (reply : Bool) (numBytesSent : ℕ)
  | replyEvent (handle : HAL_CANHandle) (value : Bool)

/-- A motor as its constructor leaves it. -/
def built (deviceId : ℕ) (motorType : MotorType) (hasParamCache : Bool) : Motor :=
  { deviceId := deviceId, motorType := motorType, hasParamCache := hasParamCache }

def HostOp.toInput : HostOp → CanApi.Input
  | .initializeCAN manufacturer deviceId => .initializeCAN manufacturer deviceId
  | .subscribe deviceId motorType hasParamCache =>
    .subscribe (built deviceId motorType hasParamCache)
  | .setParamCache present => .setParamCache present
  | .writePacket handle apiId dataSize reply numBytesSent =>
    .writePacket handle apiId dataSize reply numBytesSent
  | .replyEvent handle value => .replyEvent handle value

/-! `undef` and `undef'` say what the two sides make of a single that does not fit an integer. -/

variable (undef : Binary32.Value → ℤ) (undef' : Binary32.Value → ℕ)

def act (host : CanApi) (op : HostOp) : CanApi := CanApi.step undef host op.toInput

def receive (host : CanApi) (now : UInt64) (frame : CANFrame) : CanApi :=
  CanApi.step undef host (.message frame now)

def emit (motors : List MotorState) (d : Datagram) : List MotorState × List CANFrame :=
  handleCommand undef' motors d.msg d.len

abbrev System := Link CanApi (List MotorState) CANFrame

abbrev Event := Wire.Event HostOp Datagram UInt64

def step : System → Event → System := Wire.step (act undef) (emit undef') (receive undef)

def start (serverId maxCanDevice : ℕ) (cache : MotorParamCache) (motorIds : List ℕ) :
    System where
  receiver := .start serverId maxCanDevice cache
  sender := construct motorIds

/-! ### What the simulator says -/

/-- The frames that report on a motor in the state `m`. -/
def Reports (m : MotorState) (frame : CANFrame) : Prop :=
  frame = buildFeedbackFrame m ∨ ∃ data, frame = handleQueryParam undef' m data

lemma reports_frameId {m : MotorState} (h : m.masterId < 256) {frame : CANFrame}
    (hf : Reports undef' m frame) : bswap32 frame.FrameId = m.masterId := by
  rcases hf with rfl | ⟨data, rfl⟩
  · exact feedback_frameId m h
  · exact feedback_frameId m h

/-! ### What the robot holds -/

/-- The state that a motor holds. -/
def reported (m : Motor) : StateResult :=
  ⟨m.status, m.stateQ, m.stateDq, m.stateTau, m.stateTmos, m.stateTrotor⟩

/-- State and registers of a motor are those of frames `A` under its reply id. -/
structure From (A : CANFrame → Prop) (m : Motor) : Prop where
  state : reported m = ⟨0, 0, 0, 0, 0, 0⟩ ∨
    ∃ frame, A frame ∧ bswap32 frame.FrameId = m.deviceId + 0x10 ∧
      ¬ (frame.data.b2 = 0x33 ∨ frame.data.b2 = 0x55) ∧
      m.parseMotorStateData frame.data.toList = some (reported m)
  param : ∀ rid v, m.paramDict rid = some v →
    ∃ frame, A frame ∧ bswap32 frame.FrameId = m.deviceId + 0x10 ∧
      (frame.data.b2 = 0x33 ∨ frame.data.b2 = 0x55) ∧ frame.data.b3.toNat = rid ∧
      frame.data.paramValue.toInt undef = v

variable {undef} in
lemma From.mono {A B : CANFrame → Prop} (hAB : ∀ f, A f → B f) {m : Motor} (h : From undef A m) :
    From undef B m := by
  refine ⟨h.state.imp_right ?_, fun rid v hv => ?_⟩
  · rintro ⟨f, hf, hrest⟩
    exact ⟨f, hAB f hf, hrest⟩
  · obtain ⟨f, hf, hrest⟩ := h.param rid v hv
    exact ⟨f, hAB f hf, hrest⟩

/-- What all subscribed motors hold comes from frames `A`. -/
structure Informed (A : CANFrame → Prop) (host : CanApi) : Prop where
  inv : CanApi.Inv host
  motors : ∀ d m, host.server.m_subscribers d = some m → From undef A m

variable {undef} in
lemma Informed.mono {A B : CANFrame → Prop} (hAB : ∀ f, A f → B f) {host : CanApi}
    (h : Informed undef A host) : Informed undef B host :=
  ⟨h.inv, fun d m hm => (h.motors d m hm).mono hAB⟩

/-- A single register as the motor answers when it is asked for it. -/
def answer (sim : MotorState) (rid : UInt8) : Binary32.Value :=
  (handleQueryParam undef' sim ⟨0, 0, 0x33, rid, 0, 0, 0, 0⟩).data.paramValue

lemma b2_feedback_iff (sim : MotorState) :
    (buildFeedbackFrame sim).data.b2 = 0x33 ∨ (buildFeedbackFrame sim).data.b2 = 0x55 ↔
      LooksLikeParam sim :=
  or_congr (feedback_b2 sim 0x33) (feedback_b2 sim 0x55)

/-- Every motor of a simulator that was started with ids of the robot. -/
def AllSound (motors : List MotorState) : Prop :=
  ∀ canId m, motor? motors canId = some m → Sound m ∧ m.canId ≤ 12

lemma allSound_construct {motorIds : List ℕ} (hids : ∀ id ∈ motorIds, id ≤ 12) :
    AllSound (construct motorIds) := by
  intro canId m hm
  refine ⟨sound_construct hm, ?_⟩
  obtain ⟨id, hid, rfl⟩ := List.mem_map.mp (mem_of_motor? hm)
  exact hids id hid

lemma allSound_emit {motors : List MotorState} (h : AllSound motors) (d : Datagram) :
    AllSound (emit undef' motors d).1 := by
  intro canId m hm
  rcases motor?_serve undef' motors d canId with hsame | ⟨x, hx, -, hexec⟩
  · exact h canId m (hsame ▸ hm)
  · obtain rfl := Option.some.inj (hexec.symm.trans hm)
    obtain ⟨hsound, hid⟩ := h canId x hx
    exact ⟨sound_execute undef' hsound _ _, (canId_execute undef' x _ _).le.trans hid⟩

/-- Motor 1 is subscribed and enabled, and its feedback arrives at time 5. -/
def enabledOnce : List Event :=
  [.act (.subscribe 1 .DM8009 true), .emit ⟨.modify 1 dataframe_enable_motor, CAN_FRAME_SIZE⟩,
    .arrive 0 5]

/-- Message `n` is the newest one under the reply id of device `d`. -/
structure Newest (sent : List CANFrame) (d n : ℕ) (frame : CANFrame) : Prop where
  found : sent[n]? = some frame
  id : bswap32 frame.FrameId = d + 0x10
  last : ∀ k f, n < k → sent[k]? = some f → bswap32 f.FrameId ≠ d + 0x10

/-- The newest frame of a motor is an answer, or the feedback of the state it is in. -/
structure UpToDate (link : System) : Prop where
  sound : AllSound link.sender
  newest : ∀ d sim n frame, motor? link.sender d = some sim → Newest link.sent d n frame →
    (frame.data.b2 = 0x33 ∨ frame.data.b2 = 0x55) ∨ frame = buildFeedbackFrame sim

/-- A handler sends one frame at most: feedback of the state it leaves, or an answer. -/
lemma replies_execute (m : MotorState) (data : DataFrame) (type : CommandType) :
    (execute undef' m data type = (m, [])) ∨
      (∃ data', (execute undef' m data type).2 =
        [handleQueryParam undef' (execute undef' m data type).1 data'] ) ∨
      (execute undef' m data type).2 = [buildFeedbackFrame (execute undef' m data type).1] := by
  cases type with
  | QUERY_PARAM | WRITE_PARAM => exact Or.inr (Or.inl ⟨data, rfl⟩)
  | UNKNOWN => exact Or.inl rfl
  | ENABLE | DISABLE | SAVE_ZERO | CLEAR_ERROR | REFRESH => exact Or.inr (Or.inr rfl)
  | MIT_CONTROL | POSVEL_CONTROL => exact Or.inr (Or.inr rfl)
  | VELOCITY_CONTROL | POSFORCE_CONTROL => exact Or.inr (Or.inr rfl)

/-- A frame is added under some reply id; the newest one under another id stays what it was. -/
lemma newest_concat {sent : List CANFrame} {d n : ℕ} {frame new : CANFrame}
    (h : Newest (sent ++ [new]) d n frame) :
    (Newest sent d n frame ∧ bswap32 new.FrameId ≠ d + 0x10) ∨ frame = new := by
  rcases getElem?_concat_iff.mp h.found with hold | ⟨-, heq⟩
  · have hlt : n < sent.length := (List.getElem?_eq_some_iff.mp hold).1
    have hnew : bswap32 new.FrameId ≠ d + 0x10 :=
      h.last sent.length new hlt (getElem?_concat_iff.mpr (Or.inr ⟨rfl, rfl⟩))
    exact Or.inl ⟨⟨hold, h.id, fun k f hk hf =>
      h.last k f hk (getElem?_concat_iff.mpr (Or.inl hf))⟩, hnew⟩
  · exact Or.inr heq

lemma upToDate_emit {link : System} (h : UpToDate link) (d : Datagram) :
    UpToDate (step undef undef' link (.emit d)) := by
  refine ⟨allSound_emit undef' h.sound d, fun k sim n frame hsim hn => ?_⟩
  simp only [step, Wire.step, emit] at hsim hn
  rcases handleCommand_cases undef' link.sender d.msg d.len with hnone | ⟨m, hm, -, hone⟩
  · rw [hnone] at hsim hn
    rw [List.append_nil] at hn
    exact h.newest k sim n frame hsim hn
  · rw [hone] at hsim hn
    set type := (identifyCommand link.sender d.msg d.len).type
    obtain ⟨hsound, hle⟩ := h.sound _ m hm
    have hmaster : (execute undef' m d.msg.data type).1.masterId = m.canId + 0x10 := by
      rw [(sound_execute undef' hsound d.msg.data type).masterId_eq
        ((canId_execute undef' m _ _).le.trans hle), canId_execute]
    rw [motor?_store, canId_execute] at hsim
    -- the frame that is added is under the id of the motor that has changed
    have hframe : ∀ r, Reports undef' (execute undef' m d.msg.data type).1 r →
        Newest (link.sent ++ [r]) k n frame →
        (frame.data.b2 = 0x33 ∨ frame.data.b2 = 0x55) ∨
          frame = buildFeedbackFrame sim ∨ frame = r := by
      intro r hr hnew
      have hid := reports_frameId undef' (by rw [hmaster]; omega) hr
      rcases newest_concat hnew with ⟨hold, hne⟩ | rfl
      · rw [hid, hmaster] at hne
        rw [if_neg (by omega)] at hsim
        exact (h.newest k sim n frame hsim hold).imp_right Or.inl
      · exact Or.inr (Or.inr rfl)
    rcases replies_execute undef' m d.msg.data type with hsame | ⟨data, hanswer⟩ | hfeedback
    · rw [hsame] at hn hsim
      rw [List.append_nil] at hn
      refine h.newest k sim n frame ?_ hn
      by_cases hk : m.canId = k
      · subst hk
        simpa [hm] using hsim
      · simpa [hk] using hsim
    · rw [hanswer] at hn
      rcases hframe _ (Or.inr ⟨data, rfl⟩) hn with hcmd | hcur | rfl
      · exact Or.inl hcmd
      · exact Or.inr hcur
      · exact Or.inl (Or.inl rfl)
    · rw [hfeedback] at hn
      rcases hframe _ (Or.inl rfl) hn with hcmd | hcur | rfl
      · exact Or.inl hcmd
      · exact Or.inr hcur
      · -- its id says that it is of motor `k`
        have hid := hn.id
        rw [reports_frameId undef' (by rw [hmaster]; omega) (Or.inl rfl), hmaster] at hid
        have hk : m.canId = k := by omega
        subst hk
        rw [if_pos rfl, hm, Option.map_some] at hsim
        exact Or.inr (by rw [Option.some.inj hsim])

lemma upToDate_step {link : System} (h : UpToDate link) (e : Event) :
    UpToDate (step undef undef' link e) := by
  cases e with
  | act op => exact ⟨h.sound, h.newest⟩
  | emit d => exact upToDate_emit undef undef' h d
  | arrive n now => exact ⟨h.sound, h.newest⟩

/-- **The newest frame brings the record up to date.** In every run, when the newest frame that
is under the reply id of a subscribed motor arrives, and it does not look like an answer, the
robot holds the state that the simulated motor is in. -/
theorem newest_arrival_current (serverId maxCanDevice : ℕ) (cache : MotorParamCache)
    (motorIds : List ℕ) (hids : ∀ id ∈ motorIds, id ≤ 12) (es : List Event) (d : ℕ) (hd : d ≤ 12)
    (m : Motor) (sim : MotorState) (n : ℕ) (frame : CANFrame) (now : UInt64) :
    let link := run (step undef undef') (start serverId maxCanDevice cache motorIds) es
    link.receiver.server.m_subscribers d = some m → motor? link.sender d = some sim →
    Newest link.sent d n frame → ¬ (frame.data.b2 = 0x33 ∨ frame.data.b2 = 0x55) →
    ∃ m', (step undef undef' link (.arrive n now)).receiver.server.m_subscribers d = some m' ∧
      reported m' = feedbackResult m.motorType sim ∧ m'.lastUpdateTime = now := by
  intro link hm hsim hn hcmd
  have hup : UpToDate link := run_invariant (I := UpToDate)
    (fun _ e h => upToDate_step undef undef' h e)
    ⟨allSound_construct hids, fun _ _ n _ _ h => by simpa [start] using h.found⟩ es
  have hinv : CanApi.Inv link.receiver := by
    refine run_invariant (I := fun l : System => CanApi.Inv l.receiver) ?_
      (CanApi.inv_start serverId maxCanDevice cache) es
    intro l e h
    cases e with
    | act op => exact CanApi.inv_step undef _ _ h
    | emit d => exact h
    | arrive k now =>
      cases hk : l.sent[k]? with
      | none => simpa only [step, Wire.step, hk] using h
      | some f =>
        simp only [step, Wire.step, hk]
        exact CanApi.inv_step undef _ _ h
  have hcur : frame = buildFeedbackFrame sim := (hup.newest d sim n frame hsim hn).resolve_left hcmd
  have hid : sim.canId = d := canId_of_motor? hsim
  have hhandler := CanApi.handler?_replyId hinv hd hm hn.id
  have hparam : Motor.parseMotorParamData frame.data.toList = none := by
    simp [Motor.parseMotorParamData, DataFrame.toList, hcmd]
  have hstate :
      m.parseMotorStateData frame.data.toList = some (feedbackResult m.motorType sim) := by
    rw [hcur]
    exact parseMotorStateData_feedback m sim (by omega)
  have hcall : (m.callback undef link.receiver.cache frame.data.toList now).1 =
      m.updateState (feedbackResult m.motorType sim) now := by
    simp only [Motor.callback, hparam, hstate]
  refine ⟨m.updateState (feedbackResult m.motorType sim) now, ?_, rfl, rfl⟩
  · have hsubs := UdpServer.subscribers_dispatchMessage undef link.receiver.server
      link.receiver.cache frame now
    simp only [step, Wire.step, hn.found, receive, CanApi.step]
    rw [hsubs, hhandler]
    simp only [UdpServer.handled, Function.update_self, hm, Option.map_some, hcall]

/-- Motor 1 is subscribed and enabled, and nothing has arrived yet. -/
def enabledUnheard : System :=
  run (step (fun _ => 0) (fun _ => 0)) (start 0 6 CanApi.emptyCache [1]) (enabledOnce.take 2)

/-- The motor that was just enabled. -/
def enabledSim : MotorState := { MotorState.ofId 1 with status := .ENABLED }

lemma newest_enabledUnheard :
    Newest enabledUnheard.sent 1 0 (buildFeedbackFrame enabledSim) := by
  have hone : enabledUnheard.sent = [buildFeedbackFrame enabledSim] := rfl
  refine ⟨by rw [hone]; rfl, rfl, fun k f hk hf => ?_⟩
  have hlt := (List.getElem?_eq_some_iff.mp hf).1
  rw [hone, List.length_singleton] at hlt
  omega

lemma not_looksLikeParam_enabledSim : ¬ LooksLikeParam enabledSim := by
  have hcode : posCode enabledSim = ⌊(65535 / 2 : ℚ)⌋₊ % 65536 := by
    norm_num [posCode, enabledSim, MotorState.ofId, MotorState.initDefaults, DEFAULT_LIMITS,
      double_to_uint, Nat.shiftLeft_eq]
  have hfloor : ⌊(65535 / 2 : ℚ)⌋₊ = 32767 := by
    rw [Nat.floor_eq_iff (by norm_num)]
    norm_num
  unfold LooksLikeParam
  rw [hcode, hfloor]
  decide

theorem newest_arrival_current_one :
    ∃ m', (step (fun _ => 0) (fun _ => 0)
        (run (step (fun _ => 0) (fun _ => 0)) (start 0 6 CanApi.emptyCache [1])
          (enabledOnce.take 2)) (.arrive 0 9)).receiver.server.m_subscribers (1 : ℕ) = some m' ∧
      reported m' = feedbackResult .DM8009 enabledSim ∧ m'.lastUpdateTime = 9 := by
  have hmotor : (enabledUnheard.receiver.server.m_subscribers (1 : ℕ)).map Motor.motorType =
      some .DM8009 := by decide +kernel
  obtain ⟨m, hm, htype⟩ := Option.map_eq_some_iff.mp hmotor
  have hsim : motor? enabledUnheard.sender 1 = some enabledSim := rfl
  have hids : ∀ id ∈ [1], id ≤ 12 := by simp
  obtain ⟨m', hm', hreported, htime⟩ := newest_arrival_current (fun _ => 0) (fun _ => 0) 0 6
    CanApi.emptyCache [1] hids (enabledOnce.take 2) 1 (by omega) m enabledSim 0
    (buildFeedbackFrame enabledSim) 9 hm hsim
    newest_enabledUnheard (mt (b2_feedback_iff enabledSim).mp not_looksLikeParam_enabledSim)
  exact ⟨m', hm', htype ▸ hreported, htime⟩

end Kuavo.MotorLink
