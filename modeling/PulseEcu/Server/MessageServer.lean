import PulseEcu.Server.InFlight
import PulseEcu.Server.RequestDelivery
import PulseEcu.Transport.Transmitter

open Foundation

namespace Uds

open Transport

/-- The server without its transport: whole requests come in, whole responses go out. -/
structure MessageServer (σ : Type) where
  session : UdsSession
  services : List (IService σ)
  onTimeout : Option (σ → σ)
  reqBuf : Region Byte
  respBuf : Region Byte
  state : σ

namespace MessageServer

variable {σ : Type}

def poll (tick : Word) (m : MessageServer σ) : MessageServer σ :=
  let updated := m.session.update tick
  { m with
    session := updated.1
    state := if updated.2 then (m.onTimeout.getD id) m.state else m.state }

def respond (m : MessageServer σ) (len : Nat) : MessageServer σ × List Byte :=
  let sid : ServiceId := m.reqBuf 0
  match m.services.find? fun service => service.serviceId = sid with
  | none => (m, [ServiceId.negativeResponse, sid, NrcCode.serviceNotSupported.toByte])
  | some svc =>
    let handled := svc.handle m.reqBuf len m.respBuf maxPayload m.session m.state
    ({ m with respBuf := handled.1.resp, session := handled.2, state := handled.1.state }, handled.1.message)

def serve (tick : Word) (request : List Byte) (m : MessageServer σ) : MessageServer σ × List Byte :=
  let arrived := { m with reqBuf := m.reqBuf.store 0 request, session := m.session.keepAlive tick }
  let responded := arrived.respond request.length
  (responded.1.poll tick, responded.2)

end MessageServer

/-- The message server between a receiver and a transmitter of messages. -/
structure MessageEcu (σ : Type) where
  receiver : Receiver
  transmitter : Transmitter
  server : MessageServer σ

def Transport.Output.frames : Output → List CanFrame
  | .result _ sent => sent
  | _ => []

namespace MessageEcu

variable {σ : Type}

def frame (cfg : IsoTpConfig) (can : ICanInterface) (a : MessageEcu σ) (frame : CanFrame) :
    MessageEcu σ × List CanFrame :=
  match readPdu cfg frame with
  | some (.flowControl status blockSize _) =>
    let told := a.transmitter.flowControl cfg can status blockSize
    ({ a with transmitter := told.1 }, told.2.frames)
  | pdu =>
    let heard := a.receiver.accept (grantFrame cfg) (can.getTickMs + cfg.nCrMs) pdu
    ({ a with receiver := heard.1 }, heard.2.frames)

def process (cfg : IsoTpConfig) (can : ICanInterface) (tick : Word) (a : MessageEcu σ) :
    MessageEcu σ × List CanFrame :=
  match a.receiver with
  | .holding request =>
    let served := a.server.serve tick request
    let told := if served.2 = [] then (a.transmitter, .none) else a.transmitter.send cfg can (some served.2)
    (⟨.idle, told.1.update can.getTickMs, served.1⟩, told.2.frames)
  | r => (⟨r.update can.getTickMs, a.transmitter.update can.getTickMs, a.server.poll tick⟩, [])

theorem process_empty (cfg : IsoTpConfig) (can : ICanInterface) (tick : Word) (a : MessageEcu σ)
    (empty : ∀ request, a.receiver ≠ .holding request) : a.process cfg can tick =
      (⟨a.receiver.update can.getTickMs, a.transmitter.update can.getTickMs, a.server.poll tick⟩, []) := by
  unfold process
  split
  · rename_i request holding
    exact absurd holding (empty request)
  · rfl

end MessageEcu

def messageEcu (σ : Type) (cfg : IsoTpConfig) : Machine (MessageEcu σ) ServerEvent (List CanFrame) where
  step a
    | .frame can frame => a.frame cfg can frame
    | .process can tick => a.process cfg can tick

namespace UdsServer

variable {σ : Type}

def plain (s : UdsServer σ) : MessageServer σ := ⟨s.session, s.services, s.onTimeout, s.reqBuf, s.respBuf, s.state⟩

/-- The transport with its buffers carries what the message server's receiver and transmitter do. -/
structure Carries (cfg : IsoTpConfig) (s : UdsServer σ) (a : MessageEcu σ) : Prop where
  receives : Receives cfg s.transport a.receiver
  conveys : Conveys cfg s.transport a.transmitter
  flight : ∀ message k deadline, a.transmitter = .waiting message k deadline → InFlight s message k
  server : s.plain = a.server

end UdsServer

theorem MessageEcu.frame_other {σ : Type} {cfg : IsoTpConfig} {frame : CanFrame} (can : ICanInterface)
    (a : MessageEcu σ)
    (other : ∀ status bs st, readPdu cfg frame ≠ some (.flowControl status bs st)) : a.frame cfg can frame =
      ({ a with receiver := (a.receiver.accept (grantFrame cfg) (can.getTickMs + cfg.nCrMs) (readPdu cfg frame)).1 },
        (a.receiver.accept (grantFrame cfg) (can.getTickMs + cfg.nCrMs) (readPdu cfg frame)).2.frames) := by
  unfold MessageEcu.frame
  split
  · rename_i read
    exact absurd read (other _ _ _)
  · rfl

namespace UdsServer

variable {σ : Type} {cfg : IsoTpConfig} {s : UdsServer σ} {a : MessageEcu σ}

def frameEvent (s : UdsServer σ) (can : ICanInterface) (frame : CanFrame) : Event :=
  .frame can (s.memory (Region.fill 0)) frame

theorem Carries.keepsBuffer (carries : Carries cfg s a) (can : ICanInterface) (frame : CanFrame) :
    KeepsBuffer s.transport a.transmitter (s.frameEvent can frame) := by
  intro message k deadline waiting
  exact (carries.flight message k deadline waiting).sends.bytes

theorem InFlight.later {t : UdsServer σ} {message : List Byte} {before k : Nat} {deadline : Word}
    (flight : InFlight s message before) (waits : Waits t.transport message k deadline) (further : before ≤ k)
    (data : t.transport.txData = s.transport.txData) (buf : t.respBuf = s.respBuf) : InFlight t message k := by
  refine ⟨data.trans flight.data, waits.sends further ?_⟩
  have cells : t.transport.txBytes (t.memory (Region.fill 0)) = s.transport.txBytes (s.memory (Region.fill 0)) := by
    rw [IsoTp.txBytes, IsoTp.txBytes, data, flight.data]
    exact buf
  rw [cells]
  exact flight.sends.bytes

theorem Carries.frame (carries : Carries cfg s a) (can : ICanInterface) (frame : CanFrame) :
    Carries cfg (s.processFrame can frame).1 (a.frame cfg can frame).1 ∧
      (s.processFrame can frame).2.sent = (a.frame cfg can frame).2 := by
  have receiver := isoTp_simulates_receiver cfg
  have transmitter := isoTp_simulates_transmitter cfg
  have kept := carries.keepsBuffer can frame
  have data := IsoTp.processFrame_txData can (s.memory (Region.fill 0)) s.transport frame
  have flight : ∀ transmitted : Transmitter, transmitted.Of (s.processFrame can frame).1.transport →
      (∀ message k deadline, transmitted = .waiting message k deadline →
        ∃ before due, a.transmitter = .waiting message before due ∧ before ≤ k) →
      ∀ message k deadline, transmitted = .waiting message k deadline →
        InFlight (s.processFrame can frame).1 message k := by
    intro transmitted of goesOn message k deadline waiting
    obtain ⟨before, due, was, further⟩ := goesOn message k deadline waiting
    rw [waiting] at of
    exact (carries.flight message before due was).later of further data rfl
  by_cases control : ∃ status bs st, readPdu cfg frame = some (.flowControl status bs st)
  · obtain ⟨status, bs, st, read⟩ := control
    have nothing : heard cfg (s.frameEvent can frame) = none := by simp only [heard, frameEvent, read]
    have means : told cfg (s.frameEvent can frame) = some (.flowControl can status bs) := by
      simp only [told, frameEvent, read]
    have receives := receiver.rests carries.receives trivial nothing
    obtain ⟨conveys, shows⟩ := transmitter.acts carries.conveys kept means
    simp only [MessageEcu.frame, read]
    refine ⟨⟨receives, conveys, flight _ conveys.of ?_, carries.server⟩, congrArg Output.frames shows⟩
    exact fun message k deadline waiting => flowControl_goes_on waiting
  · have other : ∀ status bs st, readPdu cfg frame ≠ some (.flowControl status bs st) :=
      fun status bs st read => control ⟨status, bs, st, read⟩
    have means := heard_other can (s.memory (Region.fill 0)) other
    obtain ⟨receives, shows⟩ := receiver.acts carries.receives trivial means
    have conveys := transmitter.rests carries.conveys kept (told_other can (s.memory (Region.fill 0)) other)
    rw [MessageEcu.frame_other can a other]
    refine ⟨⟨receives, conveys, flight _ conveys.of ?_, carries.server⟩, congrArg Output.frames shows⟩
    exact fun message k deadline waiting => ⟨k, deadline, waiting, Nat.le_refl k⟩

theorem plain_fetch_silent (silent : s.transport.dataReady = false) : s.fetch = (0, s) := by
  rw [fetch, silent]
  rfl

/-- What a fetched request is, when the receiver holds one. -/
theorem fetch_holding {r : Receiver} (receives : Receives cfg s.transport r) {request : List Byte}
    (holding : r = .holding request) : s.fetch = (request.length,
        { s with transport := (s.transport.getData true maxPayload).2, reqBuf := s.reqBuf.store 0 request }) ∧
      0 < request.length := by
  obtain ⟨_, invariant, same⟩ := receives
  rw [holding] at same
  have ready : s.transport.dataReady = true := by
    cases ready : s.transport.dataReady with
    | true => rfl
    | false =>
      cases state : s.transport.rxState with
      | idle => cases (IsoTp.receiver_idle state ready).symm.trans same
      | receiving => cases (IsoTp.receiver_receiving state).symm.trans same
  obtain ⟨idle, positive, counted, bound⟩ := invariant.ready ready
  rw [IsoTp.receiver_ready idle ready] at same
  have bytes := (getData_receiver s.transport true maxPayload invariant).2
  rw [IsoTp.receiver_ready idle ready, same] at bytes
  have length : request.length = s.transport.rxReceived := by
    rw [← Receiver.holding.inj same, Region.load_length]
  have whole : request.take maxPayload = request := by
    apply List.take_of_length_le
    unfold maxPayload
    omega
  have got : (s.transport.getData true maxPayload).1 = request := by
    rw [Receiver.take, if_pos rfl, whole] at bytes
    exact Output.data.inj bytes
  refine ⟨?_, by omega⟩
  rw [fetch, if_pos ready]
  simp only [got]

theorem fetch_empty {r : Receiver} (receives : Receives cfg s.transport r) (empty : ∀ request, r ≠ .holding request) :
    s.fetch = (0, s) := by
  obtain ⟨_, invariant, same⟩ := receives
  apply plain_fetch_silent
  cases ready : s.transport.dataReady with
  | false => rfl
  | true =>
    rw [IsoTp.receiver_ready (invariant.ready ready).1 ready] at same
    exact absurd same.symm (empty _)

inductive Sent (can : ICanInterface) (before : IsoTp) (response : List Byte) (after : IsoTp) (sent : List CanFrame) :
    Prop where
  | silent (empty : response = []) (same : after = before) (none : sent = [])
  | spoken (mem : Memory) (pointer : Pointer) (some : response ≠ [])
      (bytes : (mem pointer).load 0 response.length = response)
      (state : after = (before.send can mem (.some pointer) response.length).state)
      (frames : sent = (before.send can mem (.some pointer) response.length).sent)

theorem handleRequest_plain (can : ICanInterface) {len : Nat} (arrived : 0 < len) :
    (s.handleRequest can len).1.plain = (s.plain.respond len).1 ∧
      Sent can s.transport (s.plain.respond len).2 (s.handleRequest can len).1.transport
        (s.handleRequest can len).2 := by
  have found : (s.plain.services.find? fun service => service.serviceId = s.plain.reqBuf 0) =
      s.findService (s.reqBuf 0) := rfl
  simp only [handleRequest, MessageServer.respond, if_neg (Nat.ne_of_gt arrived), found]
  cases s.findService (s.reqBuf 0) with
  | none =>
    refine ⟨rfl, .spoken _ nrcBufPtr (List.cons_ne_nil _ _) ?_ rfl rfl⟩
    exact Region.load_store (Region.fill 0) 0
      [ServiceId.negativeResponse, s.reqBuf 0, NrcCode.serviceNotSupported.toByte]
  | some svc =>
    have same : svc.handle s.plain.reqBuf len s.plain.respBuf maxPayload s.plain.session s.plain.state =
        svc.handle s.reqBuf len s.respBuf maxPayload s.session s.state := rfl
    dsimp only
    rw [same]
    generalize svc.handle s.reqBuf len s.respBuf maxPayload s.session s.state = handled
    by_cases sends : handled.1.send ∧ handled.1.respLen > 0
    · have message : handled.1.message = handled.1.resp.load 0 handled.1.respLen := by
        rw [Answer.message, if_pos sends.1]
      have length : handled.1.message.length = handled.1.respLen := by rw [message, Region.load_length]
      rw [if_pos sends]
      refine ⟨rfl, ?_⟩
      refine .spoken (UdsServer.memory { s with
        respBuf := handled.1.resp
        session := handled.2
        state := handled.1.state } (Region.fill 0)) respBufPtr ?_ ?_ ?_ ?_
      · intro none
        rw [none] at length
        exact absurd sends.2 (by rw [← length]; decide)
      · rw [length]
        exact message.symm
      · rw [length]
        rfl
      · rw [length]
        rfl
    · rw [if_neg sends]
      refine ⟨rfl, .silent ?_ rfl rfl⟩
      rw [Answer.message]
      split
      · rename_i send
        have none : handled.1.respLen = 0 := by
          refine Nat.eq_zero_of_not_pos fun some => sends ⟨send, some⟩
        rw [none]
        rfl
      · rfl

theorem Sent.conveys {can : ICanInterface} {transport after : IsoTp} {t : Transmitter} {response : List Byte}
    {sent : List CanFrame} (handed : Sent can transport response after sent) (conveys : Conveys cfg transport t) :
    Conveys cfg after (if response = [] then (t, Output.none) else t.send cfg can (some response)).1 ∧
      after.rx = transport.rx ∧
      sent = (if response = [] then (t, Output.none) else t.send cfg can (some response)).2.frames := by
  cases handed with
  | silent empty same none =>
    rw [if_pos empty, same, none]
    exact ⟨conveys, rfl, rfl⟩
  | spoken mem pointer some bytes state frames =>
    obtain ⟨rfl, of⟩ := conveys
    have told := told_send can mem of (.some pointer) response.length
    rw [Option.map_some, bytes] at told
    rw [if_neg some, state, frames]
    exact ⟨⟨IsoTp.next_cfg transport (.send can mem (.some pointer) response.length), told.of⟩, IsoTp.send_rx ..,
      congrArg Output.frames told.shows⟩

theorem send_goes_on {can : ICanInterface} {t : Transmitter} {response message : List Byte} {k : Nat} {deadline : Word}
    (waiting : (if response = [] then (t, Output.none) else t.send cfg can (some response)).1 =
      .waiting message k deadline) :
    (t = .waiting message k deadline ∧ (¬ Multi can response.length ∨ response = [])) ∨
      Multi can response.length ∧ message = response ∧ k = 0 := by
  by_cases empty : response = []
  · rw [if_pos empty] at waiting
    exact Or.inl ⟨waiting, Or.inr empty⟩
  · rw [if_neg empty] at waiting
    simp only [Transmitter.send] at waiting
    split at waiting
    · rename_i refused
      refine Or.inl ⟨waiting, Or.inl fun multi => ?_⟩
      rcases refused with none | long
      · exact empty (List.length_eq_zero_iff.mp none)
      · exact absurd multi.2.1 (Nat.not_le.mpr long)
    · rename_i accepted
      split at waiting
      · rename_i short
        exact Or.inl ⟨waiting, Or.inl fun multi => absurd multi.1 (by omega)⟩
      · rename_i several
        split at waiting
        · rename_i taken
          cases waiting
          exact Or.inr ⟨⟨by omega, by omega, taken⟩, rfl, rfl⟩
        · rename_i refused
          exact Or.inl ⟨waiting, Or.inl fun multi => refused multi.2.2⟩

/-- The response buffer holds what the transmitter has yet to send after a call of `process`. -/
theorem Carries.flight_process (carries : Carries cfg s a) {can : ICanInterface} {tick : Word}
    (kept : ¬ s.Overwrites (.process can tick)) {t : Transmitter} (of : t.Of (s.process can tick).1.transport)
    (origin : ∀ message k deadline, t = .waiting message k deadline →
      (a.transmitter = .waiting message k deadline ∧ ∀ newer, ¬ s.Accepts can tick newer) ∨
        s.Accepts can tick message ∧ k = 0) :
    ∀ message k deadline, t = .waiting message k deadline → InFlight (s.process can tick).1 message k := by
  intro message k deadline waiting
  rw [waiting] at of
  have waits : Waits (s.process can tick).1.transport message k deadline := of
  rcases origin message k deadline waiting with ⟨was, other⟩ | ⟨accepts, rfl⟩
  · have before := carries.conveys.of
    rw [was] at before
    have waitsBefore : Waits s.transport message k deadline := before
    exact (carries.flight message k deadline was).handled can tick kept other waitsBefore.state
      (s.process_other can tick other waits.state)
  · exact accepts.inFlight s can tick waits.state

/-- What `send` takes as a segmented message is the response of the message server, if it is long enough. -/
theorem accepts_iff {can : ICanInterface} {tick : Word} (arrived : s.requestLen > 0) (message : List Byte) :
    s.Accepts can tick message ↔
      message = ((s.awake tick).plain.respond s.requestLen).2 ∧ Multi can message.length := by
  have reply := s.reply_eq tick arrived
  have found : ((s.awake tick).plain.services.find? fun service =>
      service.serviceId = (s.awake tick).plain.reqBuf 0) = (s.awake tick).findService ((s.awake tick).reqBuf 0) := rfl
  simp only [Accepts, reply, answerTo, MessageServer.respond, found]
  cases (s.awake tick).findService ((s.awake tick).reqBuf 0) with
  | none =>
    constructor
    · intro accepts
      obtain ⟨answer, none, _⟩ := accepts
      cases none
    · intro accepts
      obtain ⟨rfl, long, _⟩ := accepts
      have three : 8 ≤ 3 := long
      exact absurd three (by decide)
  | some svc =>
    have same : svc.handle (s.awake tick).plain.reqBuf s.requestLen (s.awake tick).plain.respBuf maxPayload
        (s.awake tick).plain.session (s.awake tick).plain.state =
          svc.handle (s.awake tick).reqBuf s.requestLen (s.awake tick).respBuf maxPayload (s.awake tick).session
            (s.awake tick).state := rfl
    dsimp only [Option.map_some]
    rw [same]
    generalize (svc.handle (s.awake tick).reqBuf s.requestLen (s.awake tick).respBuf maxPayload (s.awake tick).session
      (s.awake tick).state).1 = answer
    constructor
    · intro accepts
      obtain ⟨_, given, send, multi, bytes⟩ := accepts
      cases given
      have length : message.length = answer.respLen := by rw [← bytes, Region.load_length]
      rw [Answer.message, if_pos send, length]
      exact ⟨bytes.symm, multi⟩
    · intro accepts
      obtain ⟨rfl, multi⟩ := accepts
      have send : answer.send = true := by
        cases send : answer.send with
        | true => rfl
        | false =>
          rw [Answer.message, send] at multi
          have none : 8 ≤ 0 := multi.1
          exact absurd none (by decide)
      have bytes : answer.message = answer.resp.load 0 answer.respLen := by rw [Answer.message, if_pos send]
      rw [bytes, Region.load_length] at multi
      exact ⟨answer, rfl, send, multi, bytes.symm⟩

theorem Carries.process (carries : Carries cfg s a) (can : ICanInterface) (tick : Word)
    (kept : ¬ s.Overwrites (.process can tick)) :
    Carries cfg (s.process can tick).1 (a.process cfg can tick).1 ∧
      (s.process can tick).2 = (a.process cfg can tick).2 := by
  by_cases held : ∃ request, a.receiver = .holding request
  · obtain ⟨request, holding⟩ := held
    obtain ⟨fetched, positive⟩ := fetch_holding carries.receives holding
    have length : s.requestLen = request.length := congrArg Prod.fst fetched
    have arrived : s.requestLen > 0 := by omega
    have awake : (s.awake tick).plain = { a.server with
        reqBuf := a.server.reqBuf.store 0 request
        session := a.server.session.keepAlive tick } := by
      rw [← carries.server, UdsServer.awake, fetched]
      rfl
    have transport : (s.awake tick).transport = (s.transport.getData true maxPayload).2 := by
      rw [UdsServer.awake, fetched]
    obtain ⟨plain, handed⟩ := (s.awake tick).handleRequest_plain can arrived
    generalize response : ((s.awake tick).plain.respond s.requestLen).2 = message at handed
    generalize handled : (s.awake tick).handleRequest can s.requestLen = after at plain handed
    -- the request is fetched, the response is handed over, and the timers are looked at
    have taken := carries.receives.getData true maxPayload
    rw [holding] at taken
    have left := carries.conveys.of_tx (IsoTp.getData_tx s.transport true maxPayload)
      (IsoTp.next_cfg s.transport (.getData true maxPayload))
    rw [transport] at handed
    obtain ⟨conveys, rx, frames⟩ := handed.conveys left
    have receives := taken.of_rx rx (conveys.cfg.trans taken.cfg.symm)
    have ends : s.process can tick = (after.1.finish can tick, after.2) := by
      rw [process_arrived s can tick arrived, handled]
    have served : a.server.serve tick request = (after.1.plain.poll tick, message) := by
      rw [MessageServer.serve, ← awake, ← length, ← plain, response]
    have process : a.process cfg can tick =
        (⟨.idle, (if message = [] then (a.transmitter, Output.none)
          else a.transmitter.send cfg can (some message)).1.update can.getTickMs, after.1.plain.poll tick⟩,
          after.2) := by
      simp only [MessageEcu.process, holding, served, frames]
    rw [process]
    refine ⟨⟨?_, ?_, ?_, ?_⟩, by rw [ends]⟩
    · rw [ends]
      exact receives.update can.getTickMs
    · rw [ends]
      exact conveys.update can.getTickMs
    · apply carries.flight_process kept
      · rw [ends]
        exact (conveys.update can.getTickMs).of
      · intro message' k deadline waiting
        rcases send_goes_on (update_goes_on waiting) with ⟨was, other⟩ | ⟨multi, rfl, rfl⟩
        · refine Or.inl ⟨was, fun newer accepts => ?_⟩
          obtain ⟨rfl, multi⟩ := (accepts_iff arrived newer).mp accepts
          rw [response] at multi
          rcases other with single | empty
          · exact single multi
          · rw [empty] at multi
            have none : 8 ≤ 0 := multi.1
            exact absurd none (by decide)
        · exact Or.inr ⟨(accepts_iff arrived message').mpr ⟨response.symm, multi⟩, rfl⟩
    · rw [ends]
      rfl
  · have empty : ∀ request, a.receiver ≠ .holding request := fun request holding => held ⟨request, holding⟩
    have silent := fetch_empty carries.receives empty
    have length : ¬ s.requestLen > 0 := by
      rw [requestLen, silent]
      exact Nat.lt_irrefl 0
    have ends : s.process can tick = (s.finish can tick, []) := by
      rw [process_silent s can tick length, silent]
    rw [a.process_empty cfg can tick empty]
    refine ⟨⟨?_, ?_, ?_, ?_⟩, by rw [ends]⟩
    · rw [ends]
      exact carries.receives.update can.getTickMs
    · rw [ends]
      exact carries.conveys.update can.getTickMs
    · apply carries.flight_process kept
      · rw [ends]
        exact (carries.conveys.update can.getTickMs).of
      · intro message k deadline waiting
        refine Or.inl ⟨update_goes_on waiting, fun newer accepts => ?_⟩
        obtain ⟨answer, given, _⟩ := accepts
        cases (s.reply_silent tick length).symm.trans given
    · rw [ends, ← carries.server]
      rfl

/-- One server follows the other, event by event. -/
theorem udsServer_simulates (σ : Type) (cfg : IsoTpConfig) :
    (udsServer σ).Simulates (messageEcu σ cfg) (Carries cfg) some fun s _ event => ¬ s.Overwrites event := by
  constructor
  · intro s a event means carries kept meaning
    cases meaning
    cases event with
    | frame can frame => exact carries.frame can frame
    | process can tick => exact carries.process can tick kept
  · intro s a event _ _ meaning
    cases meaning

theorem Carries.boot (cfg : IsoTpConfig) (rxBuf : Region Byte) (timing : TimingConfig)
    (onTimeout : Option (σ → σ)) (reqBuf respBuf : Region Byte) (state : σ) (services : List (IService σ)) :
    Carries cfg (boot (.create cfg rxBuf) timing onTimeout reqBuf respBuf state services)
      ⟨.idle, .idle, (UdsServer.boot (.create cfg rxBuf) timing onTimeout reqBuf respBuf state services).plain⟩ := by
  have transport := boot_transport (.create cfg rxBuf) timing onTimeout reqBuf respBuf state services
  refine ⟨?_, ?_, fun _ _ _ none => (nomatch none), rfl⟩
  · rw [transport]
    exact ⟨rfl, RxInvariant.create cfg rxBuf, rfl⟩
  · rw [transport]
    exact ⟨rfl, fun waiting => nomatch waiting⟩

/-- In every run in which no handler overwrites a response that is still going out, the server sends
    the frames of the message server between a receiver and a transmitter of messages, and reaches
    its session and its state. -/
theorem messages_refined (cfg : IsoTpConfig) (rxBuf : Region Byte) (timing : TimingConfig)
    (onTimeout : Option (σ → σ)) (reqBuf respBuf : Region Byte) (state : σ) (services : List (IService σ))
    (events : List ServerEvent)
    (kept : ∀ entry ∈ (udsServer σ).trace
        (boot (.create cfg rxBuf) timing onTimeout reqBuf respBuf state services) events,
      ¬ entry.before.Overwrites entry.event) :
    let start := boot (.create cfg rxBuf) timing onTimeout reqBuf respBuf state services
    let plainly := (messageEcu σ cfg).run ⟨.idle, .idle, start.plain⟩ events
    ((udsServer σ).run start events).plain = plainly.server ∧
      ((udsServer σ).run start events).transport.receiver = plainly.receiver ∧
      ((udsServer σ).trace start events).map Machine.Entry.output =
        ((messageEcu σ cfg).trace ⟨.idle, .idle, start.plain⟩ events).map Machine.Entry.output := by
  intro start plainly
  have initial := Carries.boot cfg rxBuf timing onTimeout reqBuf respBuf state services
  have followed := (udsServer_simulates σ cfg).run initial events fun past event later split => by
    apply kept ((udsServer σ).entry ((udsServer σ).run start past) event)
    rw [split, Machine.trace_append]
    exact List.mem_append_right _ List.mem_cons_self
  rw [List.filterMap_some, Machine.shown_all] at followed
  exact ⟨followed.1.server, followed.1.receives.same, followed.2⟩

/-- A read of the VIN with its flow control frame. -/
theorem messages_refined_vin :
    ((udsServer Unit).run reader (reads 0xF1 0x90 ++ [continues])).plain =
        ((messageEcu Unit kDefaultIsoTpConfig).run ⟨.idle, .idle, reader.plain⟩
          (reads 0xF1 0x90 ++ [continues])).server ∧
      ((udsServer Unit).run reader (reads 0xF1 0x90 ++ [continues])).transport.receiver =
        ((messageEcu Unit kDefaultIsoTpConfig).run ⟨.idle, .idle, reader.plain⟩
          (reads 0xF1 0x90 ++ [continues])).receiver ∧
      ((udsServer Unit).trace reader (reads 0xF1 0x90 ++ [continues])).map Machine.Entry.output =
        ((messageEcu Unit kDefaultIsoTpConfig).trace ⟨.idle, .idle, reader.plain⟩
          (reads 0xF1 0x90 ++ [continues])).map Machine.Entry.output := by
  refine messages_refined kDefaultIsoTpConfig (Region.fill 0) kDefaultTiming none (Region.fill 0) (Region.fill 0) ()
    [identifiers.service] (reads 0xF1 0x90 ++ [continues]) fun entry member overwrites => ?_
  rcases List.mem_cons.mp member with rfl | member
  · exact overwrites
  · rcases List.mem_cons.mp member with rfl | member
    · exact absurd overwrites.1 (by decide)
    · rw [List.mem_singleton.mp member] at overwrites
      exact overwrites

end UdsServer

end Uds
