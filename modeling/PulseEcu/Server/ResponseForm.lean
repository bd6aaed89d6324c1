import PulseEcu.Server.SessionEffect
import PulseEcu.Services.ServiceSet

open Foundation

namespace Uds

open Transport

/-- A response has one of two forms: the three bytes of a negative one, or the positive one that
    starts with the number of the service. -/
structure WellFormed (sid : ServiceId) (message : List Byte) : Prop where
  form : (∃ nrc : NrcCode, message = [ServiceId.negativeResponse, sid, nrc.toByte]) ∨
    message.head? = some (sid + 0x40)
  nonempty : 1 ≤ message.length
  length : message.length ≤ maxPayload

theorem Service.handle_wellFormed {ω : Type} (target : Target) (service : Service) (handlers : Handlers ω) (world : ω)
    (req : Region Byte) (reqLen : Nat) (resp : Region Byte) (session : UdsSession) (bounded : handlers.Bounded)
    (send : (service.handle target (handlers, world) req reqLen resp maxPayload session).1.send = true)
    (some : 0 < (service.handle target (handlers, world) req reqLen resp maxPayload session).1.respLen) :
    WellFormed service.serviceId
      (service.handle target (handlers, world) req reqLen resp maxPayload session).1.message := by
  have serves := service.handle_serves target handlers world req reqLen resp maxPayload session
  have fits := service.handle_fits target handlers world req reqLen resp maxPayload session bounded (by decide)
  generalize service.handle target (handlers, world) req reqLen resp maxPayload session = served at *
  have length : served.1.message.length = served.1.respLen := by
    rw [Answer.message, if_pos send, Region.load_length]
  constructor
  · cases serves with
    | refused _ no => exact Or.inl no
    | gaveUp _ no => exact Or.inl no
    | answered _ first nonempty =>
      rw [message_head served.1.toAnswer send nonempty, first]
      exact Or.inr rfl
  · rw [length]
    exact some
  · rw [length]
    exact fits.length

namespace UdsServer

variable {ω : Type}

/-- The server of the whole set: what is registered are objects of the handlers in the state, and
    the functions of the application keep to their space. -/
structure Serving (target : Target) (s : UdsServer (Ecu ω)) : Prop where
  services : ∀ svc ∈ s.services, ∃ service : Service, svc = service.interface target s.state.1.sessionControl
  bounded : s.state.1.Bounded

section

variable {target : Target} {s : UdsServer (Ecu ω)}

theorem Serving.find (serving : Serving target s) {sid : ServiceId} {svc : IService (Ecu ω)}
    (found : s.findService sid = some svc) :
    ∃ service : Service, service.serviceId = sid ∧ svc = service.interface target s.state.1.sessionControl := by
  obtain ⟨service, rfl⟩ := serving.services svc (List.mem_of_find?_eq_some found)
  have number := List.find?_some found
  rw [Service.interface_serviceId] at number
  exact ⟨service, of_decide_eq_true number, rfl⟩

theorem Serving.boot (target : Target) (transport : IsoTp) (timing : TimingConfig) (onTimeout : Option (Ecu ω → Ecu ω))
    (reqBuf respBuf : Region Byte) {handlers : Handlers ω} (bounded : handlers.Bounded) (world : ω)
    (set : List Service) :
    Serving target (boot transport timing onTimeout reqBuf respBuf (handlers, world)
      (set.map (Service.interface target handlers.sessionControl))) := by
  have all := @boot_induction (Ecu ω)
    (fun s => s.state = (handlers, world) ∧
      ∀ svc ∈ s.services, ∃ service : Service, svc = service.interface target handlers.sessionControl)
    transport timing onTimeout reqBuf respBuf (handlers, world)
    (set.map (Service.interface target handlers.sessionControl)) ⟨rfl, fun _ none => nomatch none⟩ (by
      intro svc member s good
      obtain ⟨service, _, rfl⟩ := List.mem_map.mp member
      exact ⟨good.1, List.forall_mem_append.mpr ⟨good.2, List.forall_mem_singleton.mpr ⟨service, rfl⟩⟩⟩)
  constructor
  · rw [all.1]
    exact all.2
  · rw [all.1]
    exact bounded

theorem boot_onTimeout {σ : Type} (transport : IsoTp) (timing : TimingConfig) (onTimeout : Option (σ → σ))
    (reqBuf respBuf : Region Byte) (state : σ) (services : List (IService σ)) :
    (UdsServer.boot transport timing onTimeout reqBuf respBuf state services).onTimeout = onTimeout := by
  apply @boot_induction σ (fun s => s.onTimeout = onTimeout)
  · rfl
  · exact fun _ _ _ same => same

def KeepsTables (onTimeout : Option (Ecu ω → Ecu ω)) : Prop :=
  ∀ callback, onTimeout = some callback → ∀ ecu, ecu.1.Bounded →
    (callback ecu).1.Bounded ∧ (callback ecu).1.sessionControl = ecu.1.sessionControl

theorem Serving.with_state (serving : Serving target s) {t : UdsServer (Ecu ω)} (services : t.services = s.services)
    (tables : t.state.1.Bounded ∧ t.state.1.sessionControl = s.state.1.sessionControl) : Serving target t := by
  constructor
  · rw [services, tables.2]
    exact serving.services
  · exact tables.1

theorem Serving.handleRequest (serving : Serving target s) (can : ICanInterface) (len : Nat) :
    Serving target (s.handleRequest can len).1 ∧ (s.handleRequest can len).1.onTimeout = s.onTimeout := by
  simp only [UdsServer.handleRequest]
  split
  · exact ⟨serving, rfl⟩
  · cases found : s.findService (s.reqBuf 0) with
    | none => exact ⟨serving.with_state rfl ⟨serving.bounded, rfl⟩, rfl⟩
    | some svc =>
      obtain ⟨service, _, rfl⟩ := serving.find found
      have tables := service.handle_tables target s.state.1 s.state.2 s.reqBuf len s.respBuf maxPayload s.session
        serving.bounded
      have answer := service.interface_handle target s.state.1 s.state.2 s.reqBuf len s.respBuf maxPayload s.session
      dsimp only
      rw [answer]
      split
      · exact ⟨serving.with_state rfl tables, rfl⟩
      · exact ⟨serving.with_state rfl tables, rfl⟩

theorem Serving.finish (serving : Serving target s) (timeout : KeepsTables s.onTimeout) (can : ICanInterface)
    (tick : Word) : Serving target (s.finish can tick) := by
  refine serving.with_state (t := s.finish can tick) rfl ?_
  simp only [UdsServer.finish]
  split
  · cases registered : s.onTimeout with
    | none => exact ⟨serving.bounded, rfl⟩
    | some callback => exact timeout callback registered s.state serving.bounded
  · exact ⟨serving.bounded, rfl⟩

theorem Serving.fetch (serving : Serving target s) : Serving target s.fetch.2 := by
  refine serving.with_state s.fetch_services ?_
  rw [fetch_state]
  exact ⟨serving.bounded, rfl⟩

theorem Serving.awake (serving : Serving target s) (tick : Word) : Serving target (s.awake tick) :=
  serving.fetch.with_state rfl ⟨serving.fetch.bounded, rfl⟩

theorem serving_next (serving : Serving target s) (timeout : KeepsTables s.onTimeout) (event : ServerEvent) :
    Serving target ((udsServer (Ecu ω)).next s event) ∧ KeepsTables ((udsServer (Ecu ω)).next s event).onTimeout := by
  cases event with
  | frame can frame => exact ⟨serving.with_state rfl ⟨serving.bounded, rfl⟩, timeout⟩
  | process can tick =>
    rw [← s.fetch_onTimeout] at timeout
    show Serving target (s.process can tick).1 ∧ KeepsTables (s.process can tick).1.onTimeout
    by_cases arrived : s.requestLen > 0
    · rw [process_arrived s can tick arrived]
      have handled := (serving.awake tick).handleRequest can s.requestLen
      have kept : KeepsTables ((s.awake tick).handleRequest can s.requestLen).1.onTimeout := by
        rw [handled.2]
        exact timeout
      exact ⟨handled.1.finish kept can tick, kept⟩
    · rw [process_silent s can tick arrived]
      exact ⟨serving.fetch.finish timeout can tick, timeout⟩

theorem serving_run (serving : Serving target s) (timeout : KeepsTables s.onTimeout) (events : List ServerEvent) :
    Serving target ((udsServer (Ecu ω)).run s events) := by
  let Good := fun s : UdsServer (Ecu ω) => Serving target s ∧ KeepsTables s.onTimeout
  have kept : ∀ (s : UdsServer (Ecu ω)) (event : ServerEvent), Good s → Good ((udsServer (Ecu ω)).next s event) :=
    fun s event good => serving_next good.1 good.2 event
  exact ((udsServer (Ecu ω)).run_invariant_all kept s events ⟨serving, timeout⟩).1

def HandsOver (can : ICanInterface) (s : UdsServer (Ecu ω)) (served : UdsServer (Ecu ω) × List CanFrame)
    (message : List Byte) : Prop :=
  ∃ mem data, (mem data).load 0 message.length = message ∧
    served.1.transport = (s.transport.send can mem (some data) message.length).state ∧
    served.2 = (s.transport.send can mem (some data) message.length).sent

theorem HandsOver.sendResponse (can : ICanInterface) {after : UdsServer (Ecu ω)} (same : after.transport = s.transport)
    (mem : Memory) (data : Pointer) (len : Nat) :
    HandsOver can s (after.sendResponse can mem data len) ((mem data).load 0 len) := by
  refine ⟨mem, data, ?_, ?_, ?_⟩
  · rw [Region.load_length]
  · rw [Region.load_length, ← same]
    rfl
  · rw [Region.load_length, ← same]
    rfl

/-- What comes of a request of `len` bytes: the message of the handler, in form, where it has one,
    and else nothing; no byte behind the response buffer; and a negative response that changes
    nothing but the transport where no service is registered. -/
structure Responding (can : ICanInterface) (s : UdsServer (Ecu ω)) (len : Nat)
    (served : UdsServer (Ecu ω) × List CanFrame) : Prop where
  answered : ∀ svc answer session, s.findService (s.reqBuf 0) = some svc →
    svc.handle s.reqBuf len s.respBuf maxPayload s.session s.state = (answer, session) →
    answer.send = true ∧ 0 < answer.respLen →
      HandsOver can s served answer.message ∧ WellFormed (s.reqBuf 0) answer.message
  silent : ∀ svc answer session, s.findService (s.reqBuf 0) = some svc →
    svc.handle s.reqBuf len s.respBuf maxPayload s.session s.state = (answer, session) →
    ¬ (answer.send = true ∧ 0 < answer.respLen) → served.1.transport = s.transport ∧ served.2 = []
  respBuf : Region.KeptFrom maxPayload s.respBuf served.1.respBuf
  unregistered : s.findService (s.reqBuf 0) = none →
    HandsOver can s served [ServiceId.negativeResponse, s.reqBuf 0, NrcCode.serviceNotSupported.toByte] ∧
    served.1 = { s with transport := served.1.transport }

theorem Serving.responds (serving : Serving target s) (can : ICanInterface) {len : Nat} (arrived : 0 < len) :
    Responding can s len (s.handleRequest can len) := by
  have present : len ≠ 0 := Nat.ne_of_gt arrived
  cases found : s.findService (s.reqBuf 0) with
  | none =>
    simp only [UdsServer.handleRequest, if_neg present, found]
    have bytes := Region.load_store (Region.fill 0) 0
      [ServiceId.negativeResponse, s.reqBuf 0, NrcCode.serviceNotSupported.toByte]
    constructor
    · intro svc answer session registered
      exact absurd (found.symm.trans registered) (by simp)
    · intro svc answer session registered
      exact absurd (found.symm.trans registered) (by simp)
    · exact Region.KeptFrom.refl _ _
    · intro _
      have handed := HandsOver.sendResponse (s := s) can rfl (s.memory ((Region.fill 0).store 0
        [ServiceId.negativeResponse, s.reqBuf 0, NrcCode.serviceNotSupported.toByte])) nrcBufPtr 3
      have message : (s.memory ((Region.fill 0).store 0 [ServiceId.negativeResponse, s.reqBuf 0,
        NrcCode.serviceNotSupported.toByte]) nrcBufPtr).load 0 3 = _ := bytes
      rw [message] at handed
      exact ⟨handed, rfl⟩
  | some svc =>
    obtain ⟨service, number, rfl⟩ := serving.find found
    have answer := service.interface_handle target s.state.1 s.state.2 s.reqBuf len s.respBuf maxPayload s.session
    have fits := service.handle_fits target s.state.1 s.state.2 s.reqBuf len s.respBuf maxPayload s.session
      serving.bounded (by decide)
    have formed := service.handle_wellFormed target s.state.1 s.state.2 s.reqBuf len s.respBuf s.session serving.bounded
    simp only [UdsServer.handleRequest, if_neg present, found]
    rw [answer]
    generalize service.handle target (s.state.1, s.state.2) s.reqBuf len s.respBuf maxPayload s.session = handled at *
    constructor
    · intro svc given session registered handles sends
      obtain rfl := Option.some.inj (found.symm.trans registered)
      obtain ⟨rfl, rfl⟩ := Prod.mk.inj (answer.symm.trans handles)
      rw [if_pos sends]
      have message := formed sends.1 sends.2
      rw [number] at message
      have bytes : handled.1.message = handled.1.resp.load 0 handled.1.respLen := if_pos sends.1
      refine ⟨?_, message⟩
      rw [bytes]
      refine @HandsOver.sendResponse ω s can _ ?_ _ respBufPtr handled.1.respLen
      rfl
    · intro svc given session registered handles quiet
      obtain rfl := Option.some.inj (found.symm.trans registered)
      obtain ⟨rfl, rfl⟩ := Prod.mk.inj (answer.symm.trans handles)
      rw [if_neg quiet]
      exact ⟨rfl, rfl⟩
    · split
      · exact fits.kept
      · exact fits.kept
    · intro none
      exact absurd (found.symm.trans none) (by simp)

/-- Every request is responded to in form, by every server of the set in any state of its handlers
    and of its session, and at every call of `process` in every run from start-up. -/
theorem response_form (target : Target) :
    (∀ (s : UdsServer (Ecu ω)) (can : ICanInterface) (len : Nat), Serving target s → 0 < len →
      Responding can s len (s.handleRequest can len)) ∧
    ∀ (transport : IsoTp) (timing : TimingConfig) (onTimeout : Option (Ecu ω → Ecu ω)) (reqBuf respBuf : Region Byte)
      (handlers : Handlers ω) (world : ω) (set : List Service) (events : List ServerEvent) (s : UdsServer (Ecu ω)),
      handlers.Bounded → KeepsTables onTimeout →
      s = (udsServer (Ecu ω)).run (boot transport timing onTimeout reqBuf respBuf (handlers, world)
        (set.map (Service.interface target handlers.sessionControl))) events →
      ∀ can tick, s.requestLen > 0 →
        Responding can (s.awake tick) s.requestLen ((s.awake tick).handleRequest can s.requestLen) := by
  constructor
  · intro s can len serving arrived
    exact serving.responds can arrived
  · intro transport timing onTimeout reqBuf respBuf handlers world set events s bounded timeout reached can tick arrived
    have booted := Serving.boot target transport timing onTimeout reqBuf respBuf bounded world set
    have callback := boot_onTimeout transport timing onTimeout reqBuf respBuf (handlers, world)
      (set.map (Service.interface target handlers.sessionControl))
    have serving := serving_run booted (by rw [callback]; exact timeout) events
    rw [← reached] at serving
    exact (serving.awake tick).responds can arrived

end

def oneByte : Handlers Byte :=
  { Handlers.bare with
    readData := ⟨[⟨0xF186, false, some fun cells room session =>
      ((if room = 0 then cells else cells.store 0 [session], min room 1), session), none⟩]⟩ }

theorem oneByte_bounded : oneByte.Bounded := by
  constructor
  · intro did member readFn function cells room session
    rcases List.mem_singleton.mp member with rfl
    cases function
    refine ⟨Nat.min_le_left room 1, ?_⟩
    dsimp only
    split
    · exact Region.KeptFrom.refl room cells
    · rename_i space
      exact (Region.KeptFrom.refl room cells).store (Nat.one_le_iff_ne_zero.mpr space)
  · intro callback none
    cases none
  · intro lvl none
    cases none
  · intro ctrl none
    cases none
  · intro rtn none
    cases none
  · intro callback none
    cases none

def oneByteServer : UdsServer (Ecu Byte) :=
  boot (.create kDefaultIsoTpConfig (Region.fill 0)) kDefaultTiming none
    ((Region.fill 0).store 0 [0x22, 0xF1, 0x86]) (Region.fill 0) (oneByte, 1)
    ([.readDataByIdentifier, .testerPresent].map (Service.interface .host oneByte.sessionControl))

def oneByteCan : ICanInterface := ⟨10, fun _ => true⟩

def oneByteAsked : UdsServer (Ecu Byte) :=
  (udsServer (Ecu Byte)).run oneByteServer [.frame oneByteCan (.make 0x7DF [0x03, 0x22, 0xF1, 0x86] 4)]

theorem response_form_oneByte :
    Responding oneByteCan oneByteServer 3 (oneByteServer.handleRequest oneByteCan 3) ∧
      Responding oneByteCan (oneByteAsked.awake 10) oneByteAsked.requestLen
        ((oneByteAsked.awake 10).handleRequest oneByteCan oneByteAsked.requestLen) := by
  constructor
  · exact (response_form .host).1 oneByteServer oneByteCan 3
      (.boot .host _ _ none _ _ oneByte_bounded 1 [.readDataByIdentifier, .testerPresent]) (by decide)
  · have timeout : KeepsTables (none : Option (Ecu Byte → Ecu Byte)) := by
      intro callback registered
      cases registered
    exact (response_form .host).2 _ _ none _ _ oneByte 1 [.readDataByIdentifier, .testerPresent] _ oneByteAsked
      oneByte_bounded timeout rfl oneByteCan 10 (by decide)

end UdsServer

end Uds
