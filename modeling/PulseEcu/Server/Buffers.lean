import PulseEcu.Server.MessageServer
import PulseEcu.Services.StaleBytes

open Foundation

namespace Uds

open Transport

variable {ω : Type} {target : Target}

namespace MessageServer

structure Twins (one other : MessageServer (Ecu ω)) : Prop where
  session : one.session = other.session
  services : one.services = other.services
  onTimeout : one.onTimeout = other.onTimeout
  state : one.state = other.state

structure Tidy (target : Target) (m : MessageServer (Ecu ω)) : Prop where
  services : ∀ svc ∈ m.services, ∃ service : Service, svc = service.interface target m.state.1.sessionControl
  handlers : m.state.1.Tidy
  timeout : ∀ callback, m.onTimeout = some callback → ∀ ecu, ecu.1.Tidy →
    (callback ecu).1.Tidy ∧ (callback ecu).1.sessionControl = ecu.1.sessionControl

variable {one other : MessageServer (Ecu ω)}

theorem Tidy.poll (tidy : Tidy target one) (tick : Word) : Tidy target (one.poll tick) := by
  have kept : (one.poll tick).state.1.Tidy ∧ (one.poll tick).state.1.sessionControl = one.state.1.sessionControl := by
    simp only [MessageServer.poll]
    split
    · cases registered : one.onTimeout with
      | none => exact ⟨tidy.handlers, rfl⟩
      | some callback => exact tidy.timeout callback registered one.state tidy.handlers
    · exact ⟨tidy.handlers, rfl⟩
  refine ⟨?_, kept.1, tidy.timeout⟩
  rw [kept.2]
  exact tidy.services

theorem Twins.poll (twins : Twins one other) (tick : Word) : Twins (one.poll tick) (other.poll tick) := by
  obtain ⟨session, services, onTimeout, state⟩ := twins
  refine ⟨?_, services, onTimeout, ?_⟩
  · simp only [MessageServer.poll, session]
  · simp only [MessageServer.poll, session, onTimeout, state]

def Overreads (target : Target) (req : Region Byte) (reqLen : Nat) : Prop :=
  req 0 = ServiceId.writeMemoryByAddress ∧ WriteMemoryByAddressService.Overreads target req reqLen

theorem Twins.respond (twins : Twins one other) (tidy : Tidy target one) {len : Nat} (arrived : 0 < len)
    (same : Region.Agree len one.reqBuf other.reqBuf) (held : ¬ Overreads target other.reqBuf len) :
    Twins (one.respond len).1 (other.respond len).1 ∧ Tidy target (one.respond len).1 ∧
      (one.respond len).2 = (other.respond len).2 := by
  have sid := same 0 arrived
  unfold MessageServer.respond
  rw [sid, ← twins.services, ← twins.session, ← twins.state]
  dsimp only
  cases found : one.services.find? fun service => service.serviceId = other.reqBuf 0 with
  | none => exact ⟨twins, tidy, rfl⟩
  | some svc =>
    obtain ⟨service, rfl⟩ := tidy.services svc (List.mem_of_find?_eq_some found)
    have number := List.find?_some found
    rw [Service.interface_serviceId] at number
    have overreads : service = .writeMemoryByAddress → ¬ WriteMemoryByAddressService.Overreads target other.reqBuf len := by
      intro writes overreads
      rw [writes] at number
      exact held ⟨(of_decide_eq_true number).symm, overreads⟩
    obtain ⟨alike, session⟩ := service.handle_alike tidy.handlers target one.state.2 same overreads one.respBuf
      other.respBuf maxPayload one.session
    have kept := service.handle_tidy tidy.handlers target one.state.2 one.reqBuf len one.respBuf maxPayload one.session
    have answer := service.interface_handle target one.state.1 one.state.2 one.reqBuf len one.respBuf maxPayload one.session
    have another := service.interface_handle target one.state.1 one.state.2 other.reqBuf len other.respBuf maxPayload
      one.session
    dsimp only
    rw [answer, another]
    refine ⟨⟨session, rfl, twins.onTimeout, alike.state⟩, ⟨?_, kept.1, tidy.timeout⟩, alike.message⟩
    rw [kept.2]
    exact tidy.services

theorem Twins.serve (twins : Twins one other) (tidy : Tidy target one) (tick : Word) {request : List Byte}
    (arrived : 0 < request.length)
    (held : ¬ Overreads target (other.reqBuf.store 0 request) request.length) :
    Twins (one.serve tick request).1 (other.serve tick request).1 ∧ Tidy target (one.serve tick request).1 ∧
      (one.serve tick request).2 = (other.serve tick request).2 := by
  have arrivals : Twins { one with reqBuf := one.reqBuf.store 0 request, session := one.session.keepAlive tick }
      { other with reqBuf := other.reqBuf.store 0 request, session := other.session.keepAlive tick } :=
    ⟨congrArg (·.keepAlive tick) twins.session, twins.services, twins.onTimeout, twins.state⟩
  have awake : Tidy target { one with reqBuf := one.reqBuf.store 0 request, session := one.session.keepAlive tick } :=
    ⟨tidy.services, tidy.handlers, tidy.timeout⟩
  obtain ⟨same, kept, response⟩ := arrivals.respond awake arrived (Region.Agree.written _ _ request) held
  exact ⟨same.poll tick, kept.poll tick, response⟩

end MessageServer

namespace MessageEcu

variable {σ : Type} (b : MessageEcu σ) (m : MessageServer σ)

theorem frame_server (cfg : IsoTpConfig) (can : ICanInterface) (frame : CanFrame) :
    MessageEcu.frame cfg can { b with server := m } frame =
        ({ (b.frame cfg can frame).1 with server := m }, (b.frame cfg can frame).2) ∧
      (b.frame cfg can frame).1.server = b.server := by
  unfold MessageEcu.frame
  dsimp only
  split
  · exact ⟨rfl, rfl⟩
  · exact ⟨rfl, rfl⟩

theorem process_holding (cfg : IsoTpConfig) (can : ICanInterface) (tick : Word) {request : List Byte}
    (holding : b.receiver = .holding request)
    (same : (m.serve tick request).2 = (b.server.serve tick request).2) :
    MessageEcu.process cfg can tick { b with server := m } =
        ({ (b.process cfg can tick).1 with server := (m.serve tick request).1 }, (b.process cfg can tick).2) ∧
      (b.process cfg can tick).1.server = (b.server.serve tick request).1 := by
  unfold MessageEcu.process
  rw [holding]
  dsimp only
  rw [same]
  exact ⟨rfl, rfl⟩

theorem process_server (cfg : IsoTpConfig) (can : ICanInterface) (tick : Word)
    (empty : ∀ request, b.receiver ≠ .holding request) :
    MessageEcu.process cfg can tick { b with server := m } =
        ({ (b.process cfg can tick).1 with server := m.poll tick }, (b.process cfg can tick).2) ∧
      (b.process cfg can tick).1.server = b.server.poll tick := by
  rw [MessageEcu.process_empty cfg can tick b empty, MessageEcu.process_empty cfg can tick { b with server := m } empty]
  exact ⟨rfl, rfl⟩

end MessageEcu

namespace UdsServer

def Overreads (target : Target) (s : UdsServer (Ecu ω)) : ServerEvent → Prop
  | .frame _ _ => False
  | .process _ _ => MessageServer.Overreads target s.request s.requestLen

structure CarriesTwin (target : Target) (cfg : IsoTpConfig) (s : UdsServer (Ecu ω)) (b : MessageEcu (Ecu ω)) : Prop where
  carries : Carries cfg s { b with server := s.plain }
  twins : MessageServer.Twins b.server s.plain
  tidy : MessageServer.Tidy target b.server

variable {cfg : IsoTpConfig} {s : UdsServer (Ecu ω)} {b : MessageEcu (Ecu ω)}

theorem CarriesTwin.of {m : MessageServer (Ecu ω)} (carries : Carries cfg s { b with server := m })
    (twins : MessageServer.Twins b.server m) (tidy : MessageServer.Tidy target b.server) : CarriesTwin target cfg s b := by
  have server : s.plain = m := carries.server
  rw [← server] at carries twins
  exact ⟨carries, twins, tidy⟩

theorem udsServer_simulates_twin (target : Target) (cfg : IsoTpConfig) :
    (udsServer (Ecu ω)).Simulates (messageEcu (Ecu ω) cfg) (CarriesTwin target cfg) some
      fun s _ event => ¬ s.Overwrites event ∧ ¬ s.Overreads target event := by
  constructor
  · rintro s b event _ ⟨carries, twins, tidy⟩ ⟨kept, held⟩ ⟨⟩
    cases event with
    | frame can frame =>
      obtain ⟨after, sent⟩ := carries.frame can frame
      obtain ⟨same, server⟩ := b.frame_server s.plain cfg can frame
      rw [same] at after sent
      rw [← server] at twins tidy
      exact ⟨.of after twins tidy, sent⟩
    | process can tick =>
      obtain ⟨after, sent⟩ := carries.process can tick kept
      by_cases holds : ∃ request, b.receiver = .holding request
      · obtain ⟨request, holding⟩ := holds
        obtain ⟨fetched, arrived⟩ := fetch_holding carries.receives holding
        have read : ¬ MessageServer.Overreads target (s.plain.reqBuf.store 0 request) request.length := by
          have same : s.request = s.plain.reqBuf.store 0 request := congrArg (fun f => f.2.reqBuf) fetched
          have length : s.requestLen = request.length := congrArg Prod.fst fetched
          rwa [Overreads, same, length] at held
        obtain ⟨served, left, response⟩ := twins.serve tidy tick arrived read
        obtain ⟨same, server⟩ := b.process_holding s.plain cfg can tick holding response.symm
        rw [same] at after sent
        rw [← server] at served left
        exact ⟨.of after served left, sent⟩
      · have empty : ∀ request, b.receiver ≠ .holding request := fun request holding => holds ⟨request, holding⟩
        obtain ⟨same, server⟩ := b.process_server s.plain cfg can tick empty
        have polled := twins.poll tick
        have left := tidy.poll tick
        rw [same] at after sent
        rw [← server] at polled left
        exact ⟨.of after polled left, sent⟩
  · rintro s a event _ _ ⟨⟩

theorem registerService_twins {s t : UdsServer (Ecu ω)} (twins : MessageServer.Twins s.plain t.plain)
    (service : IService (Ecu ω)) :
    MessageServer.Twins (s.registerService service).2.plain (t.registerService service).2.plain := by
  have services : s.services = t.services := twins.services
  unfold registerService
  rw [services]
  split
  · exact twins
  · split
    · exact twins
    · exact ⟨twins.session, rfl, twins.onTimeout, twins.state⟩

theorem boot_twins (transport another : IsoTp) (timing : TimingConfig) (onTimeout : Option (Ecu ω → Ecu ω))
    (reqBuf respBuf reqBuf' respBuf' : Region Byte) (ecu : Ecu ω) (services : List (IService (Ecu ω))) :
    MessageServer.Twins (boot transport timing onTimeout reqBuf respBuf ecu services).plain
      (boot another timing onTimeout reqBuf' respBuf' ecu services).plain := by
  have created : MessageServer.Twins (UdsServer.create transport timing onTimeout reqBuf respBuf ecu).plain
      (UdsServer.create another timing onTimeout reqBuf' respBuf' ecu).plain := ⟨rfl, rfl, rfl, rfl⟩
  unfold boot
  generalize UdsServer.create transport timing onTimeout reqBuf respBuf ecu = s at created ⊢
  generalize UdsServer.create another timing onTimeout reqBuf' respBuf' ecu = t at created ⊢
  induction services generalizing s t with
  | nil => exact created
  | cons service services ih => exact ih _ _ (registerService_twins created service)

theorem boot_tidy (target : Target) {handlers : Handlers ω} (tidy : handlers.Tidy) {onTimeout : Option (Ecu ω → Ecu ω)}
    (timeout : ∀ callback, onTimeout = some callback → ∀ ecu, ecu.1.Tidy →
      (callback ecu).1.Tidy ∧ (callback ecu).1.sessionControl = ecu.1.sessionControl)
    (transport : IsoTp) (timing : TimingConfig) (reqBuf respBuf : Region Byte) (world : ω) (set : List Service) :
    MessageServer.Tidy target (boot transport timing onTimeout reqBuf respBuf (handlers, world)
      (set.map (Service.interface target handlers.sessionControl))).plain := by
  apply @boot_induction (Ecu ω)
    (fun s => s.state = (handlers, world) ∧ MessageServer.Tidy target s.plain)
    transport timing onTimeout reqBuf respBuf (handlers, world)
    (set.map (Service.interface target handlers.sessionControl)) ⟨rfl, fun _ none => (nomatch none), tidy, timeout⟩
    (by
      rintro svc member s ⟨state, services, kept, timeout⟩
      obtain ⟨service, _, rfl⟩ := List.mem_map.mp member
      refine ⟨state, List.forall_mem_append.mpr ⟨services, List.forall_mem_singleton.mpr ⟨service, ?_⟩⟩, kept, timeout⟩
      show _ = Service.interface target s.state.1.sessionControl service
      rw [state]) |>.2

/-- What the buffers of the server and of its transport hold at the start never shows: two servers
    of the set that differ only there send the same frames in every run, and end in the same session and
    state. -/
theorem buffers_never_matter (target : Target) (cfg : IsoTpConfig) (timing : TimingConfig)
    (onTimeout : Option (Ecu ω → Ecu ω)) (handlers : Handlers ω) (world : ω) (set : List Service)
    (tidy : handlers.Tidy)
    (timeout : ∀ callback, onTimeout = some callback → ∀ ecu, ecu.1.Tidy →
      (callback ecu).1.Tidy ∧ (callback ecu).1.sessionControl = ecu.1.sessionControl)
    (rxBuf reqBuf respBuf rxBuf' reqBuf' respBuf' : Region Byte) (events : List ServerEvent)
    (clean : ∀ start ∈ [
        boot (.create cfg rxBuf) timing onTimeout reqBuf respBuf (handlers, world)
          (set.map (Service.interface target handlers.sessionControl)),
        boot (.create cfg rxBuf') timing onTimeout reqBuf' respBuf' (handlers, world)
          (set.map (Service.interface target handlers.sessionControl))],
      ∀ entry ∈ (udsServer (Ecu ω)).trace start events,
        ¬ entry.before.Overwrites entry.event ∧ ¬ entry.before.Overreads target entry.event) :
    let one := boot (.create cfg rxBuf) timing onTimeout reqBuf respBuf (handlers, world)
      (set.map (Service.interface target handlers.sessionControl))
    let other := boot (.create cfg rxBuf') timing onTimeout reqBuf' respBuf' (handlers, world)
      (set.map (Service.interface target handlers.sessionControl))
    ((udsServer (Ecu ω)).trace one events).map Machine.Entry.output =
        ((udsServer (Ecu ω)).trace other events).map Machine.Entry.output ∧
      ((udsServer (Ecu ω)).run one events).session = ((udsServer (Ecu ω)).run other events).session ∧
      ((udsServer (Ecu ω)).run one events).state = ((udsServer (Ecu ω)).run other events).state := by
  intro one other
  have followed : ∀ s : UdsServer (Ecu ω), CarriesTwin target cfg s ⟨.idle, .idle, one.plain⟩ →
      (∀ entry ∈ (udsServer (Ecu ω)).trace s events,
        ¬ entry.before.Overwrites entry.event ∧ ¬ entry.before.Overreads target entry.event) →
      CarriesTwin target cfg ((udsServer (Ecu ω)).run s events)
          ((messageEcu (Ecu ω) cfg).run ⟨.idle, .idle, one.plain⟩ events) ∧
        ((udsServer (Ecu ω)).trace s events).map Machine.Entry.output =
          ((messageEcu (Ecu ω) cfg).trace ⟨.idle, .idle, one.plain⟩ events).map Machine.Entry.output := by
    intro s initial allowed
    have run := (udsServer_simulates_twin target cfg).run initial events fun past event later split => by
      apply allowed ((udsServer (Ecu ω)).entry ((udsServer (Ecu ω)).run s past) event)
      rw [split, Machine.trace_append]
      exact List.mem_append_right _ List.mem_cons_self
    rwa [List.filterMap_some, Machine.shown_all] at run
  have left := boot_tidy target tidy timeout (.create cfg rxBuf) timing reqBuf respBuf world set
  have twins := boot_twins (.create cfg rxBuf) (.create cfg rxBuf') timing onTimeout reqBuf respBuf reqBuf' respBuf'
    (handlers, world) (set.map (Service.interface target handlers.sessionControl))
  obtain ⟨first, shown⟩ := followed one ⟨.boot .., ⟨rfl, rfl, rfl, rfl⟩, left⟩ (clean one List.mem_cons_self)
  obtain ⟨second, shows⟩ := followed other ⟨.boot .., twins, left⟩
    (clean other (List.mem_cons_of_mem _ List.mem_cons_self))
  refine ⟨shown.trans shows.symm, ?_, ?_⟩
  · exact first.twins.session.symm.trans second.twins.session
  · exact first.twins.state.symm.trans second.twins.state

section

def readerHandlers : Handlers Unit := { Handlers.bare with readData := identifiers }

theorem copies_same (bytes : List Byte) (cells before : Region Byte) (room : Nat) :
    SameBytes (copies bytes cells room ()).1 (copies bytes before room ()).1 := by
  unfold copies
  split
  · exact ⟨rfl, .none cells before⟩
  · exact ⟨rfl, .written cells before bytes⟩

theorem readerHandlers_tidy : readerHandlers.Tidy := by
  have read : readerHandlers.readData.Tidy := by
    intro did member readFn given cells before room _
    rcases List.mem_cons.mp member with rfl | member
    · cases given
      exact ⟨copies_same vin cells before room, rfl⟩
    · rw [List.mem_singleton.mp member] at given
      cases given
      exact ⟨copies_same _ cells before room, rfl⟩
  exact ⟨read, fun _ none => (nomatch none), fun _ none => (nomatch none), fun _ none => (nomatch none),
    fun _ none => (nomatch none), fun _ none => (nomatch none), fun _ none => (nomatch none),
    fun _ none => (nomatch none), fun _ none => (nomatch none), fun _ none => (nomatch none)⟩

def buffered (value : Byte) : UdsServer (Ecu Unit) :=
  boot (.create kDefaultIsoTpConfig (Region.fill value)) kDefaultTiming none (Region.fill value) (Region.fill value)
    (readerHandlers, ())
    ([.readDataByIdentifier, .testerPresent].map (Service.interface .host readerHandlers.sessionControl))

theorem buffered_clean (value : Byte) (known : value = 0x00 ∨ value = 0xFF) :
    ∀ entry ∈ (udsServer (Ecu Unit)).trace (buffered value) (reads 0xF1 0x90 ++ [continues]),
      ¬ entry.before.Overwrites entry.event ∧ ¬ entry.before.Overreads .host entry.event := by
  intro entry member
  rcases List.mem_cons.mp member with rfl | member
  · exact ⟨id, id⟩
  · rcases List.mem_cons.mp member with rfl | member
    · rcases known with rfl | rfl
      · exact ⟨fun overwrites => absurd overwrites.1 (by decide), fun overreads => absurd overreads.1 (by decide)⟩
      · exact ⟨fun overwrites => absurd overwrites.1 (by decide), fun overreads => absurd overreads.1 (by decide)⟩
    · rw [List.mem_singleton.mp member]
      exact ⟨id, id⟩

theorem buffers_never_matter_vin :
    ((udsServer (Ecu Unit)).trace (buffered 0x00) (reads 0xF1 0x90 ++ [continues])).map Machine.Entry.output =
        ((udsServer (Ecu Unit)).trace (buffered 0xFF) (reads 0xF1 0x90 ++ [continues])).map Machine.Entry.output ∧
      ((udsServer (Ecu Unit)).run (buffered 0x00) (reads 0xF1 0x90 ++ [continues])).session =
        ((udsServer (Ecu Unit)).run (buffered 0xFF) (reads 0xF1 0x90 ++ [continues])).session ∧
      ((udsServer (Ecu Unit)).run (buffered 0x00) (reads 0xF1 0x90 ++ [continues])).state =
        ((udsServer (Ecu Unit)).run (buffered 0xFF) (reads 0xF1 0x90 ++ [continues])).state := by
  apply buffers_never_matter .host kDefaultIsoTpConfig kDefaultTiming none readerHandlers ()
    [.readDataByIdentifier, .testerPresent] readerHandlers_tidy (fun _ none => nomatch none)
  intro start member
  rcases List.mem_cons.mp member with rfl | member
  · exact buffered_clean 0x00 (Or.inl rfl)
  · rw [List.mem_singleton.mp member]
    exact buffered_clean 0xFF (Or.inr rfl)

end

end UdsServer

end Uds
