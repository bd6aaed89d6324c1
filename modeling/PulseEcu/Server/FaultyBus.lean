import PulseEcu.Server.MessageServer
import PulseEcu.Transport.FaultyBus

open Foundation

namespace Uds

open Transport

def arrival (cfg : IsoTpConfig) : ServerEvent → Option Pdu
  | .frame _ frame =>
    match readPdu cfg frame with
    | some (.flowControl ..) => none
    | pdu => pdu
  | .process .. => none

namespace UdsServer

variable {σ : Type} {cfg : IsoTpConfig} {s : UdsServer σ} {r : Receiver}

theorem Receives.frame (receives : Receives cfg s.transport r) (can : ICanInterface) (frame : CanFrame) :
    Receives cfg (s.processFrame can frame).1.transport
      (r.accept (grantFrame cfg) (can.getTickMs + cfg.nCrMs) (arrival cfg (.frame can frame))).1 := by
  have simulates := isoTp_simulates_receiver cfg
  by_cases control : ∃ status bs st, readPdu cfg frame = some (.flowControl status bs st)
  · obtain ⟨status, bs, st, read⟩ := control
    have nothing : heard cfg (s.frameEvent can frame) = none := by simp only [heard, frameEvent, read]
    have kept := simulates.rests receives trivial nothing
    simp only [arrival, read]
    exact kept
  · have other : ∀ status bs st, readPdu cfg frame ≠ some (.flowControl status bs st) :=
      fun status bs st read => control ⟨status, bs, st, read⟩
    have same : arrival cfg (.frame can frame) = readPdu cfg frame := by
      unfold arrival
      dsimp only
      split
      · rename_i read
        exact absurd read (other _ _ _)
      · rfl
    rw [same]
    exact (simulates.acts receives trivial (heard_other can (s.memory (Region.fill 0)) other)).1

/-- A call of `process` hands over what the receiver holds, and looks at the deadlines. -/
theorem Receives.process (receives : Receives cfg s.transport r) (can : ICanInterface) (tick : Word) :
    Receives cfg (s.process can tick).1.transport ((r.take true maxPayload).1.update can.getTickMs) ∧
      (handledRequest ((udsServer σ).entry s (.process can tick))).toList =
        match r with
        | .holding request => [request]
        | _ => [] := by
  have entry : handledRequest ((udsServer σ).entry s (.process can tick)) =
      if s.requestLen > 0 then some (s.request.load 0 s.requestLen) else none := rfl
  by_cases held : ∃ request, r = .holding request
  · obtain ⟨request, rfl⟩ := held
    obtain ⟨fetched, positive⟩ := fetch_holding receives rfl
    have length : s.requestLen = request.length := congrArg Prod.fst fetched
    have arrived : s.requestLen > 0 := by omega
    have cells : s.request = s.reqBuf.store 0 request := congrArg (fun f => f.2.reqBuf) fetched
    have transport : (s.awake tick).transport = (s.transport.getData true maxPayload).2 := by
      rw [UdsServer.awake, fetched]
    have taken := receives.getData true maxPayload
    rw [← transport] at taken
    have left := taken.of_rx ((s.awake tick).handleRequest_rx can s.requestLen) ((s.awake tick).handleRequest_cfg can _)
    constructor
    · rw [process_arrived s can tick arrived]
      exact left.update can.getTickMs
    · rw [entry, if_pos arrived, cells, length, Region.load_store]
      rfl
  · have empty : ∀ request, r ≠ .holding request := fun request holding => held ⟨request, holding⟩
    have silent := fetch_empty receives empty
    have none : ¬ s.requestLen > 0 := by
      rw [requestLen, silent]
      exact Nat.lt_irrefl 0
    have same : (r.take true maxPayload).1 = r := by
      cases r with
      | holding request => exact absurd rfl (empty request)
      | idle => rfl
      | collecting total bytes sn deadline => rfl
    constructor
    · rw [process_silent s can tick none, silent, same]
      exact receives.update can.getTickMs
    · rw [entry, if_neg none]
      cases r with
      | holding request => exact absurd rfl (empty request)
      | idle => rfl
      | collecting total bytes sn deadline => rfl

/-- The requests handled so far are genuine, and stay so along the run. -/
theorem run_genuine {messages : List (List Byte)} {positions all : List Position} {last : Option Position}
    {handed : List (List Byte)} (events : List ServerEvent) (receives : Receives cfg s.transport r)
    (sound : r.Sound messages all last handed) (came : ∀ pos ∈ positions, pos ∈ all)
    (bus : Arrives messages last positions (events.filterMap (arrival cfg))) :
    ∃ many, Genuine messages all many (handed ++ handledRequests ((udsServer σ).trace s events)) := by
  induction events generalizing s r last positions handed with
  | nil =>
    refine ⟨bound messages last, ?_⟩
    rw [Machine.trace, handledRequests, List.filterMap_nil, List.append_nil]
    exact sound.genuine
  | cons event events ih =>
    have record : handledRequests ((udsServer σ).trace s (event :: events)) =
        (handledRequest ((udsServer σ).entry s event)).toList ++
          handledRequests ((udsServer σ).trace ((udsServer σ).next s event) events) := by
      rw [Machine.trace, handledRequests, List.filterMap_cons]
      cases handledRequest ((udsServer σ).entry s event) with
      | none => rfl
      | some request => rfl
    rw [record, ← List.append_assoc]
    cases event with
    | frame can frame =>
      have next := Receives.frame receives can frame
      cases read : arrival cfg (.frame can frame) with
      | none =>
        rw [read] at next
        rw [List.filterMap_cons_none read] at bus
        refine ih next ?_ came bus
        rw [show (handledRequest ((udsServer σ).entry s (.frame can frame))).toList = [] from rfl, List.append_nil]
        cases r with
        | idle => exact sound
        | holding message => exact sound
        | collecting total bytes sn deadline => exact sound
      | some pdu =>
        rw [read] at next
        rw [List.filterMap_cons_some read] at bus
        cases bus with
        | frame follows same rest =>
          rename_i pos positions
          have here := came pos List.mem_cons_self
          refine ih next ?_ (fun other member => came other (List.mem_cons_of_mem pos member)) rest
          rw [show (handledRequest ((udsServer σ).entry s (.frame can frame))).toList = [] from rfl, List.append_nil]
          exact sound.frame follows here same _ _
    | process can tick =>
      obtain ⟨next, request⟩ := Receives.process receives can tick
      refine ih next ?_ came bus
      rw [request]
      apply Receiver.Sound.update
      cases r with
      | idle =>
        rw [List.append_nil]
        exact sound
      | holding message => exact sound
      | collecting total bytes sn deadline =>
        rw [List.append_nil]
        exact sound

/-- Over a bus that loses and repeats frames, the requests handled are some of the messages sent, in
    their order and each at most once: none that lost a frame, none made of parts of several. -/
theorem faulty_bus_never_forges (cfg : IsoTpConfig) (rxBuf : Region Byte) (timing : TimingConfig)
    (onTimeout : Option (σ → σ)) (reqBuf respBuf : Region Byte) (state : σ) (services : List (IService σ))
    (messages : List (List Byte)) (positions : List Position) (events : List ServerEvent)
    (bus : Arrives messages none positions (events.filterMap (arrival cfg))) :
    Genuine messages positions messages.length (handledRequests ((udsServer σ).trace
      (boot (.create cfg rxBuf) timing onTimeout reqBuf respBuf state services) events)) := by
  have transport := boot_transport (.create cfg rxBuf) timing onTimeout reqBuf respBuf state services
  have receives : Receives cfg (boot (.create cfg rxBuf) timing onTimeout reqBuf respBuf state services).transport
      .idle := by
    rw [transport]
    exact ⟨rfl, RxInvariant.create cfg rxBuf, rfl⟩
  have sound : Receiver.idle.Sound messages positions none [] := ⟨[], .nil, List.forall_mem_nil _, rfl⟩
  obtain ⟨_, numbers, increasing, genuine, same⟩ := run_genuine events receives sound (fun _ => id) bus
  refine ⟨numbers, increasing, fun j member => ?_, same⟩
  obtain ⟨_, known, whole⟩ := genuine j member
  exact ⟨known, known, whole⟩

def readsIdentifiers : List Byte := [0x22, 0xF1, 0x90, 0xF1, 0x8C, 0xF1, 0x87, 0xF1, 0x88]

def writesDate : List Byte := [0x2E, 0xF1, 0x99, 0x20, 0x26, 0x01, 0x31, 0x00, 0x01]

def heardFrame (bytes : List Byte) : ServerEvent := .frame .ready (.make 0x7DF bytes 8)

def faulty : List ServerEvent :=
  [heardFrame (0x10 :: 0x09 :: readsIdentifiers.take 6),
    heardFrame (0x10 :: 0x09 :: writesDate.take 6), heardFrame (0x10 :: 0x09 :: writesDate.take 6),
    heardFrame (0x21 :: writesDate.drop 6), heardFrame (0x21 :: writesDate.drop 6),
    .process .ready 1]

def bare : UdsServer Unit :=
  boot (.create kDefaultIsoTpConfig (Region.fill 0)) kDefaultTiming none (Region.fill 0) (Region.fill 0) () []

theorem faulty_bus_never_forges_date :
    Genuine [readsIdentifiers, writesDate] [(0, 0), (1, 0), (1, 0), (1, 1), (1, 1)] 2
        (handledRequests ((udsServer Unit).trace bare faulty)) ∧
      handledRequests ((udsServer Unit).trace bare faulty) = [writesDate] := by
  refine ⟨?_, by decide⟩
  apply faulty_bus_never_forges
  have padded : (writesDate.drop 6 ++ [0, 0, 0, 0]).take (9 - (6 + 7 * 0)) = segment writesDate 0 := by decide
  have second : ∀ pdu, pdu = Pdu.consecutive (sequenceNumber (0 + 1)) (writesDate.drop 6 ++ [0, 0, 0, 0]) →
      pdu.At [readsIdentifiers, writesDate] (1, 1) := by
    rintro _ rfl
    exact .consecutive (by decide) (by decide) (by decide) (by decide) padded
  refine .frame (by decide) (.first (by decide) (by decide)) ?_
  refine .frame (by decide) (.first (by decide) (by decide)) ?_
  refine .frame (by decide) (.first (by decide) (by decide)) ?_
  refine .frame (by decide) (second _ rfl) ?_
  exact .frame (by decide) (second _ rfl) (.nothing _)

/-- With the first frame of the second request lost and the rest of it not, its end would be taken
    for that of the first one. -/
example : handledRequests ((udsServer Unit).trace bare
    [heardFrame (0x10 :: 0x09 :: readsIdentifiers.take 6), heardFrame (0x21 :: writesDate.drop 6),
      .process .ready 1]) = [readsIdentifiers.take 6 ++ writesDate.drop 6] := by decide

end UdsServer

end Uds
