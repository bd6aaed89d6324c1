import PulseEcu.Foundation.Run
import PulseEcu.Services.SessionServices
import PulseEcu.Transport.Views

open Foundation

namespace Uds

open Transport

/-- The services behind the interface, by what they may do to the session: two of them change
    it, the others read it. `σ` is the memory of all services and of the application. -/
inductive IService (σ : Type) where
  | diagnosticSessionControl (svc : DiagnosticSessionControlService σ)
  | testerPresent
  | reading (serviceId : ServiceId) (handle : Region Byte → Nat → Region Byte → Nat → UdsSession → σ → Answer σ)

namespace IService

variable {σ : Type}

def serviceId : IService σ → ServiceId
  | diagnosticSessionControl _ => DiagnosticSessionControlService.serviceId
  | testerPresent => TesterPresentService.serviceId
  | reading sid _ => sid

def handle (svc : IService σ) (req : Region Byte) (reqLen : Nat) (resp : Region Byte) (respLen : Nat)
    (session : UdsSession) (state : σ) : Answer σ × UdsSession :=
  match svc with
  | diagnosticSessionControl svc =>
    let handled := svc.handle req reqLen resp respLen session state
    (handled.1.toAnswer, handled.2)
  | testerPresent =>
    let handled := TesterPresentService.handle req reqLen resp respLen session state
    (handled.1.toAnswer, handled.2)
  | reading _ handle => (handle req reqLen resp respLen session state, session)

end IService

def kMaxServices : Nat := 32

/-- The pointers that the server passes to `IsoTp::send`: `m_resp_buf`, and the buffer of
    `send_nrc`, which is gone when the call returns. -/
def respBufPtr : Pointer := 0
def nrcBufPtr : Pointer := 1

/-- `onTimeout` is the timeout callback of the session. -/
structure UdsServer (σ : Type) where
  transport : IsoTp
  session : UdsSession
  services : List (IService σ)
  onTimeout : Option (σ → σ)
  reqBuf : Region Byte
  respBuf : Region Byte
  state : σ

namespace UdsServer

variable {σ : Type}

/-- The constructor; `reqBuf` and `respBuf` are the uninitialised buffers. -/
def create (transport : IsoTp) (timing : TimingConfig) (onTimeout : Option (σ → σ)) (reqBuf respBuf : Region Byte)
    (state : σ) : UdsServer σ :=
  ⟨transport, .create timing, [], onTimeout, reqBuf, respBuf, state⟩

def registerService (s : UdsServer σ) (service : IService σ) : Bool × UdsServer σ :=
  if s.services.length ≥ kMaxServices then (false, s)
  else if s.services.any fun other => other.serviceId = service.serviceId then (false, s)
  else (true, { s with services := s.services ++ [service] })

def boot (transport : IsoTp) (timing : TimingConfig) (onTimeout : Option (σ → σ)) (reqBuf respBuf : Region Byte)
    (state : σ) (services : List (IService σ)) : UdsServer σ :=
  services.foldl (fun s service => (s.registerService service).2)
    (.create transport timing onTimeout reqBuf respBuf state)

theorem registerService_cases (s : UdsServer σ) (service : IService σ) : (s.registerService service).2 = s ∨
    (s.registerService service).2 = { s with services := s.services ++ [service] } := by
  unfold registerService
  split
  · exact Or.inl rfl
  · split
    · exact Or.inl rfl
    · exact Or.inr rfl

theorem boot_induction {Good : UdsServer σ → Prop} {transport : IsoTp} {timing : TimingConfig}
    {onTimeout : Option (σ → σ)} {reqBuf respBuf : Region Byte} {state : σ} {services : List (IService σ)}
    (created : Good (.create transport timing onTimeout reqBuf respBuf state))
    (registered : ∀ service ∈ services, ∀ s : UdsServer σ,
      Good s → Good { s with services := s.services ++ [service] }) :
    Good (boot transport timing onTimeout reqBuf respBuf state services) := by
  unfold boot
  generalize UdsServer.create transport timing onTimeout reqBuf respBuf state = s at created ⊢
  induction services generalizing s with
  | nil => exact created
  | cons service services ih =>
    apply ih (fun other member => registered other (List.mem_cons_of_mem service member))
    show Good (s.registerService service).2
    rcases s.registerService_cases service with same | added
    · rw [same]
      exact created
    · rw [added]
      exact registered service List.mem_cons_self s created

def findService (s : UdsServer σ) (sid : ServiceId) : Option (IService σ) :=
  s.services.find? fun service => service.serviceId = sid

/-- What a pointer into the server's memory reads; `nrc` is the buffer of `send_nrc`. -/
def memory (s : UdsServer σ) (nrc : Region Byte) : Memory :=
  fun p => if p = respBufPtr then s.respBuf else if p = nrcBufPtr then nrc else Region.fill 0

def sendResponse (can : ICanInterface) (mem : Memory) (s : UdsServer σ) (data : Pointer) (len : Nat) :
    UdsServer σ × List CanFrame :=
  let outcome := s.transport.send can mem (some data) len
  ({ s with transport := outcome.state }, outcome.sent)

def sendNrc (can : ICanInterface) (s : UdsServer σ) (sid : ServiceId) (nrc : NrcCode) :
    UdsServer σ × List CanFrame :=
  let buf := (Region.fill 0).store 0 [ServiceId.negativeResponse, sid, nrc.toByte]
  s.sendResponse can (s.memory buf) nrcBufPtr 3

def handleRequest (can : ICanInterface) (s : UdsServer σ) (len : Nat) : UdsServer σ × List CanFrame :=
  if len = 0 then (s, [])
  else
    let sid : ServiceId := s.reqBuf 0
    match s.findService sid with
    | none => s.sendNrc can sid .serviceNotSupported
    | some svc =>
      let handled := svc.handle s.reqBuf len s.respBuf maxPayload s.session s.state
      let s' := { s with respBuf := handled.1.resp, session := handled.2, state := handled.1.state }
      if handled.1.send ∧ handled.1.respLen > 0 then
        s'.sendResponse can (s'.memory (Region.fill 0)) respBufPtr handled.1.respLen
      else (s', [])

/-- `data_available()` and `get_data` into `m_req_buf`; the number of bytes fetched. -/
def fetch (s : UdsServer σ) : Nat × UdsServer σ :=
  if s.transport.dataReady then
    let got := s.transport.getData true maxPayload
    (got.1.length, { s with transport := got.2, reqBuf := s.reqBuf.store 0 got.1 })
  else (0, s)

def finish (can : ICanInterface) (tick : Word) (s : UdsServer σ) : UdsServer σ :=
  let updated := s.session.update tick
  { s with
    transport := s.transport.update can.getTickMs
    session := updated.1
    state := if updated.2 then (s.onTimeout.getD id) s.state else s.state }

/-- `tick` is what the server's tick provider returns. -/
def process (can : ICanInterface) (tick : Word) (s : UdsServer σ) : UdsServer σ × List CanFrame :=
  let fetched := s.fetch
  if fetched.1 > 0 then
    let alive := { fetched.2 with session := fetched.2.session.keepAlive tick }
    let handled := alive.handleRequest can fetched.1
    (handled.1.finish can tick, handled.2)
  else (fetched.2.finish can tick, [])

def processFrame (can : ICanInterface) (s : UdsServer σ) (frame : CanFrame) : UdsServer σ × Outcome :=
  let outcome := s.transport.processFrame can (s.memory (Region.fill 0)) frame
  ({ s with transport := outcome.state }, outcome)

end UdsServer

inductive ServerEvent where
  | frame (can : ICanInterface) (frame : CanFrame)
  | process (can : ICanInterface) (tick : Word)

def udsServer (σ : Type) : Machine (UdsServer σ) ServerEvent (List CanFrame) where
  step s
    | .frame can frame =>
      let handled := s.processFrame can frame
      (handled.1, handled.2.sent)
    | .process can tick => s.process can tick

abbrev UdsServer.Entry (σ : Type) := Machine.Entry (UdsServer σ) ServerEvent (List CanFrame)

end Uds
