import PulseEcu.Foundation.Bus
import PulseEcu.Server.InFlight
import PulseEcu.Server.RequestDelivery
import PulseEcu.Transport.Sweep

open Foundation

namespace Uds

namespace Transport

variable {s : IsoTp} (can : ICanInterface) (mem : Memory)

theorem nextCfs_id (s : IsoTp) (n : Nat) : ∀ frame ∈ s.nextCfs mem n, frame.id = s.cfg.txId := by
  induction n generalizing s with
  | zero => exact List.forall_mem_nil _
  | succ n ih => exact List.forall_mem_cons.mpr ⟨rfl, ih s.advance⟩

theorem Sweep.sent_id {n : Nat} {outcome : Outcome} (sweep : Sweep can mem s n [] outcome) :
    ∀ frame ∈ outcome.sent, frame.id = s.cfg.txId := by
  cases sweep with
  | refused i _ _ _ => exact nextCfs_id mem s (i + 1)
  | paused _ _ => exact nextCfs_id mem s n
  | finished _ _ => exact nextCfs_id mem s n

theorem processFrame_id (s : IsoTp) (frame : CanFrame) :
    ∀ reply ∈ (s.processFrame can mem frame).sent, reply.id = s.cfg.txId := by
  cases processFrame_effect can mem s frame with
  | quiet tx sent unanswered =>
    intro reply member
    rw [sent reply member]
    rfl
  | waited waiting fc handled =>
    rw [handled]
    exact List.forall_mem_nil _
  | aborted waiting fs fc other state sent =>
    rw [sent]
    exact List.forall_mem_nil _
  | swept waiting fc sweep => exact sweep.sent_id can mem

theorem send_id (s : IsoTp) (data : Option Pointer) (length : Nat) :
    ∀ frame ∈ (s.send can mem data length).sent, frame.id = s.cfg.txId := by
  cases send_effect can mem s data length with
  | refused bad handled =>
    rw [handled]
    exact List.forall_mem_nil _
  | single source given some short state sent =>
    rw [sent]
    exact List.forall_mem_singleton.mpr rfl
  | blocked source given long fits refusal state sent =>
    rw [sent]
    exact List.forall_mem_singleton.mpr rfl
  | first source given multi handled =>
    rw [handled]
    exact List.forall_mem_singleton.mpr rfl

end Transport

open Transport

namespace UdsServer

variable {σ : Type} (s : UdsServer σ) (can : ICanInterface)

theorem sendResponse_id (mem : Memory) (data : Pointer) (length : Nat) :
    ∀ frame ∈ (s.sendResponse can mem data length).2, frame.id = s.transport.cfg.txId :=
  send_id can mem s.transport (some data) length

theorem handleRequest_id (length : Nat) :
    ∀ frame ∈ (s.handleRequest can length).2, frame.id = s.transport.cfg.txId := by
  simp only [handleRequest]
  split
  · exact List.forall_mem_nil _
  · cases s.findService (s.reqBuf 0) with
    | none => exact sendResponse_id _ can _ _ _
    | some svc =>
      dsimp only
      split
      · exact sendResponse_id _ can _ _ _
      · exact List.forall_mem_nil _

theorem process_id (tick : Word) : ∀ frame ∈ (s.process can tick).2, frame.id = s.transport.cfg.txId := by
  by_cases arrived : s.requestLen > 0
  · have cfg : (s.awake tick).transport.cfg = s.transport.cfg := s.fetch_cfg
    have handled := (s.awake tick).handleRequest_id can s.requestLen
    rw [cfg] at handled
    rw [process_arrived s can tick arrived]
    exact handled
  · rw [process_silent s can tick arrived]
    exact List.forall_mem_nil _

/-- All that an ECU sends goes out under its own identifier. -/
theorem output_id (event : ServerEvent) :
    ∀ frame ∈ (udsServer σ).output s event, frame.id = s.transport.cfg.txId := by
  cases event with
  | frame can frame => exact processFrame_id can (s.memory (Region.fill 0)) s.transport frame
  | process can tick => exact s.process_id can tick

theorem foreign_ignored (frame : CanFrame) (foreign : frame.id ≠ s.transport.cfg.rxId) :
    (udsServer σ).step s (.frame can frame) = (s, []) := by
  have rejected : Rejected s.transport.cfg frame := Or.inl foreign
  show (({ s with transport := (s.fed can frame).state } : UdsServer σ), (s.fed can frame).sent) = (s, [])
  rw [fed, rejected_ignored can _ rejected]

end UdsServer

section

variable {ι : Type} (σ : ι → Type)

def ecus : Nodes ι ServerEvent ICanInterface (ICanInterface × Word) CanFrame fun i => UdsServer (σ i) where
  machine i := udsServer (σ i)
  read := .frame
  act call := .process call.1 call.2

/-- ECUs that share a bus do not get into each other's way: where no other ECU sends under the identifier that
    one receives on, the requests it is fed all come from the testers, in order, and it does what it would do
    alone on a bus with them. -/
theorem ecus_isolated [DecidableEq ι] (start : (i : ι) → UdsServer (σ i)) (i : ι)
    (apart : ∀ j, j ≠ i → (start j).transport.cfg.txId ≠ (start i).transport.cfg.rxId)
    (events : List (BusEvent ι ICanInterface (ICanInterface × Word) CanFrame)) :
    Bus.Isolated (ecus σ) i (·.id = (start i).transport.cfg.rxId) (start i) events
      ((Bus.machine (ecus σ)).trace ⟨start, fun _ => []⟩ events)
      ((Bus.machine (ecus σ)).run ⟨start, fun _ => []⟩ events) := by
  have alone : Bus.Private (ecus σ) (fun j s => s.transport.cfg = (start j).transport.cfg) i
      (·.id = (start i).transport.cfg.rxId) := by
    constructor
    · intro j s event same
      exact (UdsServer.run_transport_cfg s [event]).trans same
    · intro s can frame same foreign
      rw [← same] at foreign
      exact s.foreign_ignored can frame foreign
    · intro j s event same other frame member mine
      have id := s.output_id event frame member
      rw [same] at id
      exact apart j other (id.symm.trans mine)
  exact alone.isolated start (fun _ => rfl) events

end

def neighbour (i : Fin 2) : UdsServer Unit :=
  let ids : Word × Word := if i = 0 then (0x7E0, 0x7E8) else (0x7E1, 0x7E9)
  .boot (.create { kDefaultIsoTpConfig with rxId := ids.1, txId := ids.2 } (Region.fill 0)) kDefaultTiming none
    (Region.fill 0) (Region.fill 0) () [.testerPresent]

def bothAsked : List (BusEvent (Fin 2) ICanInterface (ICanInterface × Word) CanFrame) :=
  [.inject (.make 0x7E0 [0x02, 0x3E, 0x00] 3), .inject (.make 0x7E1 [0x02, 0x10, 0x03] 3), .read 0 .ready,
    .act 0 (.ready, 1), .read 1 .ready, .read 1 .ready, .read 1 .ready, .act 1 (.ready, 1)]

theorem ecus_isolated_two :
    Bus.Isolated (ecus fun _ => Unit) (1 : Fin 2) (·.id = 0x7E1) (neighbour 1) bothAsked
        ((Bus.machine (ecus fun _ => Unit)).trace ⟨neighbour, fun _ => []⟩ bothAsked)
        ((Bus.machine (ecus fun _ => Unit)).run ⟨neighbour, fun _ => []⟩ bothAsked) ∧
      (((Bus.machine (ecus fun _ => Unit)).trace ⟨neighbour, fun _ => []⟩ bothAsked).flatMap
        (Bus.sentBy (1 : Fin 2))).map (fun frame => (frame.id, frame.data.load 0 4)) =
          [(0x7E9, [0x03, 0x7F, 0x10, 0x11])] := by
  refine ⟨ecus_isolated (fun _ => Unit) neighbour 1 (fun j other => ?_) bothAsked, by decide⟩
  have first : j = 0 := by omega
  subst first
  decide

end Uds
