import PulseEcu.Transport.Emission
import PulseEcu.Transport.Reassembly

open Foundation

namespace Uds.Transport

structure Net where
  a : IsoTp
  b : IsoTp
  toA : List CanFrame
  toB : List CanFrame

def Net.Quiet (net : Net) : Prop := net.toA = [] ∧ net.toB = []

inductive Delivery where
  | toA (can : ICanInterface)
  | toB (can : ICanInterface)

def Delivery.can : Delivery → ICanInterface
  | .toA can => can
  | .toB can => can

def closedLoop (mem : Memory) : Machine Net Delivery (Option IsoTpResult) where
  step net
    | .toA can =>
      match net.toA with
      | [] => (net, none)
      | frame :: frames =>
        let outcome := net.a.processFrame can mem frame
        ({ net with a := outcome.state, toA := frames, toB := net.toB ++ outcome.sent }, none)
    | .toB can =>
      match net.toB with
      | [] => (net, none)
      | frame :: frames =>
        let outcome := net.b.processFrame can mem frame
        ({ net with b := outcome.state, toB := frames, toA := net.toA ++ outcome.sent }, some outcome.result)

structure Link where
  a : IsoTp
  b : IsoTp
  mem : Memory
  data : Pointer
  can : ICanInterface
  payload : List Byte
  lower : 8 ≤ payload.length
  upper : payload.length ≤ 4095
  forth : a.cfg.txId = b.cfg.rxId
  back : b.cfg.txId = a.cfg.rxId
  stored : (mem data).load 0 payload.length = payload
  reliable : can.Reliable

namespace Link

variable (link : Link)

def firstFrame : CanFrame := link.a.ffFrame link.mem link.data link.payload.length

def opened : Outcome := link.a.send link.can link.mem (some link.data) link.payload.length

def start : Net := ⟨link.opened.state, link.b, [], link.opened.sent⟩

def run (deliveries : List Delivery) : Net := (closedLoop link.mem).run link.start deliveries

def completions (deliveries : List Delivery) : Nat :=
  ((closedLoop link.mem).trace link.start deliveries).countP fun entry => entry.output = some .ok

/-- A has sent everything and B holds exactly the payload, completed once. -/
structure Agreed (deliveries : List Delivery) : Prop where
  idle : (link.run deliveries).a.txState = .idle
  all : (link.run deliveries).a.txOffset = link.payload.length
  ready : (link.run deliveries).b.dataReady = true
  payload : ((link.run deliveries).b.getData true maxPayload).1 = link.payload
  once : link.completions deliveries = 1

end Link

def TakenAsFc (frame : CanFrame) (fs bs : Byte) : Prop :=
  pciType frame = 3 ∧ frame.data 0 &&& 0x0F = fs ∧ frame.data 1 = bs

structure Link.Agreement (link : Link) : Prop where
  agreed : ∀ deliveries, (∀ delivery ∈ deliveries, delivery.can.Reliable) →
    (link.run deliveries).Quiet → link.Agreed deliveries
  flowControl : ∀ fs ∈ [kFcCts, kFcWait, kFcOvfl], ∀ bs stMin, TakenAsFc (link.b.fcFrame fs bs stMin) fs bs

theorem fcCts_rejected (s : IsoTp) (cfg : IsoTpConfig) (bs stMin : Byte) :
    Rejected cfg (s.fcFrame kFcCts bs stMin) := by
  refine Or.inr (Or.inr (Or.inr (Or.inl ⟨fcFrame_type s kFcCts bs stMin, Or.inl ?_⟩)))
  rw [fcFrame_status]
  rfl

inductive Phase (link : Link) : Net → Prop
  | announced : Phase link ⟨link.opened.state, link.b, [], [link.firstFrame]⟩
  | answered (b : IsoTp) (deadline : Nat) (bs stMin : Byte) (holds : Holds b link.payload 0 deadline) :
      Phase link ⟨link.opened.state, b, [link.b.fcFrame kFcCts bs stMin], []⟩
  | stalled (b : IsoTp) (deadline : Nat) (holds : Holds b link.payload 0 deadline) :
      Phase link ⟨link.opened.state, b, [], []⟩

section

variable (link : Link)

theorem Link.opened_spec : link.opened.sent = [link.firstFrame] ∧ link.opened.state.cfg = link.a.cfg ∧
    link.opened.state.txState = .waitFc ∧ link.opened.state.txOffset = 6 := by
  have lower := link.lower
  have upper := link.upper
  have fits : link.payload.length ≤ maxPayload := Nat.le_trans upper (by decide)
  rw [Link.opened, IsoTp.send_first link.can link.mem link.a link.data link.payload.length lower fits (link.reliable 0)]
  exact ⟨rfl, rfl, rfl, rfl⟩

theorem Link.start_announced : Phase link link.start := by
  rw [Link.start, link.opened_spec.1]
  exact .announced

theorem Link.deliver_first (can : ICanInterface) :
    ∃ b deadline, Holds b link.payload 0 deadline ∧
      (closedLoop link.mem).next ⟨link.opened.state, link.b, [], [link.firstFrame]⟩ (.toB can) =
        ⟨link.opened.state, b, [link.b.fcFrame kFcCts link.b.cfg.blockSize link.b.cfg.stMinMs], []⟩ := by
  have shape : IsFirstFrame link.b.cfg link.payload link.firstFrame :=
    ffFrame_shape link.a link.b.cfg link.forth.symm link.mem link.data link.payload link.stored link.lower link.upper
  obtain ⟨pending, holds⟩ := holds_first can link.mem link.b link.lower link.upper shape
  refine ⟨_, _, holds, ?_⟩
  have dlc : link.firstFrame.dlc ≠ 0 := by
    rw [shape.dlc]
    decide
  have handled := IsoTp.processFrame_first can link.mem link.b link.firstFrame shape.id dlc
    (shape.pciType link.upper)
  have sent : (link.b.processFrame can link.mem link.firstFrame).sent =
      [link.b.fcFrame kFcCts link.b.cfg.blockSize link.b.cfg.stMinMs] := by
    rcases IsoTp.handleFf_spec can link.b link.firstFrame with ⟨refused, _⟩ | ⟨_, accepted⟩
    · rw [handled, refused] at pending
      cases pending
    · rw [handled, accepted]
  show Net.mk _ _ ([] ++ _) [] = _
  rw [sent, List.nil_append]

theorem Link.deliver_answer (b : IsoTp) (bs stMin : Byte) (can : ICanInterface) :
    (closedLoop link.mem).next ⟨link.opened.state, b, [link.b.fcFrame kFcCts bs stMin], []⟩ (.toA can) =
      ⟨link.opened.state, b, [], []⟩ := by
  have ignored := rejected_ignored (s := link.opened.state) can link.mem (fcCts_rejected link.b _ bs stMin)
  show Net.mk (link.opened.state.processFrame can link.mem (link.b.fcFrame kFcCts bs stMin)).state b []
    ([] ++ (link.opened.state.processFrame can link.mem (link.b.fcFrame kFcCts bs stMin)).sent) = _
  rw [ignored, List.nil_append]

theorem Phase.next {net : Net} (phase : Phase link net) (delivery : Delivery) :
    Phase link ((closedLoop link.mem).next net delivery) := by
  cases phase with
  | announced =>
    cases delivery with
    | toA can => exact .announced
    | toB can =>
      obtain ⟨b, deadline, holds, reached⟩ := link.deliver_first can
      rw [reached]
      exact .answered b deadline _ _ holds
  | answered b deadline bs stMin holds =>
    cases delivery with
    | toA can =>
      rw [link.deliver_answer b bs stMin can]
      exact .stalled b deadline holds
    | toB can => exact .answered b deadline bs stMin holds
  | stalled b deadline holds =>
    cases delivery with
    | toA can => exact .stalled b deadline holds
    | toB can => exact .stalled b deadline holds

theorem Link.run_phase (deliveries : List Delivery) : Phase link (link.run deliveries) :=
  (closedLoop link.mem).run_invariant (fun _ delivery phase (_ : True) => phase.next link delivery)
    link.start deliveries link.start_announced fun _ _ => trivial

theorem Link.stalls (deliveries : List Delivery) (quiet : (link.run deliveries).Quiet) :
    (link.run deliveries).a.txState = .waitFc ∧ (link.run deliveries).a.txOffset = 6 ∧
      (link.run deliveries).b.dataReady = false := by
  obtain ⟨_, _, waiting, offset⟩ := link.opened_spec
  have phase := link.run_phase deliveries
  generalize link.run deliveries = net at phase quiet
  cases phase with
  | announced => cases quiet.2
  | answered b deadline bs stMin holds => cases quiet.1
  | stalled b deadline holds => exact ⟨waiting, offset, holds.ready⟩

theorem Link.goes_quiet (can : ICanInterface) : (link.run [.toB can, .toA can]).Quiet := by
  obtain ⟨b, deadline, holds, reached⟩ := link.deliver_first can
  rw [Link.run, Link.start, link.opened_spec.1, Machine.run_cons, reached, Machine.run_cons,
    link.deliver_answer, Machine.run_nil]
  exact ⟨rfl, rfl⟩

theorem Link.not_agreement : ¬ link.Agreement := by
  intro agreement
  have quiet := link.goes_quiet .ready
  have reliable : ∀ delivery ∈ [Delivery.toB .ready, Delivery.toA .ready], delivery.can.Reliable := by
    intro delivery member
    rcases List.mem_cons.mp member with rfl | member
    · exact ICanInterface.ready_reliable
    · rw [List.mem_singleton.mp member]
      exact ICanInterface.ready_reliable
  have agreed := agreement.agreed _ reliable quiet
  have waiting := (link.stalls _ quiet).1
  exact absurd (waiting.symm.trans agreed.idle) (by decide)

/-- No transmission that needs flow control ever ends in agreement: the first frame is all that
    A sends, and no frame of `send_fc` is flow control. -/
theorem closed_loop_stalls : ¬ link.Agreement ∧
    (∀ deliveries, (link.run deliveries).Quiet → (link.run deliveries).a.txState = .waitFc ∧
      (link.run deliveries).a.txOffset = 6 ∧ (link.run deliveries).b.dataReady = false) ∧
    ∀ fs bs stMin, ¬ TakenAsFc (link.b.fcFrame fs bs stMin) fs bs := by
  refine ⟨link.not_agreement, link.stalls, fun fs bs stMin taken => ?_⟩
  have single := fcFrame_type link.b fs bs stMin
  exact absurd (single.symm.trans taken.1) (by decide)

end

def eightLink : Link where
  a := .create { kDefaultIsoTpConfig with rxId := 0x7E8, txId := 0x7DF } (Region.fill 0)
  b := .create kDefaultIsoTpConfig (Region.fill 0)
  mem := fun _ => (Region.fill 0).store 0 eightBytes
  data := 0
  can := .ready
  payload := eightBytes
  lower := by decide
  upper := by decide
  forth := rfl
  back := rfl
  stored := rfl
  reliable := ICanInterface.ready_reliable

theorem closed_loop_eight : ¬ eightLink.Agreement := eightLink.not_agreement

end Uds.Transport
