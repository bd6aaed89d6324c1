import PulseEcu.Server.SessionEffect
import PulseEcu.Services.ReadDataByIdentifier
import PulseEcu.Transport.Emission

open Foundation

namespace Uds.UdsServer

open Transport

variable {σ : Type}

def reply (s : UdsServer σ) (tick : Word) : Option (Answer σ) :=
  if s.requestLen > 0 then
    s.taker.map fun svc =>
      (svc.handle s.request s.requestLen s.respBuf maxPayload (s.session.keepAlive tick) s.state).1
  else none

def Accepts (s : UdsServer σ) (can : ICanInterface) (tick : Word) (message : List Byte) : Prop :=
  ∃ answer, s.reply tick = some answer ∧ answer.send = true ∧ Multi can answer.respLen ∧
    answer.resp.load 0 answer.respLen = message

/-- A handler changes bytes of the response buffer that a transmission has yet to send, and
    its own response does not take the place of that transmission. -/
def Overwrites (s : UdsServer σ) : ServerEvent → Prop
  | .frame _ _ => False
  | .process can tick => s.transport.txState = .waitFc ∧
      (∃ answer i, s.reply tick = some answer ∧ s.transport.txOffset ≤ i ∧ i < s.transport.txTotal ∧
        answer.resp i ≠ s.respBuf i) ∧
      ∀ message, ¬ s.Accepts can tick message

structure InFlight (s : UdsServer σ) (message : List Byte) (k : Nat) : Prop where
  data : s.transport.txData = some respBufPtr
  sends : Sends s.transport (s.memory (Region.fill 0)) message k

section

variable (s : UdsServer σ) (can : ICanInterface) (tick : Word)

theorem fetch_tx : s.fetch.2.transport.tx = s.transport.tx := by
  unfold fetch
  split
  · exact IsoTp.getData_tx s.transport true maxPayload
  · rfl

theorem fetch_respBuf : s.fetch.2.respBuf = s.respBuf := by
  unfold fetch
  split <;> rfl

theorem sendResponse_sent (mem : Memory) (data : Pointer) (len : Nat) :
    cfsOf (s.sendResponse can mem data len).2 = [] :=
  cfsOf_eq_nil (send_sent can s.transport (some data) len)

theorem sendResponse_other (mem : Memory) (data : Pointer) (len : Nat) (other : ¬ Multi can len) :
    (s.sendResponse can mem data len).1.transport = s.transport :=
  send_other can s.transport data len other

def answerTo (len : Nat) : Option (Answer σ) :=
  (s.findService (s.reqBuf 0)).map fun svc => (svc.handle s.reqBuf len s.respBuf maxPayload s.session s.state).1

structure Responds (before : UdsServer σ) (can : ICanInterface) (answer : Option (Answer σ))
    (after : UdsServer σ × List CanFrame) : Prop where
  respBuf : after.1.respBuf = (answer.map Answer.resp).getD before.respBuf
  sent : cfsOf after.2 = []
  accepted : ∀ given, answer = some given → given.send = true → Multi can given.respLen →
    ∃ mem : Memory, mem respBufPtr = given.resp ∧
      after.1.transport = (before.transport.send can mem (some respBufPtr) given.respLen).state
  other : (∀ given, answer = some given → given.send = true → ¬ Multi can given.respLen) →
    after.1.transport = before.transport

theorem handleRequest_responds (len : Nat) (arrived : len > 0) :
    Responds s can (s.answerTo len) (s.handleRequest can len) := by
  simp only [handleRequest, answerTo, if_neg (Nat.ne_of_gt arrived)]
  cases s.findService (s.reqBuf 0) with
  | none =>
    have short : ¬ Multi can 3 := fun multi => absurd multi.1 (by decide)
    refine ⟨rfl, sendResponse_sent .., fun given none => ?_, fun _ => sendResponse_other _ can _ _ _ short⟩
    cases none
  | some svc =>
    dsimp only [Option.map_some]
    split
    · rename_i sends
      refine ⟨rfl, sendResponse_sent .., fun given same _ _ => ?_, fun other => ?_⟩
      · cases same
        exact ⟨_, rfl, rfl⟩
      · exact sendResponse_other _ can _ _ _ (other _ rfl sends.1)
    · rename_i silent
      refine ⟨rfl, rfl, fun given same send multi => ?_, fun _ => rfl⟩
      cases same
      exact absurd ⟨send, Nat.lt_of_lt_of_le (by decide) multi.1⟩ silent

theorem reply_eq (arrived : s.requestLen > 0) : s.reply tick = (s.awake tick).answerTo s.requestLen := by
  unfold reply answerTo taker request findService awake
  rw [if_pos arrived, fetch_session, fetch_services, fetch_respBuf, fetch_state]

theorem process_responds (arrived : s.requestLen > 0) :
    Responds (s.awake tick) can (s.reply tick) ((s.awake tick).handleRequest can s.requestLen) := by
  rw [s.reply_eq tick arrived]
  exact handleRequest_responds (s.awake tick) can s.requestLen arrived

theorem reply_silent (silent : ¬ s.requestLen > 0) : s.reply tick = none := if_neg silent

theorem process_respBuf : (s.process can tick).1.respBuf = ((s.reply tick).map Answer.resp).getD s.respBuf := by
  by_cases arrived : s.requestLen > 0
  · rw [process_arrived s can tick arrived, ← s.fetch_respBuf]
    exact (s.process_responds can tick arrived).respBuf
  · rw [process_silent s can tick arrived, s.reply_silent tick arrived]
    exact s.fetch_respBuf

theorem process_sent : cfsOf (s.process can tick).2 = [] := by
  by_cases arrived : s.requestLen > 0
  · rw [process_arrived s can tick arrived]
    exact (s.process_responds can tick arrived).sent
  · rw [process_silent s can tick arrived]
    rfl

theorem Accepts.inFlight {message : List Byte} (accepts : s.Accepts can tick message)
    (waiting : (s.process can tick).1.transport.txState = .waitFc) : InFlight (s.process can tick).1 message 0 := by
  obtain ⟨answer, given, send, multi, bytes⟩ := accepts
  have arrived : s.requestLen > 0 := by
    refine Decidable.byContradiction fun silent => ?_
    cases (s.reply_silent tick silent).symm.trans given
  have responds := s.process_responds can tick arrived
  obtain ⟨mem, cells, transport⟩ := responds.accepted answer given send multi
  have buf : (s.process can tick).1.respBuf = answer.resp := by
    rw [process_respBuf, given]
    rfl
  rw [process_arrived s can tick arrived] at waiting buf ⊢
  have tx := IsoTp.update_waiting can.getTickMs _ waiting
  have sent := congrArg IsoTp.tx transport
  rw [← cells] at bytes
  obtain ⟨data, sends⟩ := send_multi can (s.awake tick).transport respBufPtr answer.respLen multi bytes
  have pointer := (congrArg TxView.data (tx.trans sent)).trans data
  refine ⟨pointer, (sends.of_tx (tx.trans sent)).of_memory pointer fun i _ _ => ?_⟩
  rw [cells, ← buf]
  rfl

theorem process_other (other : ∀ message, ¬ s.Accepts can tick message)
    (waiting : (s.process can tick).1.transport.txState = .waitFc) :
    (s.process can tick).1.transport.tx = s.transport.tx := by
  by_cases arrived : s.requestLen > 0
  · have transport := (s.process_responds can tick arrived).other fun given same send multi =>
      other _ ⟨given, same, send, multi, rfl⟩
    rw [process_arrived s can tick arrived] at waiting ⊢
    have tx := IsoTp.update_waiting can.getTickMs _ waiting
    exact (tx.trans (congrArg IsoTp.tx transport)).trans s.fetch_tx
  · rw [process_silent s can tick arrived] at waiting ⊢
    exact (IsoTp.update_waiting can.getTickMs s.fetch.2.transport waiting).trans s.fetch_tx

theorem sendResponse_cfg (mem : Memory) (data : Pointer) (len : Nat) :
    (s.sendResponse can mem data len).1.transport.cfg = s.transport.cfg :=
  IsoTp.next_cfg s.transport (.send can mem (some data) len)

theorem handleRequest_cfg (len : Nat) : (s.handleRequest can len).1.transport.cfg = s.transport.cfg := by
  simp only [handleRequest]
  split
  · rfl
  · cases s.findService (s.reqBuf 0) with
    | none => exact sendResponse_cfg ..
    | some svc =>
      dsimp only
      split
      · exact sendResponse_cfg ..
      · rfl

theorem finish_cfg : (s.finish can tick).transport.cfg = s.transport.cfg :=
  IsoTp.next_cfg s.transport (.update can.getTickMs)

theorem fetch_cfg : s.fetch.2.transport.cfg = s.transport.cfg := by
  unfold fetch
  split
  · exact IsoTp.next_cfg s.transport (.getData true maxPayload)
  · rfl

theorem process_cfg : (s.process can tick).1.transport.cfg = s.transport.cfg := by
  by_cases arrived : s.requestLen > 0
  · rw [process_arrived s can tick arrived, finish_cfg, handleRequest_cfg]
    exact s.fetch_cfg
  · rw [process_silent s can tick arrived, finish_cfg]
    exact s.fetch_cfg

end

def Accepting (s : UdsServer σ) (message : List Byte) : ServerEvent → Prop
  | .frame _ _ => False
  | .process can tick => s.Accepts can tick message

def cfsDuring (entries : List (Entry σ)) : List CanFrame := cfsOf (entries.flatMap Machine.Entry.output)

structure Transmits (cfg : IsoTpConfig) (message : List Byte) (later : List (Entry σ)) (s : UdsServer σ)
    (k : Nat) : Prop where
  sent : cfsDuring later = (List.range' 0 k).map (segmentFrame cfg message)
  cfg : s.transport.cfg = cfg
  waits : s.transport.txState = .waitFc → InFlight s message k

variable {s : UdsServer σ} {cfg : IsoTpConfig} {message : List Byte} {later : List (Entry σ)} {k : Nat}

theorem cfsDuring_snoc (entry : Entry σ) : cfsDuring (later ++ [entry]) = cfsDuring later ++ cfsOf entry.output := by
  simp [cfsDuring, cfsOf]

theorem InFlight.handled (flight : InFlight s message k) (can : ICanInterface) (tick : Word)
    (kept : ¬ s.Overwrites (.process can tick)) (other : ∀ message, ¬ s.Accepts can tick message)
    (waiting : s.transport.txState = .waitFc) (same : (s.process can tick).1.transport.tx = s.transport.tx) :
    InFlight (s.process can tick).1 message k := by
  have buf := s.process_respBuf can tick
  have pointer : (s.process can tick).1.transport.txData = some respBufPtr :=
    (congrArg TxView.data same).trans flight.data
  refine ⟨pointer, (flight.sends.of_tx same).of_memory pointer fun i started left => ?_⟩
  have offset : (s.process can tick).1.transport.txOffset = s.transport.txOffset := congrArg TxView.offset same
  have total : (s.process can tick).1.transport.txTotal = s.transport.txTotal := congrArg TxView.total same
  show (s.process can tick).1.respBuf i = s.respBuf i
  rw [buf]
  cases replied : s.reply tick with
  | none => rfl
  | some answer =>
    refine Decidable.byContradiction fun changed => kept ⟨waiting, ⟨answer, i, replied, ?_, ?_, changed⟩, other⟩
    · rw [← offset]
      exact started
    · rw [← total]
      exact left

theorem Transmits.next (transmits : Transmits cfg message later s k) (event : ServerEvent)
    (kept : ¬ s.Overwrites event) (other : ∀ message, ¬ s.Accepting message event) :
    ∃ n, Transmits cfg message (later ++ [(udsServer σ).entry s event]) ((udsServer σ).next s event) n := by
  cases event with
  | frame can frame =>
    have sends : s.transport.txState = .waitFc → Sends s.transport (s.memory (Region.fill 0)) message k :=
      fun waiting => (transmits.waits waiting).sends
    obtain ⟨count, sent, waits⟩ := processFrame_hands can frame sends
    refine ⟨k + count, ?_, (IsoTp.processFrame_cfg ..).trans transmits.cfg, fun waiting => ?_⟩
    · have output : cfsOf ((udsServer σ).entry s (.frame can frame)).output = _ := sent
      rw [cfsDuring_snoc, transmits.sent, output, transmits.cfg, ← List.map_append, ← List.range'_append_1,
        Nat.zero_add]
    · -- a frame never starts a transmission, so this one waited before
      have before : s.transport.txState = .waitFc := by
        refine Decidable.byContradiction fun idle => idle ?_
        have same := IsoTp.processFrame_tx can (s.memory (Region.fill 0)) s.transport frame idle
        exact (congrArg TxView.state same).symm.trans waiting
      exact ⟨(IsoTp.processFrame_txData ..).trans (transmits.waits before).data, waits waiting⟩
  | process can tick =>
    refine ⟨k, ?_, (s.process_cfg can tick).trans transmits.cfg, fun waiting => ?_⟩
    · have output : cfsOf ((udsServer σ).entry s (.process can tick)).output = [] := s.process_sent can tick
      rw [cfsDuring_snoc, transmits.sent, output, List.append_nil]
    · have same := s.process_other can tick other waiting
      have before := (congrArg TxView.state same).symm.trans waiting
      exact (transmits.waits before).handled can tick kept other before same

/-- Every consecutive frame that goes out for an accepted response, until another one is
    accepted, carries the bytes the response had then. -/
def Intact (start : UdsServer σ) (events : List ServerEvent) : Prop :=
  ∀ past entry later rest message, (udsServer σ).trace start events = past ++ entry :: (later ++ rest) →
    entry.before.Accepting message entry.event →
    (∀ other ∈ later, ∀ newer, ¬ other.before.Accepting newer other.event) →
    ∃ n, cfsDuring later = (List.range n).map (segmentFrame start.transport.cfg message)

theorem run_transport_cfg (start : UdsServer σ) (events : List ServerEvent) :
    ((udsServer σ).run start events).transport.cfg = start.transport.cfg := by
  induction events generalizing start with
  | nil => rfl
  | cons event events ih =>
    rw [Machine.run_cons, ih]
    cases event with
    | frame can frame => exact IsoTp.processFrame_cfg ..
    | process can tick => exact start.process_cfg can tick

theorem response_integrity (start : UdsServer σ) (events : List ServerEvent)
    (kept : ∀ entry ∈ (udsServer σ).trace start events, ¬ entry.before.Overwrites entry.event) :
    Intact start events := by
  intro past entry later rest message split accepting others
  have kept' : ∀ other ∈ later, ¬ other.before.Overwrites other.event := by
    intro other member
    have among := List.mem_append_right past (List.mem_cons_of_mem entry (List.mem_append_left rest member))
    exact kept other (by rw [split]; exact among)
  obtain ⟨first, event, _, _, _, rfl, remains⟩ := (udsServer σ).trace_split split
  obtain ⟨begun, _, _, rfl, _⟩ := (udsServer σ).trace_cut remains.symm
  cases event with
  | frame can frame => cases accepting
  | process can tick =>
    have cfg := run_transport_cfg start first
    generalize (udsServer σ).run start first = s at *
    have opened : Transmits start.transport.cfg message [] (s.process can tick).1 0 :=
      ⟨rfl, (s.process_cfg can tick).trans cfg, Accepts.inFlight s can tick accepting⟩
    obtain ⟨n, transmits⟩ := (udsServer σ).trace_invariant
      (fun later s event (transmits : ∃ n, Transmits start.transport.cfg message later s n)
          (allowed : ¬ s.Overwrites event ∧ ∀ message, ¬ s.Accepting message event) => by
        obtain ⟨n, transmits⟩ := transmits
        exact transmits.next event allowed.1 allowed.2)
      (s.process can tick).1 begun ⟨0, opened⟩ fun other member => ⟨kept' other member, others other member⟩
    refine ⟨n, transmits.sent.trans ?_⟩
    rw [List.range_eq_range']

section

def copies (bytes : List Byte) : Region Byte → Nat → Unit → (Region Byte × Nat) × Unit :=
  fun buf maxLen _ => if bytes.length > maxLen then ((buf, 0), ()) else ((buf.store 0 bytes, bytes.length), ())

def vin : List Byte :=
  [0x57, 0x56, 0x57, 0x5A, 0x5A, 0x5A, 0x31, 0x4A, 0x5A, 0x33, 0x57, 0x33, 0x38, 0x36, 0x37, 0x35, 0x32]

def identifiers : ReadDataByIdentifierService Unit :=
  ((ReadDataByIdentifierService.create.registerDid ⟨0xF190, false, some (copies vin), none⟩).2.registerDid
    ⟨0xF189, false, some (copies [0x01, 0x00, 0x05, 0x00]), none⟩).2

def reader : UdsServer Unit :=
  boot (.create kDefaultIsoTpConfig (Region.fill 0)) kDefaultTiming none (Region.fill 0) (Region.fill 0) ()
    [identifiers.service]

def readerCan : ICanInterface := ⟨10, fun _ => true⟩

def reads (high low : Byte) : List ServerEvent :=
  [.frame readerCan (.make 0x7DF [0x03, 0x22, high, low] 4), .process readerCan 10]

def continues : ServerEvent := .frame readerCan (.make 0x7DF [0x30, 0x00, 0x00] 3)

def unserved : List ServerEvent := [.frame readerCan (.make 0x7DF [0x02, 0x3E, 0x00] 3), .process readerCan 10]

/-- The unserved request is answered while the response waits for its flow control frame. -/
theorem response_integrity_vin : Intact reader (reads 0xF1 0x90 ++ unserved ++ [continues]) := by
  refine response_integrity reader (reads 0xF1 0x90 ++ unserved ++ [continues]) fun entry member overwrites => ?_
  have unanswered : (((udsServer Unit).run reader (reads 0xF1 0x90 ++ unserved.take 1)).reply 10).map Answer.respLen =
    none := by decide
  rcases List.mem_cons.mp member with rfl | member
  · exact overwrites
  · rcases List.mem_cons.mp member with rfl | member
    · exact absurd overwrites.1 (by decide)
    · rcases List.mem_cons.mp member with rfl | member
      · exact overwrites
      · rcases List.mem_cons.mp member with rfl | member
        · obtain ⟨_, ⟨answer, _, given, _⟩, _⟩ := overwrites
          have given : ((udsServer Unit).run reader (reads 0xF1 0x90 ++ unserved.take 1)).reply 10 = some answer := given
          rw [given] at unanswered
          cases unanswered
        · rw [List.mem_singleton.mp member] at overwrites
          exact overwrites

/-- A read of the software version before the flow control frame: the second response is put
    over the first one, which is still sent from the same buffer. -/
theorem response_integrity_reread : ¬ Intact reader (reads 0xF1 0x90 ++ (reads 0xF1 0x89 ++ [continues])) := by
  intro intact
  obtain ⟨n, sent⟩ := intact ((udsServer Unit).trace reader ((reads 0xF1 0x90).take 1))
    ((udsServer Unit).entry ((udsServer Unit).run reader ((reads 0xF1 0x90).take 1)) (.process readerCan 10))
    ((udsServer Unit).trace ((udsServer Unit).run reader (reads 0xF1 0x90)) (reads 0xF1 0x89 ++ [continues]))
    [] ([0x62, 0xF1, 0x90] ++ vin) rfl ⟨_, rfl, rfl, by decide, rfl⟩ (by
      intro other member newer accepting
      rcases List.mem_cons.mp member with rfl | member
      · exact accepting
      · rcases List.mem_cons.mp member with rfl | member
        · obtain ⟨answer, given, _, multi, _⟩ := accepting
          have short : ((udsServer Unit).run reader (reads 0xF1 0x90 ++ (reads 0xF1 0x89).take 1)).reply 10 =
            some answer := given
          have size : (((udsServer Unit).run reader (reads 0xF1 0x90 ++ (reads 0xF1 0x89).take 1)).reply 10).map
            Answer.respLen = some 7 := by decide
          rw [short] at size
          have long := multi.1
          rw [Option.some.inj size] at long
          exact absurd long (by decide)
        · rw [List.mem_singleton.mp member] at accepting
          exact accepting)
  have first := congrArg (fun frames => frames.head?.map fun frame => frame.data 1) sent
  have emitted : ((cfsDuring ((udsServer Unit).trace ((udsServer Unit).run reader (reads 0xF1 0x90))
    (reads 0xF1 0x89 ++ [continues]))).head?.map fun frame => frame.data 1) = some 0x00 := by decide
  rw [emitted] at first
  cases n with
  | zero => cases first
  | succ n =>
    rw [List.range_succ_eq_map] at first
    exact absurd (Option.some.inj first) (by decide)

end

end Uds.UdsServer
