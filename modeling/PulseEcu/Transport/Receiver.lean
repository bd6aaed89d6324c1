import PulseEcu.Foundation.Simulation
import PulseEcu.Transport.Reassembly

open Foundation

namespace Uds.Transport

inductive Pdu where
  | single (payload : List Byte)
  | first (total : Nat) (payload : List Byte)
  | consecutive (sn : Byte) (payload : List Byte)
  | flowControl (status blockSize stMin : Byte)

def readPdu (cfg : IsoTpConfig) (frame : CanFrame) : Option Pdu :=
  if frame.id ≠ cfg.rxId ∨ frame.dlc = 0 then none
  else if pciType frame = 0x0 then
    let len := frame.data 0 &&& 0x0F
    if len = 0 ∨ len > frame.dlc - 1 then none else some (.single (frame.data.load 1 len.toNat))
  else if pciType frame = 0x1 then
    if frame.dlc < 8 ∨ (ffLength frame).toNat < 8 then none
    else some (.first (ffLength frame).toNat (frame.data.load 2 6))
  else if pciType frame = 0x2 then
    some (.consecutive (frame.data 0 &&& 0x0F) (frame.data.load 1 (min 7 (frame.dlc.toNat - 1))))
  else if pciType frame = 0x3 then
    if frame.dlc < 3 then none else some (.flowControl (frame.data 0 &&& 0x0F) (frame.data 1) (frame.data 2))
  else none

/-- What a receiver of messages is about: it waits, it has the beginning of a message of known
    length, or it holds a whole one. -/
inductive Receiver where
  | idle
  | collecting (total : Nat) (bytes : List Byte) (sn : Byte) (deadline : Word)
  | holding (message : List Byte)

inductive ReceiverEvent where
  | pdu (due : Word) (pdu : Option Pdu)
  | update (now : Word)
  | take (given : Bool) (maxLen : Nat)

namespace Receiver

/-- `grant` is the flow control frame that answers a first frame; `due` is when the next consecutive
    frame has to have come. -/
def accept (grant : CanFrame) (due : Word) (r : Receiver) : Option Pdu → Receiver × Output
  | some (.single payload) => (.holding payload, .result .ok [])
  | some (.first total payload) => (.collecting total payload 1 due, .result .pending [grant])
  | some (.consecutive number payload) =>
    match r with
    | .collecting total bytes sn _ =>
      let more := bytes ++ payload.take (total - bytes.length)
      if number ≠ sn then (r, .result .wrongSn [])
      else if more.length = total then (.holding more, .result .ok [])
      else (.collecting total more ((sn + 1) &&& 0x0F) due, .result .pending [])
    | _ => (r, .result .error [])
  | _ => (r, .result .error [])

def update (now : Word) : Receiver → Receiver
  | .collecting total bytes sn deadline =>
    if deadline > 0 ∧ now ≥ deadline then .idle else .collecting total bytes sn deadline
  | r => r

def take (given : Bool) (maxLen : Nat) : Receiver → Receiver × Output
  | .holding message => if given then (.idle, .data (message.take maxLen)) else (.holding message, .data [])
  | r => (r, .data [])

end Receiver

def receiver (grant : CanFrame) : Machine Receiver ReceiverEvent Output where
  step r
    | .pdu due pdu => r.accept grant due pdu
    | .update now => (r.update now, .none)
    | .take given maxLen => r.take given maxLen

def heard (cfg : IsoTpConfig) : Event → Option ReceiverEvent
  | .frame can _ frame =>
    match readPdu cfg frame with
    | some (.flowControl ..) => none
    | pdu => some (.pdu (can.getTickMs + cfg.nCrMs) pdu)
  | .update now => some (.update now)
  | .send .. => none
  | .getData given maxLen => some (.take given maxLen)

theorem heard_other {cfg : IsoTpConfig} {frame : CanFrame} (can : ICanInterface) (mem : Memory)
    (other : ∀ status bs st, readPdu cfg frame ≠ some (.flowControl status bs st)) :
    heard cfg (.frame can mem frame) = some (.pdu (can.getTickMs + cfg.nCrMs) (readPdu cfg frame)) := by
  cases read : readPdu cfg frame with
  | none => simp only [heard, read]
  | some pdu =>
    cases pdu with
    | flowControl status bs st => exact absurd read (other status bs st)
    | _ => simp only [heard, read]

namespace IsoTp

def receiver (s : IsoTp) : Receiver :=
  match s.rxState with
  | .receiving => .collecting s.rxExpected (s.rxBuf.load 0 s.rxReceived) s.rxSn s.rxDeadline
  | .idle => if s.dataReady then .holding (s.rxBuf.load 0 s.rxReceived) else .idle

theorem receiver_of_rx {s t : IsoTp} (same : t.rx = s.rx) : t.receiver = s.receiver := by
  simp only [rx, RxView.mk.injEq] at same
  obtain ⟨state, buf, expected, received, sn, deadline, ready⟩ := same
  rw [receiver, receiver, state, buf, expected, received, sn, deadline, ready]

theorem receiver_receiving {s : IsoTp} (receiving : s.rxState = .receiving) :
    s.receiver = .collecting s.rxExpected (s.rxBuf.load 0 s.rxReceived) s.rxSn s.rxDeadline := by
  rw [receiver, receiving]

theorem receiver_ready {s : IsoTp} (idle : s.rxState = .idle) (ready : s.dataReady = true) :
    s.receiver = .holding (s.rxBuf.load 0 s.rxReceived) := by
  rw [receiver, idle, ready]
  rfl

theorem receiver_idle {s : IsoTp} (idle : s.rxState = .idle) (empty : s.dataReady = false) : s.receiver = .idle := by
  rw [receiver, idle, empty]
  rfl

end IsoTp

def grantFrame (cfg : IsoTpConfig) : CanFrame :=
  (IsoTp.create cfg (Region.fill 0)).fcFrame kFcCts cfg.blockSize cfg.stMinMs

structure Receives (cfg : IsoTpConfig) (s : IsoTp) (r : Receiver) : Prop where
  cfg : s.cfg = cfg
  invariant : RxInvariant s
  same : s.receiver = r

section

variable {s : IsoTp} {frame : CanFrame}

theorem readPdu_rejected (rejected : Rejected s.cfg frame) : readPdu s.cfg frame = none := by
  unfold readPdu
  by_cases unaddressed : frame.id ≠ s.cfg.rxId ∨ frame.dlc = 0
  · exact if_pos unaddressed
  · rw [if_neg unaddressed]
    obtain ⟨same, nonempty⟩ := not_or.mp unaddressed
    rcases rejected with other | empty | reserved | ⟨type, malformed⟩ | ⟨type, malformed⟩
    · exact absurd other same
    · exact absurd empty nonempty
    · have above : ∀ type : Byte, type ≤ 3 → pciType frame ≠ type := by
        intro type small same
        rw [same] at reserved
        exact absurd (BitVec.le_def.mp small) (Nat.not_le.mpr (BitVec.lt_def.mp reserved))
      rw [if_neg (above 0 (by decide)), if_neg (above 1 (by decide)), if_neg (above 2 (by decide)),
        if_neg (above 3 (by decide))]
    · rw [if_pos type]
      exact if_pos malformed
    · rw [type, if_neg (by decide), if_pos rfl]
      exact if_pos malformed

theorem readPdu_single (taken : ¬ Rejected s.cfg frame) (type : pciType frame = 0) :
    readPdu s.cfg frame = some (.single (frame.data.load 1 (frame.data 0 &&& 0x0F).toNat)) := by
  obtain ⟨id, nonempty, _⟩ := not_rejected taken
  have addressed : ¬ (frame.id ≠ s.cfg.rxId ∨ frame.dlc = 0) := not_or.mpr ⟨not_not_intro id, nonempty⟩
  have wellFormed : ¬ (frame.data 0 &&& 0x0F = 0 ∨ frame.data 0 &&& 0x0F > frame.dlc - 1) :=
    fun malformed => taken (Or.inr (Or.inr (Or.inr (Or.inl ⟨type, malformed⟩))))
  rw [readPdu, if_neg addressed, if_pos type]
  exact if_neg wellFormed

theorem readPdu_first (taken : ¬ Rejected s.cfg frame) (type : pciType frame = 1) :
    readPdu s.cfg frame = some (.first (ffLength frame).toNat (frame.data.load 2 6)) := by
  obtain ⟨id, nonempty, _⟩ := not_rejected taken
  have addressed : ¬ (frame.id ≠ s.cfg.rxId ∨ frame.dlc = 0) := not_or.mpr ⟨not_not_intro id, nonempty⟩
  have wellFormed : ¬ (frame.dlc < 8 ∨ (ffLength frame).toNat < 8) :=
    fun malformed => taken (Or.inr (Or.inr (Or.inr (Or.inr ⟨type, malformed⟩))))
  rw [readPdu, if_neg addressed, type, if_neg (by decide), if_pos rfl]
  exact if_neg wellFormed

theorem readPdu_consecutive (taken : ¬ Rejected s.cfg frame) (type : pciType frame = 2) :
    readPdu s.cfg frame =
      some (.consecutive (frame.data 0 &&& 0x0F) (frame.data.load 1 (min 7 (frame.dlc.toNat - 1)))) := by
  obtain ⟨id, nonempty, _⟩ := not_rejected taken
  have addressed : ¬ (frame.id ≠ s.cfg.rxId ∨ frame.dlc = 0) := not_or.mpr ⟨not_not_intro id, nonempty⟩
  rw [readPdu, if_neg addressed, type, if_neg (by decide), if_neg (by decide), if_pos rfl]

theorem readPdu_flowControl (taken : ¬ Rejected s.cfg frame) (type : pciType frame = 3) :
    readPdu s.cfg frame = if frame.dlc < 3 then none
      else some (.flowControl (frame.data 0 &&& 0x0F) (frame.data 1) (frame.data 2)) := by
  obtain ⟨id, nonempty, _⟩ := not_rejected taken
  have addressed : ¬ (frame.id ≠ s.cfg.rxId ∨ frame.dlc = 0) := not_or.mpr ⟨not_not_intro id, nonempty⟩
  rw [readPdu, if_neg addressed, type, if_neg (by decide), if_neg (by decide), if_neg (by decide), if_pos rfl]

section

variable {cfg : IsoTpConfig} {message : List Byte} {k : Nat}

theorem IsSingleFrame.read (shape : IsSingleFrame cfg message frame) (positive : 1 ≤ message.length)
    (short : message.length ≤ 7) : readPdu cfg frame = some (.single message) := by
  have room := shape.dlc
  have length := shape.length short
  have nonempty : frame.dlc ≠ 0 := by
    intro zero
    rw [zero] at room
    exact Nat.not_lt_zero _ room
  have accepted : ¬ (frame.data 0 &&& 0x0F = 0 ∨ frame.dlc < 1 ∨ frame.data 0 &&& 0x0F > frame.dlc - 1) := by
    apply (sf_accepted_iff _ _).mpr
    rw [length]
    exact ⟨positive, room⟩
  have wellFormed : ¬ (frame.data 0 &&& 0x0F = 0 ∨ frame.data 0 &&& 0x0F > frame.dlc - 1) := by
    intro malformed
    rcases malformed with zero | long
    · exact accepted (Or.inl zero)
    · exact accepted (Or.inr (Or.inr long))
  have addressed : ¬ (frame.id ≠ cfg.rxId ∨ frame.dlc = 0) := not_or.mpr ⟨not_not_intro shape.id, nonempty⟩
  rw [readPdu, if_neg addressed, if_pos (shape.pciType short)]
  dsimp only
  rw [if_neg wellFormed, length, shape.bytes]

theorem IsFirstFrame.read (shape : IsFirstFrame cfg message frame) (lower : 8 ≤ message.length)
    (upper : message.length ≤ 4095) : readPdu cfg frame = some (.first message.length (message.take 6)) := by
  have length := shape.length upper
  have addressed : ¬ (frame.id ≠ cfg.rxId ∨ frame.dlc = 0) := by
    rw [shape.dlc]
    exact not_or.mpr ⟨not_not_intro shape.id, by decide⟩
  have wellFormed : ¬ (frame.dlc < 8 ∨ (ffLength frame).toNat < 8) := by
    rw [shape.dlc, length]
    exact not_or.mpr ⟨by decide, by omega⟩
  rw [readPdu, if_neg addressed, shape.pciType upper, if_neg (by decide), if_pos rfl, if_neg wellFormed, length,
    shape.bytes]

theorem IsConsecutiveFrame.read (shape : IsConsecutiveFrame cfg message k frame) :
    ∃ payload, readPdu cfg frame = some (.consecutive (sequenceNumber (k + 1)) payload) ∧
      payload.take (message.length - (6 + 7 * k)) = segment message k := by
  have room := shape.dlc
  have size := segment_length message k
  have nonempty : frame.dlc ≠ 0 := by
    intro zero
    rw [zero] at room
    exact Nat.not_lt_zero _ room
  have addressed : ¬ (frame.id ≠ cfg.rxId ∨ frame.dlc = 0) := not_or.mpr ⟨not_not_intro shape.id, nonempty⟩
  refine ⟨frame.data.load 1 (min 7 (frame.dlc.toNat - 1)), ?_, ?_⟩
  · rw [readPdu, if_neg addressed, shape.pciType, if_neg (by decide), if_neg (by decide), if_pos rfl, shape.sn]
  · have copied : min (message.length - (6 + 7 * k)) (min 7 (frame.dlc.toNat - 1)) = (segment message k).length := by
      omega
    rw [Region.load_take, copied, shape.bytes]

end

structure Heard (grant : CanFrame) (due : Word) (pdu : Option Pdu) (r : Receiver) (outcome : Outcome) : Prop where
  state : outcome.state.receiver = (r.accept grant due pdu).1
  shows : .result outcome.result outcome.sent = (r.accept grant due pdu).2

variable (can : ICanInterface) (mem : Memory)

theorem heard_single (taken : ¬ Rejected s.cfg frame) (type : pciType frame = 0) :
    Heard (grantFrame s.cfg) (can.getTickMs + s.cfg.nCrMs) (readPdu s.cfg frame) s.receiver
      (s.processFrame can mem frame) := by
  have loaded := Region.load_store s.rxBuf 0 (frame.data.load 1 (frame.data 0 &&& 0x0F).toNat)
  rw [Region.load_length] at loaded
  rw [single_accepted can mem taken type, readPdu_single taken type]
  constructor
  · rw [IsoTp.receiver_ready rfl rfl]
    exact congrArg Receiver.holding loaded
  · rfl

theorem heard_first (taken : ¬ Rejected s.cfg frame) (type : pciType frame = 1) :
    Heard (grantFrame s.cfg) (can.getTickMs + s.cfg.nCrMs) (readPdu s.cfg frame) s.receiver
      (s.processFrame can mem frame) := by
  have loaded := Region.load_store s.rxBuf 0 (frame.data.load 2 6)
  rw [Region.load_length] at loaded
  rw [first_accepted can mem taken type, readPdu_first taken type]
  constructor
  · rw [IsoTp.receiver_receiving rfl]
    exact congrArg (Receiver.collecting (ffLength frame).toNat · 1 (can.getTickMs + s.cfg.nCrMs)) loaded
  · rfl

theorem take_received (missing : Nat) (frame : CanFrame) (nonempty : frame.dlc ≠ 0) :
    (frame.data.load 1 (min 7 (frame.dlc.toNat - 1))).take missing = frame.data.load 1 (cfCopyLen missing frame) := by
  rw [Region.load_take, cfCopyLen_eq missing frame nonempty]

theorem heard_consecutive (invariant : RxInvariant s) (taken : ¬ Rejected s.cfg frame) (type : pciType frame = 2) :
    Heard (grantFrame s.cfg) (can.getTickMs + s.cfg.nCrMs) (readPdu s.cfg frame) s.receiver
      (s.processFrame can mem frame) := by
  obtain ⟨id, nonempty, _⟩ := not_rejected taken
  rw [readPdu_consecutive taken type, IsoTp.processFrame_consecutive can mem s frame id nonempty type]
  rcases IsoTp.handleCf_spec can s frame invariant with
    ⟨refused, other⟩ | ⟨refused, receiving⟩ | ⟨receiving, sn, accepted⟩
  · have idle : s.rxState = .idle := by
      cases state : s.rxState with
      | idle => rfl
      | receiving => exact absurd state other
    rw [refused]
    cases ready : s.dataReady with
    | false =>
      constructor
      · simp only [IsoTp.receiver_idle idle ready, Receiver.accept]
      · simp only [IsoTp.receiver_idle idle ready, Receiver.accept]
    | true =>
      constructor
      · simp only [IsoTp.receiver_ready idle ready, Receiver.accept]
      · simp only [IsoTp.receiver_ready idle ready, Receiver.accept]
  · rw [refused, IsoTp.receiver_receiving receiving]
    by_cases sn : frame.data 0 &&& 0x0F = s.rxSn
    · rw [IsoTp.handleCf_accepts can s frame invariant receiving sn] at refused
      dsimp only at refused
      split at refused
      · cases refused
      · cases refused
    · constructor
      · simp only [Receiver.accept, ne_eq, sn, not_false_eq_true, if_true, IsoTp.receiver_receiving receiving]
      · simp only [Receiver.accept, ne_eq, sn, not_false_eq_true, if_true]
  · have stored := Region.load_store_append s.rxBuf s.rxReceived
      (frame.data.load 1 (cfCopyLen (s.rxExpected - s.rxReceived) frame))
    rw [Region.load_length] at stored
    have counted : (s.rxBuf.load 0 s.rxReceived ++
        frame.data.load 1 (cfCopyLen (s.rxExpected - s.rxReceived) frame)).length =
          s.rxReceived + cfCopyLen (s.rxExpected - s.rxReceived) frame := by simp
    rw [accepted, IsoTp.receiver_receiving receiving]
    by_cases last : s.rxReceived + cfCopyLen (s.rxExpected - s.rxReceived) frame = s.rxExpected
    · constructor
      · simp only [Receiver.accept, sn, ne_eq, not_true_eq_false, if_false, Region.load_length,
          take_received _ frame nonempty, counted, last, if_true]
        rw [IsoTp.receiver_ready rfl rfl]
        exact congrArg Receiver.holding stored
      · simp only [Receiver.accept, sn, ne_eq, not_true_eq_false, if_false, Region.load_length,
          take_received _ frame nonempty, counted, last, if_true]
    · constructor
      · simp only [Receiver.accept, sn, ne_eq, not_true_eq_false, if_false, Region.load_length,
          take_received _ frame nonempty, counted, last]
        rw [IsoTp.receiver_receiving (s := s.tookConsecutive can frame _) receiving]
        exact congrArg (fun bytes => Receiver.collecting s.rxExpected bytes ((s.rxSn + 1) &&& 0x0F)
          (can.getTickMs + s.cfg.nCrMs)) stored
      · simp only [Receiver.accept, sn, ne_eq, not_true_eq_false, if_false, Region.load_length,
          take_received _ frame nonempty, counted, last]

theorem heard_frame (invariant : RxInvariant s)
    (other : ∀ status bs st, readPdu s.cfg frame ≠ some (.flowControl status bs st)) :
    Heard (grantFrame s.cfg) (can.getTickMs + s.cfg.nCrMs) (readPdu s.cfg frame) s.receiver
      (s.processFrame can mem frame) := by
  by_cases rejected : Rejected s.cfg frame
  · rw [rejected_ignored can mem rejected, readPdu_rejected rejected]
    exact ⟨rfl, rfl⟩
  · rcases not_rejected rejected with ⟨id, nonempty, single | first | consecutive | flowControl⟩
    · exact heard_single can mem rejected single
    · exact heard_first can mem rejected first
    · exact heard_consecutive can mem invariant rejected consecutive
    · by_cases short : frame.dlc < 3
      · have refused : s.processFrame can mem frame = ⟨.error, s, []⟩ := by
          rw [IsoTp.processFrame_flowControl can mem s frame id nonempty flowControl]
          simp only [IsoTp.handleFc, if_pos short]
          split
          · rfl
          · rfl
        rw [refused, readPdu_flowControl rejected flowControl, if_pos short]
        exact ⟨rfl, rfl⟩
      · rw [readPdu_flowControl rejected flowControl, if_neg short] at other
        exact absurd rfl (other _ _ _)

end

theorem update_receiver (s : IsoTp) (now : Word) (invariant : RxInvariant s) :
    (s.update now).receiver = s.receiver.update now := by
  rw [IsoTp.receiver_of_rx (IsoTp.update_rx now s)]
  unfold IsoTp.updateRx
  cases state : s.rxState with
  | idle =>
    rw [if_neg (fun expired => nomatch expired.1)]
    cases ready : s.dataReady with
    | false =>
      rw [IsoTp.receiver_idle state ready]
      rfl
    | true =>
      rw [IsoTp.receiver_ready state ready]
      rfl
  | receiving =>
    rw [IsoTp.receiver_receiving state, Receiver.update]
    by_cases late : s.rxDeadline > 0 ∧ now ≥ s.rxDeadline
    · rw [if_pos ⟨rfl, late⟩, if_pos late]
      exact IsoTp.receiver_idle rfl (invariant.receiving state).2.2.2
    · rw [if_neg fun expired => late expired.2, if_neg late, IsoTp.receiver_receiving state]

theorem getData_receiver (s : IsoTp) (given : Bool) (maxLen : Nat) (invariant : RxInvariant s) :
    (s.getData given maxLen).2.receiver = (s.receiver.take given maxLen).1 ∧
      .data (s.getData given maxLen).1 = (s.receiver.take given maxLen).2 := by
  cases ready : s.dataReady with
  | false =>
    have nothing : s.getData given maxLen = ([], s) := if_pos (Or.inl ready)
    rw [nothing]
    cases state : s.rxState with
    | idle => simp only [IsoTp.receiver_idle state ready, Receiver.take, and_self]
    | receiving => simp only [IsoTp.receiver_receiving state, Receiver.take, and_self]
  | true =>
    have idle := (invariant.ready ready).1
    cases given with
    | false =>
      have nothing : s.getData false maxLen = ([], s) := if_pos (Or.inr rfl)
      rw [nothing, IsoTp.receiver_ready idle ready]
      exact ⟨rfl, rfl⟩
    | true =>
      have taken : s.getData true maxLen =
          (s.rxBuf.load 0 (if s.rxReceived < maxLen then s.rxReceived else maxLen),
            { s with dataReady := false, rxReceived := 0 }) := if_neg (by simp [ready])
      have room : (if s.rxReceived < maxLen then s.rxReceived else maxLen) = min maxLen s.rxReceived := by
        split
        · omega
        · omega
      rw [taken, IsoTp.receiver_ready idle ready, room]
      constructor
      · exact IsoTp.receiver_idle idle rfl
      · simp only [Receiver.take, if_true, Region.load_take]

theorem Receives.of_rx {cfg : IsoTpConfig} {s t : IsoTp} {r : Receiver} (receives : Receives cfg s r)
    (same : t.rx = s.rx) (unchanged : t.cfg = s.cfg) : Receives cfg t r :=
  ⟨unchanged.trans receives.cfg, receives.invariant.of_rx same, (IsoTp.receiver_of_rx same).trans receives.same⟩

theorem Receives.update {cfg : IsoTpConfig} {s : IsoTp} {r : Receiver} (receives : Receives cfg s r) (now : Word) :
    Receives cfg (s.update now) (r.update now) := by
  obtain ⟨rfl, invariant, rfl⟩ := receives
  exact ⟨IsoTp.update_cfg now s, invariant.next (.update now), update_receiver s now invariant⟩

theorem Receives.getData {cfg : IsoTpConfig} {s : IsoTp} {r : Receiver} (receives : Receives cfg s r) (given : Bool)
    (maxLen : Nat) : Receives cfg (s.getData given maxLen).2 (r.take given maxLen).1 := by
  obtain ⟨rfl, invariant, rfl⟩ := receives
  exact ⟨IsoTp.next_cfg s (.getData given maxLen), invariant.getData given maxLen,
    (getData_receiver s given maxLen invariant).1⟩

/-- The receive half is a receiver of messages: whatever is sent in between, and however the flow
    control of the other direction goes. -/
theorem isoTp_simulates_receiver (cfg : IsoTpConfig) :
    isoTp.Simulates (receiver (grantFrame cfg)) (Receives cfg) (heard cfg) fun _ _ _ => True := by
  constructor
  · intro s r event means receives _ meaning
    cases event with
    | frame can mem frame =>
      obtain ⟨rfl, invariant, rfl⟩ := receives
      have other : ∀ status bs st, readPdu s.cfg frame ≠ some (.flowControl status bs st) := by
        intro status bs st flowControl
        simp only [heard, flowControl] at meaning
        cases meaning
      rw [heard_other can mem other] at meaning
      cases meaning
      have heard := heard_frame can mem invariant other
      have cfg := IsoTp.processFrame_cfg can mem s frame
      exact ⟨⟨cfg, invariant.processFrame can mem frame, heard.state⟩, heard.shows⟩
    | update now =>
      cases meaning
      exact ⟨receives.update now, rfl⟩
    | send can mem data length => cases meaning
    | getData given maxLen =>
      cases meaning
      refine ⟨receives.getData given maxLen, ?_⟩
      rw [← receives.same]
      exact (getData_receiver s given maxLen receives.invariant).2
  · intro s r event receives _ meaning
    have cfg := IsoTp.next_cfg s event
    cases event with
    | frame can mem frame =>
      refine receives.of_rx ?_ cfg
      have same := receives.cfg
      subst same
      apply disturbed_frame can mem
      by_cases rejected : Rejected s.cfg frame
      · exact Or.inl rejected
      · rcases not_rejected rejected with ⟨_, _, single | first | consecutive | flowControl⟩
        · simp only [heard, readPdu_single rejected single] at meaning
          cases meaning
        · simp only [heard, readPdu_first rejected first] at meaning
          cases meaning
        · simp only [heard, readPdu_consecutive rejected consecutive] at meaning
          cases meaning
        · exact Or.inr flowControl
    | update now => cases meaning
    | send can mem data length => exact receives.of_rx (IsoTp.send_rx ..) cfg
    | getData given maxLen => cases meaning

/-- Every run of the transport shows at its receiving calls what the receiver of messages shows on
    what these calls mean, and ends where that one ends. -/
theorem receiver_refined (cfg : IsoTpConfig) (rxBuf : Region Byte) (events : List Event) :
    (isoTp.run (.create cfg rxBuf) events).receiver =
        (receiver (grantFrame cfg)).run .idle (events.filterMap (heard cfg)) ∧
      Machine.shown (heard cfg) (isoTp.trace (.create cfg rxBuf) events) =
        ((receiver (grantFrame cfg)).trace .idle (events.filterMap (heard cfg))).map Machine.Entry.output := by
  have initial : Receives cfg (.create cfg rxBuf) .idle := ⟨rfl, RxInvariant.create cfg rxBuf, rfl⟩
  obtain ⟨receives, shows⟩ := (isoTp_simulates_receiver cfg).run_all initial events
  exact ⟨receives.same, shows⟩

end Uds.Transport
