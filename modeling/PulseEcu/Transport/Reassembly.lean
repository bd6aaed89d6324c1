import PulseEcu.Transport.Receive

open Foundation

namespace Uds.Transport

/-- The first frame and k consecutive frames of a message were taken, and more are missing. -/
structure Holds (s : IsoTp) (message : List Byte) (k deadline : Nat) : Prop where
  state : s.rxState = .receiving
  ready : s.dataReady = false
  expected : s.rxExpected = message.length
  received : s.rxReceived = 6 + 7 * k
  more : 6 + 7 * k < message.length
  sn : s.rxSn = sequenceNumber (k + 1)
  buf : s.rxBuf.load 0 (6 + 7 * k) = message.take (6 + 7 * k)
  deadline : s.rxDeadline.toNat = deadline

structure Complete (s : IsoTp) (message : List Byte) : Prop where
  state : s.rxState = .idle
  ready : s.dataReady = true
  received : s.rxReceived = message.length
  buf : s.rxBuf.load 0 message.length = message

variable {s t : IsoTp} {message : List Byte} {k deadline : Nat} {frame : CanFrame}

theorem Holds.of_rx (same : t.rx = s.rx) (holds : Holds s message k deadline) : Holds t message k deadline := by
  simp only [IsoTp.rx, RxView.mk.injEq] at same
  obtain ⟨state, buf, expected, received, sn, due, ready⟩ := same
  exact ⟨state.trans holds.state, ready.trans holds.ready, expected.trans holds.expected,
    received.trans holds.received, holds.more, sn.trans holds.sn, by rw [buf]; exact holds.buf,
    by rw [due]; exact holds.deadline⟩

theorem Complete.of_rx (same : t.rx = s.rx) (complete : Complete s message) : Complete t message := by
  simp only [IsoTp.rx, RxView.mk.injEq] at same
  obtain ⟨state, buf, _, received, _, _, ready⟩ := same
  exact ⟨state.trans complete.state, ready.trans complete.ready, received.trans complete.received,
    by rw [buf]; exact complete.buf⟩

theorem Holds.invariant (holds : Holds s message k deadline) (upper : message.length ≤ 4095) :
    RxInvariant s := by
  have more := holds.more
  constructor
  · intro _
    rw [holds.expected, holds.received]
    exact ⟨by omega, more, upper, holds.ready⟩
  · intro ready
    exact absurd (holds.ready.symm.trans ready) (by decide)

theorem Complete.getData (complete : Complete s message) (maxLen : Nat) (room : message.length ≤ maxLen) :
    (s.getData true maxLen).1 = message := by
  have whole : (if message.length < maxLen then message.length else maxLen) = message.length := by
    split <;> omega
  simp only [IsoTp.getData, complete.ready, complete.received, whole]
  exact complete.buf

theorem complete_single (can : ICanInterface) (mem : Memory) (s : IsoTp) (positive : 1 ≤ message.length)
    (short : message.length ≤ 7) (shape : IsSingleFrame s.cfg message frame) :
    Complete (s.processFrame can mem frame).state message := by
  have room := shape.dlc
  have length := shape.length short
  have dlc : frame.dlc ≠ 0 := by
    intro zero
    rw [zero] at room
    exact Nat.not_lt_zero _ room
  have accepted : ¬ (frame.data 0 &&& 0x0F = 0 ∨ frame.dlc < 1 ∨ frame.data 0 &&& 0x0F > frame.dlc - 1) := by
    apply (sf_accepted_iff _ _).mpr
    rw [length]
    exact ⟨positive, room⟩
  have fits := low_nibble_fits (frame.data 0)
  rw [length] at fits
  rw [IsoTp.processFrame_single can mem s frame shape.id dlc (shape.pciType short)]
  simp only [IsoTp.handleSf, if_neg accepted, length, if_neg fits]
  refine ⟨rfl, rfl, rfl, ?_⟩
  rw [shape.bytes]
  exact Region.load_store s.rxBuf 0 message

theorem holds_first (can : ICanInterface) (mem : Memory) (s : IsoTp) (lower : 8 ≤ message.length)
    (upper : message.length ≤ 4095) (shape : IsFirstFrame s.cfg message frame) :
    (s.processFrame can mem frame).result = .pending ∧
      Holds (s.processFrame can mem frame).state message 0 (can.getTickMs + s.cfg.nCrMs).toNat := by
  have dlc : frame.dlc ≠ 0 := by
    rw [shape.dlc]
    decide
  have length := shape.length upper
  rw [IsoTp.processFrame_first can mem s frame shape.id dlc (shape.pciType upper)]
  rcases IsoTp.handleFf_spec can s frame with ⟨_, short⟩ | ⟨_, accepted⟩
  · rcases short with short | short
    · rw [shape.dlc] at short
      exact absurd short (by decide)
    · omega
  · rw [accepted]
    refine ⟨rfl, rfl, rfl, length, rfl, by omega, rfl, ?_, rfl⟩
    have loaded := Region.load_store s.rxBuf 0 (frame.data.load 2 6)
    rw [Region.load_length, shape.bytes] at loaded
    simp only [IsoTp.tookFirst, shape.bytes]
    exact loaded

theorem Holds.step (holds : Holds s message k deadline) (upper : message.length ≤ 4095)
    (shape : IsConsecutiveFrame s.cfg message k frame) (can : ICanInterface) (mem : Memory) :
    (6 + 7 * (k + 1) < message.length → (s.processFrame can mem frame).result = .pending ∧
      Holds (s.processFrame can mem frame).state message (k + 1) (can.getTickMs + s.cfg.nCrMs).toNat) ∧
    (message.length ≤ 6 + 7 * (k + 1) → (s.processFrame can mem frame).result = .ok ∧
      Complete (s.processFrame can mem frame).state message) := by
  have more := holds.more
  have room := shape.dlc
  have size := segment_length message k
  have dlc : frame.dlc ≠ 0 := by
    intro zero
    rw [zero] at room
    exact Nat.not_lt_zero _ room
  have copied : cfCopyLen (message.length - (6 + 7 * k)) frame = (segment message k).length := by
    rw [cfCopyLen_eq _ _ dlc]
    omega
  have stored : (s.rxBuf.store (6 + 7 * k) (segment message k)).load 0 (6 + 7 * k + (segment message k).length) =
      message.take (6 + 7 * (k + 1)) := by
    rw [Region.load_store_append, holds.buf, take_segment]
  have sn : frame.data 0 &&& 0x0F = s.rxSn := by rw [shape.sn, holds.sn]
  rw [IsoTp.processFrame_consecutive can mem s frame shape.id dlc shape.pciType,
    IsoTp.handleCf_accepts can s frame (holds.invariant upper) holds.state sn]
  simp only [holds.expected, holds.received, copied]
  constructor
  · intro missing
    have full : (segment message k).length = 7 := by omega
    have unfinished : 6 + 7 * k + (segment message k).length ≠ message.length := by omega
    rw [if_neg unfinished]
    refine ⟨rfl, holds.state, holds.ready, holds.expected, ?_, missing, ?_, ?_, rfl⟩
    · simp only [IsoTp.tookConsecutive, holds.received]
      omega
    · simp only [IsoTp.tookConsecutive, holds.sn]
      exact sequenceNumber_succ (k + 1)
    · simp only [IsoTp.tookConsecutive, holds.received, shape.bytes]
      rw [full] at stored
      exact stored
  · intro last
    have finished : 6 + 7 * k + (segment message k).length = message.length := by omega
    rw [if_pos finished]
    refine ⟨rfl, rfl, rfl, ?_, ?_⟩
    · simp only [IsoTp.completed, IsoTp.tookConsecutive, holds.received]
      exact finished
    · simp only [IsoTp.completed, IsoTp.tookConsecutive, holds.received, shape.bytes]
      rw [finished, List.take_of_length_le last] at stored
      exact stored

def Rejected (cfg : IsoTpConfig) (frame : CanFrame) : Prop :=
  frame.id ≠ cfg.rxId ∨ frame.dlc = 0 ∨ 3 < pciType frame ∨
    (pciType frame = 0 ∧ (frame.data 0 &&& 0x0F = 0 ∨ frame.data 0 &&& 0x0F > frame.dlc - 1)) ∨
    (pciType frame = 1 ∧ (frame.dlc < 8 ∨ (ffLength frame).toNat < 8))

theorem rejected_ignored (can : ICanInterface) (mem : Memory) (rejected : Rejected s.cfg frame) :
    s.processFrame can mem frame = ⟨.error, s, []⟩ := by
  by_cases unaddressed : frame.id ≠ s.cfg.rxId ∨ frame.dlc = 0
  · exact if_pos unaddressed
  · obtain ⟨same, dlc⟩ := not_or.mp unaddressed
    have id := Decidable.not_not.mp same
    rcases rejected with other | empty | reserved | ⟨type, malformed⟩ | ⟨type, malformed⟩
    · exact absurd id other
    · exact absurd empty dlc
    · have above : ∀ type : Byte, type ≤ 3 → pciType frame ≠ type := by
        intro type small same
        rw [same] at reserved
        exact absurd (BitVec.le_def.mp small) (Nat.not_le.mpr (BitVec.lt_def.mp reserved))
      rw [IsoTp.processFrame_addressed can mem s frame id dlc, if_neg (above 0 (by decide)),
        if_neg (above 1 (by decide)), if_neg (above 2 (by decide)), if_neg (above 3 (by decide))]
    · rw [IsoTp.processFrame_single can mem s frame id dlc type]
      apply if_pos
      rcases malformed with empty | long
      · exact Or.inl empty
      · exact Or.inr (Or.inr long)
    · rw [IsoTp.processFrame_first can mem s frame id dlc type]
      rcases IsoTp.handleFf_spec can s frame with ⟨refused, _⟩ | ⟨long, accepted⟩
      · exact refused
      · rcases malformed with short | short
        · exact if_pos short
        · omega

instance (cfg : IsoTpConfig) (frame : CanFrame) : Decidable (Rejected cfg frame) :=
  inferInstanceAs (Decidable (_ ∨ _))

theorem not_rejected (taken : ¬ Rejected s.cfg frame) :
    frame.id = s.cfg.rxId ∧ frame.dlc ≠ 0 ∧
      (pciType frame = 0 ∨ pciType frame = 1 ∨ pciType frame = 2 ∨ pciType frame = 3) := by
  simp only [Rejected, not_or] at taken
  obtain ⟨addressed, nonempty, known, _⟩ := taken
  have four : ∀ type : Byte, ¬ 3 < type → type = 0 ∨ type = 1 ∨ type = 2 ∨ type = 3 := by decide
  exact ⟨Decidable.not_not.mp addressed, nonempty, four _ known⟩

theorem single_accepted (can : ICanInterface) (mem : Memory) (taken : ¬ Rejected s.cfg frame)
    (type : pciType frame = 0) : s.processFrame can mem frame =
      ⟨.ok, s.tookSingle frame (frame.data 0 &&& 0x0F).toNat, []⟩ := by
  obtain ⟨id, nonempty, _⟩ := not_rejected taken
  rw [IsoTp.processFrame_single can mem s frame id nonempty type]
  simp only [Rejected, not_or, type, not_and] at taken
  obtain ⟨_, _, _, single, _⟩ := taken
  have single := single trivial
  have wellFormed : ¬ (frame.data 0 &&& 0x0F = 0 ∨ frame.dlc < 1 ∨ frame.data 0 &&& 0x0F > frame.dlc - 1) := by
    have least : ∀ dlc : Byte, dlc ≠ 0 → ¬ dlc < 1 := by decide
    intro malformed
    rcases malformed with empty | short | long
    · exact single.1 empty
    · exact least _ nonempty short
    · exact single.2 long
  simp only [IsoTp.handleSf, if_neg wellFormed, if_neg (low_nibble_fits (frame.data 0))]
  rfl

theorem first_accepted (can : ICanInterface) (mem : Memory) (taken : ¬ Rejected s.cfg frame)
    (type : pciType frame = 1) : s.processFrame can mem frame =
      ⟨.pending, s.tookFirst can frame (ffLength frame).toNat, [s.fcFrame kFcCts s.cfg.blockSize s.cfg.stMinMs]⟩ := by
  obtain ⟨id, nonempty, _⟩ := not_rejected taken
  rw [IsoTp.processFrame_first can mem s frame id nonempty type]
  rcases IsoTp.handleFf_spec can s frame with ⟨_, malformed⟩ | ⟨_, accepted⟩
  · exact absurd (Or.inr (Or.inr (Or.inr (Or.inr ⟨type, malformed⟩)))) taken
  · exact accepted

/-- What may happen between two frames of a message whose N_Cr timer runs until `deadline`. -/
def Disturbs (cfg : IsoTpConfig) (deadline : Nat) : Event → Prop
  | .frame _ _ frame => Rejected cfg frame ∨ pciType frame = 3
  | .update now => now.toNat < deadline
  | .send .. => True
  | .getData .. => True

def Spares (cfg : IsoTpConfig) : Event → Prop
  | .frame _ _ frame => Rejected cfg frame ∨ pciType frame = 3
  | .update _ => True
  | .send .. => True
  | .getData .. => False

theorem disturbed_frame (can : ICanInterface) (mem : Memory)
    (disturbs : Rejected s.cfg frame ∨ pciType frame = 3) : (s.processFrame can mem frame).state.rx = s.rx := by
  rcases disturbs with rejected | type
  · rw [rejected_ignored can mem rejected]
  · apply IsoTp.processFrame_cases fun outcome => outcome.state.rx = s.rx
    · rfl
    · exact fun other => absurd (type.symm.trans other) (by decide)
    · exact fun other => absurd (type.symm.trans other) (by decide)
    · exact fun other => absurd (type.symm.trans other) (by decide)
    · exact fun _ => IsoTp.handleFc_rx can mem s frame

theorem Holds.disturbed (holds : Holds s message k deadline) {event : Event}
    (disturbs : Disturbs s.cfg deadline event) : Holds (isoTp.next s event) message k deadline := by
  cases event with
  | frame can mem frame => exact holds.of_rx (disturbed_frame can mem disturbs)
  | update now =>
    have due := holds.deadline
    have early : ¬ (s.rxState = .receiving ∧ s.rxDeadline > 0 ∧ now ≥ s.rxDeadline) := by
      intro expired
      have late := BitVec.le_def.mp expired.2.2
      have early : now.toNat < deadline := disturbs
      omega
    exact holds.of_rx (IsoTp.update_rx_early early)
  | send can mem data length => exact holds.of_rx (IsoTp.send_rx ..)
  | getData given maxLen =>
    have unchanged : (s.getData given maxLen).2 = s := by simp [IsoTp.getData, holds.ready]
    exact holds.of_rx (congrArg IsoTp.rx unchanged)

theorem Holds.undisturbed (holds : Holds s message k deadline) (events : List Event)
    (noise : ∀ event ∈ events, Disturbs s.cfg deadline event) :
    Holds (isoTp.run s events) message k deadline := by
  induction events generalizing s with
  | nil => exact holds
  | cons event events ih =>
    simp only [List.mem_cons, forall_eq_or_imp] at noise
    apply ih (holds.disturbed noise.1)
    rw [IsoTp.next_cfg]
    exact noise.2

theorem Complete.spared (complete : Complete s message) {event : Event} (spares : Spares s.cfg event) :
    Complete (isoTp.next s event) message := by
  cases event with
  | frame can mem frame => exact complete.of_rx (disturbed_frame can mem spares)
  | update now =>
    have idle : ¬ (s.rxState = .receiving ∧ s.rxDeadline > 0 ∧ now ≥ s.rxDeadline) := by
      rw [complete.state]
      exact fun late => absurd late.1 (by decide)
    exact complete.of_rx (IsoTp.update_rx_early idle)
  | send can mem data length => exact complete.of_rx (IsoTp.send_rx ..)
  | getData given maxLen => exact absurd spares id

theorem Complete.waits (complete : Complete s message) (events : List Event)
    (spares : ∀ event ∈ events, Spares s.cfg event) : Complete (isoTp.run s events) message := by
  induction events generalizing s with
  | nil => exact complete
  | cons event events ih =>
    simp only [List.mem_cons, forall_eq_or_imp] at spares
    apply ih (complete.spared spares.1)
    rw [IsoTp.next_cfg]
    exact spares.2

structure Slot where
  can : ICanInterface
  mem : Memory
  frame : CanFrame
  noise : List Event

/-- The N_Cr deadline that the slot's frame sets: its tick plus `nCrMs`, as the code adds them. -/
def Slot.due (cfg : IsoTpConfig) (slot : Slot) : Nat := (slot.can.getTickMs + cfg.nCrMs).toNat

def feed (s : IsoTp) : List Slot → IsoTp × List IsoTpResult
  | [] => (s, [])
  | slot :: slots =>
    let outcome := s.processFrame slot.can slot.mem slot.frame
    let rest := feed (isoTp.run outcome.state slot.noise) slots
    (rest.1, outcome.result :: rest.2)

theorem slot_cfg (s : IsoTp) (slot : Slot) :
    (isoTp.run (s.processFrame slot.can slot.mem slot.frame).state slot.noise).cfg = s.cfg := by
  rw [IsoTp.run_cfg, IsoTp.processFrame_cfg]

structure Feeds (cfg : IsoTpConfig) (message : List Byte) (k : Nat) (slots : List Slot) : Prop where
  count : k + slots.length = cfCount message.length
  shape : ∀ i slot, slots[i]? = some slot → IsConsecutiveFrame cfg message (k + i) slot.frame
  noise : ∀ i slot, slots[i]? = some slot → i + 1 < slots.length →
    ∀ event ∈ slot.noise, Disturbs cfg (slot.due cfg) event
  spared : ∀ slot, slots.getLast? = some slot → ∀ event ∈ slot.noise, Spares cfg event

theorem Feeds.tail {cfg : IsoTpConfig} {slot next : Slot} {slots : List Slot}
    (feeds : Feeds cfg message k (slot :: next :: slots)) : Feeds cfg message (k + 1) (next :: slots) := by
  constructor
  · have count := feeds.count
    simp only [List.length_cons] at count ⊢
    omega
  · intro i other found
    have shape := feeds.shape (i + 1) other found
    rwa [show k + (i + 1) = k + 1 + i by omega] at shape
  · intro i other found inside
    exact feeds.noise (i + 1) other found (Nat.succ_lt_succ inside)
  · intro other last
    exact feeds.spared other (by simpa using last)

theorem Holds.fed (holds : Holds s message k deadline) (upper : message.length ≤ 4095) (slots : List Slot)
    (feeds : Feeds s.cfg message k slots) :
    (feed s slots).2 = List.replicate (slots.length - 1) .pending ++ [.ok] ∧ Complete (feed s slots).1 message := by
  induction slots generalizing s k deadline with
  | nil =>
    -- `Holds` says that a frame is missing, `feeds` that none is left
    have missing := (lt_cfCount k message.length).mpr holds.more
    have none := feeds.count
    simp only [List.length_nil] at none
    omega
  | cons slot slots ih =>
    have shape := feeds.shape 0 slot rfl
    obtain ⟨step, last⟩ := holds.step upper shape slot.can slot.mem
    have count := feeds.count
    cases slots with
    | nil =>
      have finished : message.length ≤ 6 + 7 * (k + 1) := by
        have none := mt (lt_cfCount (k + 1) message.length).mpr
        simp only [List.length_cons, List.length_nil] at count
        omega
      obtain ⟨result, complete⟩ := last finished
      have spares := feeds.spared slot rfl
      exact ⟨by simp [feed, result], complete.waits slot.noise (by rw [IsoTp.processFrame_cfg]; exact spares)⟩
    | cons next slots =>
      have missing : 6 + 7 * (k + 1) < message.length := by
        apply (lt_cfCount (k + 1) message.length).mp
        simp only [List.length_cons] at count
        omega
      obtain ⟨result, held⟩ := step missing
      have timely := feeds.noise 0 slot rfl (by simp)
      have reached := held.undisturbed slot.noise (by rw [IsoTp.processFrame_cfg]; exact timely)
      obtain ⟨results, complete⟩ := ih reached (by rw [slot_cfg]; exact feeds.tail)
      refine ⟨?_, complete⟩
      simp only [feed] at results ⊢
      rw [result, results]
      rfl

/-- From any state, the frames of a message in order make it available, whatever harmless
    frames, calls and timer updates come in between. -/
theorem reassembly_complete (s : IsoTp) (message : List Byte) (lower : 8 ≤ message.length)
    (upper : message.length ≤ 4095) (opening : Slot) (slots : List Slot)
    (first : IsFirstFrame s.cfg message opening.frame)
    (timely : ∀ event ∈ opening.noise, Disturbs s.cfg (opening.due s.cfg) event)
    (feeds : Feeds s.cfg message 0 slots) :
    (feed s (opening :: slots)).2 = List.replicate (cfCount message.length) .pending ++ [.ok] ∧
      (feed s (opening :: slots)).1.dataReady = true ∧
      ∀ maxLen, message.length ≤ maxLen → ((feed s (opening :: slots)).1.getData true maxLen).1 = message := by
  obtain ⟨result, started⟩ := holds_first opening.can opening.mem s lower upper first
  have held := started.undisturbed opening.noise (by rw [IsoTp.processFrame_cfg]; exact timely)
  obtain ⟨results, complete⟩ := held.fed upper slots (by rw [slot_cfg]; exact feeds)
  refine ⟨?_, complete.ready, complete.getData⟩
  have count := feeds.count
  have some := (lt_cfCount 0 message.length).mpr (by omega)
  simp only [feed] at results ⊢
  rw [result, results, ← List.cons_append, ← List.replicate_succ]
  congr 2
  omega

def eightBytes : List Byte := [0x36, 0x01, 0xDE, 0xAD, 0xBE, 0xEF, 0xCA, 0xFE]

def eightOpening : Slot where
  can := ⟨10, fun _ => true⟩
  mem := fun _ => Region.fill 0
  frame := .make 0x7DF (0x10 :: 0x08 :: eightBytes.take 6) 8
  noise := [.update 1009, .getData true 64]

def eightClosing : Slot where
  can := ⟨20, fun _ => true⟩
  mem := fun _ => Region.fill 0
  frame := .make 0x7DF [0x21, 0xCA, 0xFE, 0xAA, 0xAA] 5
  noise := [.update 1020, .send ⟨1030, fun _ => true⟩ (fun _ => Region.fill 0) (some 0) 20]

theorem eightOpening_noise : ∀ event ∈ eightOpening.noise,
    Disturbs kDefaultIsoTpConfig (eightOpening.due kDefaultIsoTpConfig) event := by
  intro event member
  rcases List.mem_cons.mp member with rfl | member
  · show 1009 < 1010
    decide
  · rw [List.mem_singleton.mp member]
    exact True.intro

theorem eightClosing_feeds : Feeds kDefaultIsoTpConfig eightBytes 0 [eightClosing] := by
  constructor
  · rfl
  · intro i slot found
    cases i with
    | zero =>
      cases found
      exact ⟨rfl, by decide, by decide, rfl, rfl⟩
    | succ i => cases found
  · intro i slot _ inside
    exact absurd inside (by simp)
  · intro slot last event noisy
    cases last
    rcases List.mem_cons.mp noisy with rfl | noisy
    · exact True.intro
    · rw [List.mem_singleton.mp noisy]
      exact True.intro

theorem reassembly_complete_eight :
    ((feed (.create kDefaultIsoTpConfig (Region.fill 0)) [eightOpening, eightClosing]).1.getData true 4096).1 =
      eightBytes :=
  (reassembly_complete (.create kDefaultIsoTpConfig (Region.fill 0)) eightBytes (by decide) (by decide)
    eightOpening [eightClosing] ⟨rfl, rfl, rfl, rfl, rfl⟩ eightOpening_noise eightClosing_feeds).2.2 4096 (by decide)

end Uds.Transport
