import PulseEcu.Transport.Reassembly
import PulseEcu.Transport.Transmit

open Foundation

namespace Uds.Transport

structure Payload where
  bytes : List Byte
  nonempty : 1 ≤ bytes.length
  fits : bytes.length ≤ maxPayload

abbrev Answers := List (ICanInterface × CanFrame)

def answer (mem : Memory) (s : IsoTp) : Answers → IsoTp × List CanFrame
  | [] => (s, [])
  | (can, frame) :: answers =>
    let outcome := s.processFrame can mem frame
    let rest := answer mem outcome.state answers
    (rest.1, outcome.sent ++ rest.2)

/-- A sender with a payload in memory, a reliable bus, a peer that always lets it continue, and
    the matching configuration of a fresh receiver. A sender that is still at another message when it
    sends a single frame would go on with that message. -/
structure Exchange (payload : Payload) where
  sender : IsoTp
  mem : Memory
  data : Pointer
  can : ICanInterface
  answers : Answers
  receiver : IsoTpConfig
  rxBuf : Region Byte
  idle : payload.bytes.length ≤ 7 → sender.txState = .idle
  ids : receiver.rxId = sender.cfg.txId
  stored : (mem data).load 0 payload.bytes.length = payload.bytes
  reliable : can.Reliable
  continues : ∀ entry ∈ answers, entry.1.Reliable ∧ IsCts sender.cfg entry.2

namespace Exchange

variable {payload : Payload} (exchange : Exchange payload)

def opened : Outcome :=
  exchange.sender.send exchange.can exchange.mem (some exchange.data) payload.bytes.length

def answered : IsoTp × List CanFrame := answer exchange.mem exchange.opened.state exchange.answers

def frames : List CanFrame := exchange.opened.sent ++ exchange.answered.2

def received (slots : List Slot) : IsoTp := (feed (.create exchange.receiver exchange.rxBuf) slots).1

end Exchange

def Carries (slots : List Slot) (frames : List CanFrame) : Prop :=
  slots.map Slot.frame = frames ∧ ∀ slot ∈ slots, slot.noise = []

/-- Enough answers end the transmission, and when it has ended the receiver has the payload. -/
def RoundTrips (payload : Payload) : Prop :=
  ∀ exchange : Exchange payload,
    (cfCount payload.bytes.length ≤ exchange.answers.length → exchange.answered.1.txState = .idle) ∧
      (exchange.answered.1.txState = .idle → ∀ slots, Carries slots exchange.frames →
        (exchange.received slots).dataReady = true ∧
          ((exchange.received slots).getData true maxPayload).1 = payload.bytes)

variable {mem : Memory} {message : List Byte} {k : Nat} {s : IsoTp}

theorem answer_idle (answers : Answers) (idle : s.txState = .idle)
    (continues : ∀ entry ∈ answers, entry.1.Reliable ∧ IsCts s.cfg entry.2) : answer mem s answers = (s, []) := by
  induction answers with
  | nil => rfl
  | cons entry answers ih =>
    simp only [List.mem_cons, forall_eq_or_imp] at continues
    have ignored : s.processFrame entry.1 mem entry.2 = ⟨.error, s, []⟩ := by
      rw [continues.1.2.handled entry.1 mem]
      simp only [IsoTp.handleFc, idle]
      rfl
    simp only [answer, ignored, ih continues.2, List.nil_append]

theorem answer_frames (answers : Answers) (sends : Sends s mem message k)
    (waiting : k ≠ cfCount message.length → s.txState = .waitFc)
    (finished : k = cfCount message.length → s.txState = .idle)
    (continues : ∀ entry ∈ answers, entry.1.Reliable ∧ IsCts s.cfg entry.2) :
    ∃ count, (answer mem s answers).2 = (List.range' k count).map (segmentFrame s.cfg message) ∧
      k + count ≤ cfCount message.length ∧ min (cfCount message.length - k) answers.length ≤ count ∧
      ((answer mem s answers).1.txState = .idle ↔ k + count = cfCount message.length) := by
  induction answers generalizing s k with
  | nil =>
    refine ⟨0, rfl, sends.bound, Nat.min_le_right _ _, fun idle => ?_, finished⟩
    by_cases done : k = cfCount message.length
    · exact done
    · exact absurd ((waiting done).symm.trans idle) (by decide)
  | cons entry answers ih =>
    have bound := sends.bound
    by_cases done : k = cfCount message.length
    · rw [answer_idle (entry :: answers) (finished done) continues]
      exact ⟨0, rfl, bound, by omega, fun _ => done, fun _ => finished done⟩
    · simp only [List.mem_cons, forall_eq_or_imp] at continues
      have burst := sends.continued (waiting done) entry.1 continues.1.1 continues.1.2
      have progress : 1 ≤ released (entry.2.data 1) 0 (cfCount message.length - k) := by
        unfold released
        split
        · omega
        · rename_i nonzero
          have positive : (entry.2.data 1).toNat ≠ 0 := fun zero => nonzero (BitVec.eq_of_toNat_eq zero)
          have zero : (0 : Byte).toNat = 0 := rfl
          omega
      have cfg := IsoTp.processFrame_cfg entry.1 mem s entry.2
      obtain ⟨count, frames, within, least, ended⟩ := ih burst.sends
        (fun more => (burst.waiting more).2) (fun all => (burst.finished all).2) (by rw [cfg]; exact continues.2)
      refine ⟨released (entry.2.data 1) 0 (cfCount message.length - k) + count, ?_, by omega, ?_, ?_⟩
      · simp only [answer]
        rw [burst.sent, frames, cfg, List.nil_append, ← List.map_append, List.range'_append_1]
      · simp only [List.length_cons]
        omega
      · rw [← Nat.add_assoc]
        exact ended

theorem sent_single (can : ICanInterface) (mem : Memory) (data : Pointer) (length : Nat) (positive : 1 ≤ length)
    (short : length ≤ 7) : (s.send can mem (some data) length).state = s ∧
      (s.send can mem (some data) length).sent = [s.sfFrame mem data length] := by
  have accepted : ¬ (length = 0 ∨ length > maxPayload) := by
    unfold maxPayload
    omega
  simp only [IsoTp.send, if_neg accepted, if_pos short, and_self]

theorem Exchange.continues_of {payload : Payload} (exchange : Exchange payload)
    (cfg : exchange.opened.state.cfg = exchange.sender.cfg) :
    ∀ entry ∈ exchange.answers, entry.1.Reliable ∧ IsCts exchange.opened.state.cfg entry.2 := by
  rw [cfg]
  exact exchange.continues

theorem Exchange.segmented {payload : Payload} (exchange : Exchange payload) (long : 8 ≤ payload.bytes.length) :
    (cfCount payload.bytes.length ≤ exchange.answers.length → exchange.answered.1.txState = .idle) ∧
      (exchange.answered.1.txState = .idle → exchange.frames =
        exchange.sender.ffFrame exchange.mem exchange.data payload.bytes.length ::
          (List.range' 0 (cfCount payload.bytes.length)).map (segmentFrame exchange.sender.cfg payload.bytes)) := by
  have opened : exchange.opened = _ := IsoTp.send_first exchange.can exchange.mem exchange.sender exchange.data
    payload.bytes.length long payload.fits (exchange.reliable 0)
  have cfg : exchange.opened.state.cfg = exchange.sender.cfg := by
    rw [opened]
    rfl
  have waiting : exchange.opened.state.txState = .waitFc := by
    rw [opened]
    rfl
  have sends : Sends exchange.opened.state exchange.mem payload.bytes 0 := by
    rw [opened]
    exact .started exchange.can exchange.sender long exchange.stored
  have some := (lt_cfCount 0 payload.bytes.length).mpr (by omega)
  obtain ⟨count, frames, within, least, ended⟩ := answer_frames exchange.answers sends (fun _ => waiting)
    (fun none => by omega) (exchange.continues_of cfg)
  constructor
  · intro enough
    exact ended.mpr (by omega)
  · intro finished
    have all := ended.mp finished
    rw [Nat.zero_add] at all
    rw [Exchange.frames, Exchange.answered, frames, cfg, all, opened]
    rfl

theorem Exchange.single {payload : Payload} (exchange : Exchange payload) (short : payload.bytes.length ≤ 7) :
    exchange.answered.1.txState = .idle ∧
      exchange.frames = [exchange.sender.sfFrame exchange.mem exchange.data payload.bytes.length] := by
  obtain ⟨state, sent⟩ := sent_single (s := exchange.sender) exchange.can exchange.mem exchange.data
    payload.bytes.length payload.nonempty short
  have ignored : exchange.answered = (exchange.sender, []) := by
    rw [Exchange.answered, Exchange.opened, state]
    exact answer_idle exchange.answers (exchange.idle short) exchange.continues
  rw [Exchange.frames, ignored, Exchange.opened, sent]
  exact ⟨exchange.idle short, rfl⟩

theorem Carries.feeds {receiver cfg : IsoTpConfig} (ids : receiver.rxId = cfg.txId) {slots : List Slot}
    (carries : Carries slots ((List.range' 0 (cfCount message.length)).map (segmentFrame cfg message))) :
    Feeds receiver message 0 slots := by
  obtain ⟨frames, silent⟩ := carries
  have size := congrArg List.length frames
  simp only [List.length_map, List.length_range'] at size
  refine ⟨by omega, ?_, ?_, ?_⟩
  · intro i slot found
    have frame := congrArg (fun list => list[i]?) frames
    have bound : i < cfCount message.length := by
      rw [← size]
      exact (List.getElem?_eq_some_iff.mp found).1
    simp only [List.getElem?_map, found, Option.map_some, List.getElem?_range' bound] at frame
    rw [Option.some.inj frame, Nat.one_mul]
    exact segmentFrame_shape cfg receiver ids message (0 + i)
  · intro i slot found _ event noisy
    rw [silent slot (List.mem_of_getElem? found)] at noisy
    cases noisy
  · intro slot last event noisy
    rw [silent slot (List.mem_of_getLast? last)] at noisy
    cases noisy

theorem feed_ignored (slots : List Slot) (ignored : ∀ slot ∈ slots, slot.noise = [] ∧
    ∀ can mem, (s.processFrame can mem slot.frame).state = s) : (feed s slots).1 = s := by
  induction slots with
  | nil => rfl
  | cons slot slots ih =>
    simp only [List.mem_cons, forall_eq_or_imp] at ignored
    obtain ⟨⟨silent, same⟩, others⟩ := ignored
    simp only [feed, silent, same, Machine.run_nil]
    exact ih others

theorem segmentFrame_ignored (cfg : IsoTpConfig) (k : Nat) (ids : s.cfg.rxId = cfg.txId)
    (idle : s.rxState = .idle) (can : ICanInterface) (mem : Memory) :
    (s.processFrame can mem (segmentFrame cfg message k)).state = s := by
  have shape := segmentFrame_shape cfg s.cfg ids message k
  have dlc : (segmentFrame cfg message k).dlc ≠ 0 := by
    intro zero
    have room := shape.dlc
    rw [zero] at room
    exact Nat.not_lt_zero _ room
  rw [IsoTp.processFrame_consecutive can mem s _ shape.id dlc shape.pciType]
  simp only [IsoTp.handleCf, idle, ne_eq, reduceCtorEq, not_false_eq_true, if_true]

/-- A first frame has twelve bits for the length: 4096 is announced as 0, which no receiver takes. -/
theorem ffFrame_ignored (sender : IsoTp) (txMem : Memory) (data : Pointer) (can : ICanInterface) (mem : Memory) :
    (s.processFrame can mem (sender.ffFrame txMem data 4096)).state = s := by
  have bytes : (sender.ffFrame txMem data 4096).data 0 = 0x10 ∧ (sender.ffFrame txMem data 4096).data 1 = 0x00 :=
    ⟨rfl, rfl⟩
  have type : pciType (sender.ffFrame txMem data 4096) = 1 := by
    rw [pciType, bytes.1]
    rfl
  have empty : (ffLength (sender.ffFrame txMem data 4096)).toNat < 8 := by
    rw [ffLength_toNat, bytes.1, bytes.2]
    decide
  have rejected : Rejected s.cfg (sender.ffFrame txMem data 4096) :=
    Or.inr (Or.inr (Or.inr (Or.inr ⟨type, Or.inr empty⟩)))
  rw [rejected_ignored can mem rejected]

theorem roundTrips_of_le (payload : Payload) (upper : payload.bytes.length ≤ 4095) : RoundTrips payload := by
  intro exchange
  by_cases short : payload.bytes.length ≤ 7
  · obtain ⟨idle, frames⟩ := exchange.single short
    refine ⟨fun _ => idle, fun _ slots carries => ?_⟩
    rw [frames] at carries
    obtain ⟨carried, silent⟩ := carries
    obtain ⟨slot, rest, rfl, frame, none⟩ := List.map_eq_cons_iff.mp carried
    rw [List.map_eq_nil_iff.mp none] at silent ⊢
    have shape := sfFrame_shape exchange.sender exchange.receiver exchange.ids exchange.mem exchange.data
      payload.bytes exchange.stored short
    rw [← frame] at shape
    have complete := complete_single slot.can slot.mem (.create exchange.receiver exchange.rxBuf) payload.nonempty
      short shape
    have received : exchange.received [slot] =
        ((IsoTp.create exchange.receiver exchange.rxBuf).processFrame slot.can slot.mem slot.frame).state := by
      simp only [Exchange.received, feed, silent slot List.mem_cons_self, Machine.run_nil]
    rw [received]
    exact ⟨complete.ready, complete.getData maxPayload payload.fits⟩
  · obtain ⟨ends, all⟩ := exchange.segmented (by omega)
    refine ⟨ends, fun idle slots carries => ?_⟩
    rw [all idle] at carries
    obtain ⟨carried, silent⟩ := carries
    obtain ⟨opening, slots, rfl, frame, rest⟩ := List.map_eq_cons_iff.mp carried
    simp only [List.mem_cons, forall_eq_or_imp] at silent
    have shape := ffFrame_shape exchange.sender exchange.receiver exchange.ids exchange.mem exchange.data
      payload.bytes exchange.stored (by omega) upper
    rw [← frame] at shape
    obtain ⟨_, started⟩ := holds_first opening.can opening.mem (.create exchange.receiver exchange.rxBuf)
      (by omega) upper shape
    have feeds : Feeds exchange.receiver payload.bytes 0 slots := Carries.feeds exchange.ids ⟨rest, silent.2⟩
    have held := started.undisturbed opening.noise (by
      rw [silent.1]
      exact fun event none => by cases none)
    obtain ⟨_, complete⟩ := held.fed upper slots (by rw [slot_cfg]; exact feeds)
    exact ⟨complete.ready, complete.getData maxPayload payload.fits⟩

section

variable (payload : Payload)

theorem cts_oneByOne : IsCts kDefaultIsoTpConfig (.make 0x7DF [0x30, 1, 0] 3) := by
  constructor
  · rfl
  · decide
  · decide
  · rfl

def patient : Exchange payload where
  sender := .create kDefaultIsoTpConfig (Region.fill 0)
  mem := fun _ => (Region.fill 0).store 0 payload.bytes
  data := 0
  can := .ready
  answers := List.replicate (cfCount payload.bytes.length) (.ready, .make 0x7DF [0x30, 1, 0] 3)
  receiver := { kDefaultIsoTpConfig with rxId := 0x7E8, txId := 0x7DF }
  rxBuf := Region.fill 0
  idle := fun _ => rfl
  ids := rfl
  stored := Region.load_store ..
  reliable := ICanInterface.ready_reliable
  continues := fun entry member => by
    rw [List.eq_of_mem_replicate member]
    exact ⟨ICanInterface.ready_reliable, cts_oneByOne⟩

def Slot.quiet (frame : CanFrame) : Slot := ⟨.ready, fun _ => Region.fill 0, frame, []⟩

theorem carries_quiet (frames : List CanFrame) : Carries (frames.map .quiet) frames := by
  refine ⟨(List.map_map ..).trans (List.map_id _), fun slot member => ?_⟩
  obtain ⟨frame, _, rfl⟩ := List.mem_map.mp member
  rfl

theorem not_roundTrips (longest : payload.bytes.length = 4096) : ¬ RoundTrips payload := by
  intro roundTrips
  obtain ⟨_, all⟩ := (patient payload).segmented (by omega)
  obtain ⟨ends, arrives⟩ := roundTrips (patient payload)
  have finished := ends (Nat.le_of_eq List.length_replicate.symm)
  obtain ⟨ready, _⟩ := arrives finished _ (carries_quiet (patient payload).frames)
  -- without a first frame the receiver takes none of the consecutive frames either
  have untouched : (patient payload).received ((patient payload).frames.map .quiet) =
      .create (patient payload).receiver (patient payload).rxBuf := by
    apply feed_ignored
    intro slot member
    obtain ⟨frame, among, rfl⟩ := List.mem_map.mp member
    refine ⟨rfl, fun can mem => ?_⟩
    rw [all finished, longest] at among
    rcases List.mem_cons.mp among with rfl | consecutive
    · exact ffFrame_ignored ..
    · obtain ⟨k, _, rfl⟩ := List.mem_map.mp consecutive
      exact segmentFrame_ignored _ k rfl rfl can mem
  rw [untouched] at ready
  cases ready

end

/-- Every accepted length makes the round trip but the longest one. -/
theorem segmentation_round_trip (payload : Payload) : RoundTrips payload ↔ payload.bytes.length ≤ 4095 := by
  refine ⟨fun roundTrips => ?_, roundTrips_of_le payload⟩
  by_cases longest : payload.bytes.length = 4096
  · exact absurd roundTrips (not_roundTrips payload longest)
  · have fits : payload.bytes.length ≤ 4096 := payload.fits
    omega

theorem segmentation_round_trip_longest : ¬ ∀ payload, RoundTrips payload := by
  intro always
  have longest : (List.replicate 4096 (0 : Byte)).length = 4096 := List.length_replicate
  exact not_roundTrips ⟨List.replicate 4096 0, by omega, Nat.le_of_eq longest⟩ longest (always _)

end Uds.Transport
