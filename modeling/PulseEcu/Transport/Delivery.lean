import PulseEcu.Transport.Receive

open Foundation

namespace Uds.Transport

abbrev Entry := Machine.Entry IsoTp Event Output

def accepted (type : Byte) (results : List IsoTpResult) (entry : Entry) : Option CanFrame :=
  match entry.event, entry.output with
  | .frame _ _ frame, .result result _ => if pciType frame = type ∧ result ∈ results then some frame else none
  | _, _ => none

def acceptedSingle : Entry → Option CanFrame := accepted 0 [.ok]
def acceptedFirst : Entry → Option CanFrame := accepted 1 [.pending]
def acceptedConsecutive : Entry → Option CanFrame := accepted 2 [.pending, .ok]

def Expires (entry : Entry) : Prop :=
  (∃ now, entry.event = .update now) ∧ entry.before.rxState = .receiving ∧ entry.after.rxState = .idle

def Delivers (entry : Entry) : Prop := ∃ bytes, entry.output = .data bytes ∧ bytes ≠ []

structure Neutral (entry : Entry) : Prop where
  single : acceptedSingle entry = none
  first : acceptedFirst entry = none
  running : ¬ Expires entry
  kept : ¬ Delivers entry

def cfPayload (frame : CanFrame) : List Byte := frame.data.load 1 (min 7 (frame.dlc.toNat - 1))

def cfSn (frame : CanFrame) : Byte := frame.data 0 &&& 0x0F

def collected (first : CanFrame) (later : List Entry) : List Byte :=
  first.data.load 2 6 ++ (later.filterMap acceptedConsecutive).flatMap cfPayload

def InSequence (later : List Entry) : Prop :=
  (later.filterMap acceptedConsecutive).map cfSn =
    (List.range (later.filterMap acceptedConsecutive).length).map fun i => sequenceNumber (i + 1)

structure Assembling (past : List Entry) (first : CanFrame) (later : List Entry) (s : IsoTp) : Prop where
  recorded : ∃ earlier start, past = earlier ++ start :: later ∧ acceptedFirst start = some first
  neutral : ∀ entry ∈ later, Neutral entry
  expected : s.rxExpected = (ffLength first).toNat
  bytes : s.rxBuf.load 0 s.rxReceived = collected first later
  sequence : InSequence later
  next : s.rxSn = sequenceNumber ((later.filterMap acceptedConsecutive).length + 1)

/-- `bytes` is a message that arrived in `past` and was not handed out, dropped or replaced since. -/
def Arrived (past : List Entry) (bytes : List Byte) : Prop :=
  ∃ earlier start later, past = earlier ++ start :: later ∧ (∀ entry ∈ later, Neutral entry) ∧
    ((∃ frame, acceptedSingle start = some frame ∧
        bytes = frame.data.load 1 (frame.data 0 &&& 0x0F).toNat) ∨
      (∃ frame, acceptedFirst start = some frame ∧
        bytes = (collected frame later).take (ffLength frame).toNat ∧
        bytes.length = (ffLength frame).toNat ∧ InSequence later))

structure History (past : List Entry) (s : IsoTp) : Prop where
  invariant : RxInvariant s
  receiving : s.rxState = .receiving → ∃ first later, Assembling past first later s
  ready : s.dataReady = true → Arrived past (s.rxBuf.load 0 s.rxReceived)

theorem accepted_eq_some (type : Byte) (results : List IsoTpResult) (s : IsoTp) (can : ICanInterface)
    (mem : Memory) (frame : CanFrame) (typed : pciType frame = type)
    (member : (s.processFrame can mem frame).result ∈ results) :
    accepted type results (isoTp.entry s (.frame can mem frame)) = some frame :=
  if_pos ⟨typed, member⟩

theorem accepted_eq_none (type : Byte) (results : List IsoTpResult) (s : IsoTp) (can : ICanInterface)
    (mem : Memory) (frame : CanFrame)
    (other : pciType frame = type → (s.processFrame can mem frame).result ∉ results) :
    accepted type results (isoTp.entry s (.frame can mem frame)) = none :=
  if_neg fun both => other both.1 both.2

theorem not_expires {entry : Entry} (other : ∀ now, entry.event ≠ .update now) : ¬ Expires entry := by
  intro expires
  obtain ⟨⟨now, update⟩, _⟩ := expires
  exact other now update

theorem not_delivers {entry : Entry} (other : ∀ bytes, entry.output ≠ .data bytes) : ¬ Delivers entry := by
  intro delivers
  obtain ⟨bytes, output, _⟩ := delivers
  exact other bytes output

theorem frame_neutral (s : IsoTp) (can : ICanInterface) (mem : Memory) (frame : CanFrame)
    (single : acceptedSingle (isoTp.entry s (.frame can mem frame)) = none)
    (first : acceptedFirst (isoTp.entry s (.frame can mem frame)) = none) :
    Neutral (isoTp.entry s (.frame can mem frame)) :=
  ⟨single, first, not_expires (fun _ update => by cases update), not_delivers (fun _ output => by cases output)⟩

theorem consecutive_neutral (s : IsoTp) (can : ICanInterface) (mem : Memory) (frame : CanFrame)
    (type : pciType frame = 2) : Neutral (isoTp.entry s (.frame can mem frame)) := by
  apply frame_neutral
  · exact accepted_eq_none _ _ _ _ _ _ fun other => absurd (type.symm.trans other) (by decide)
  · exact accepted_eq_none _ _ _ _ _ _ fun other => absurd (type.symm.trans other) (by decide)

/-- A frame that no handler accepts leaves the receiver as it is. -/
theorem unaccepted_rx {s : IsoTp} (invariant : RxInvariant s) (can : ICanInterface) (mem : Memory) (frame : CanFrame)
    (single : acceptedSingle (isoTp.entry s (.frame can mem frame)) = none)
    (first : acceptedFirst (isoTp.entry s (.frame can mem frame)) = none)
    (consecutive : acceptedConsecutive (isoTp.entry s (.frame can mem frame)) = none) :
    (s.processFrame can mem frame).state.rx = s.rx := by
  have refused : ∀ type results, accepted type results (isoTp.entry s (.frame can mem frame)) = none →
      pciType frame = type → (s.processFrame can mem frame).result ∉ results := by
    intro type results none typed member
    cases none.symm.trans (accepted_eq_some type results s can mem frame typed member)
  cases processFrame_reception can mem s frame invariant with
  | ignored rx _ _ _ => exact rx
  | single type _ _ outcome =>
    apply absurd _ (refused 0 [.ok] single type)
    rw [outcome]
    exact List.mem_cons_self
  | first type _ outcome =>
    apply absurd _ (refused 1 [.pending] first type)
    rw [outcome]
    exact List.mem_cons_self
  | more n type _ _ _ _ outcome =>
    apply absurd _ (refused 2 [.pending, .ok] consecutive type)
    rw [outcome]
    exact List.mem_cons_self
  | last n type _ _ _ _ outcome =>
    apply absurd _ (refused 2 [.pending, .ok] consecutive type)
    rw [outcome]
    exact List.mem_cons_of_mem _ List.mem_cons_self

variable {past : List Entry} {s t : IsoTp} {entry : Entry} {bytes : List Byte}

theorem Arrived.append (arrived : Arrived past bytes) (neutral : Neutral entry)
    (idle : acceptedConsecutive entry = none) : Arrived (past ++ [entry]) bytes := by
  obtain ⟨earlier, start, later, rfl, quiet, message⟩ := arrived
  refine ⟨earlier, start, later ++ [entry], by simp, Machine.forall_mem_snoc quiet neutral, ?_⟩
  simpa [collected, InSequence, List.filterMap_append, idle] using message

theorem Assembling.append {first : CanFrame} {later : List Entry} (message : Assembling past first later s)
    (same : t.rx = s.rx) (neutral : Neutral entry) (idle : acceptedConsecutive entry = none) :
    Assembling (past ++ [entry]) first (later ++ [entry]) t := by
  have expected : t.rxExpected = s.rxExpected := congrArg RxView.expected same
  have buf : t.rxBuf = s.rxBuf := congrArg RxView.buf same
  have received : t.rxReceived = s.rxReceived := congrArg RxView.received same
  have sn : t.rxSn = s.rxSn := congrArg RxView.sn same
  obtain ⟨earlier, start, split, opened⟩ := message.recorded
  constructor
  · exact ⟨earlier, start, by simp [split], opened⟩
  · exact Machine.forall_mem_snoc message.neutral neutral
  · exact expected.trans message.expected
  · simpa [collected, List.filterMap_append, idle, buf, received] using message.bytes
  · simpa [InSequence, List.filterMap_append, idle] using message.sequence
  · simpa [List.filterMap_append, idle, sn] using message.next

theorem History.quiet (history : History past s) (same : t.rx = s.rx) (neutral : Neutral entry)
    (idle : acceptedConsecutive entry = none) : History (past ++ [entry]) t := by
  have state : t.rxState = s.rxState := congrArg RxView.state same
  have ready : t.dataReady = s.dataReady := congrArg RxView.ready same
  have buf : t.rxBuf = s.rxBuf := congrArg RxView.buf same
  have received : t.rxReceived = s.rxReceived := congrArg RxView.received same
  refine ⟨history.invariant.of_rx same, ?_, ?_⟩
  · intro receiving
    rw [state] at receiving
    obtain ⟨first, later, message⟩ := history.receiving receiving
    exact ⟨first, _, message.append same neutral idle⟩
  · intro flag
    rw [ready] at flag
    rw [buf, received]
    exact (history.ready flag).append neutral idle

theorem History.empty (past : List Entry) (invariant : RxInvariant s) (idle : s.rxState ≠ .receiving)
    (empty : s.dataReady = false) : History past s :=
  ⟨invariant, fun receiving => absurd receiving idle, fun ready => absurd (empty.symm.trans ready) (by decide)⟩

theorem take_payload (frame : CanFrame) (missing : Nat) :
    frame.data.load 1 (min missing (min 7 (frame.dlc.toNat - 1))) = (cfPayload frame).take missing := by
  rw [cfPayload, Region.load_take]

theorem InSequence.snoc {later : List Entry} {frame : CanFrame} (sequence : InSequence later)
    (consecutive : acceptedConsecutive entry = some frame)
    (sn : cfSn frame = sequenceNumber ((later.filterMap acceptedConsecutive).length + 1)) :
    InSequence (later ++ [entry]) := by
  have one : [entry].filterMap acceptedConsecutive = [frame] := by simp [consecutive]
  unfold InSequence at *
  rw [List.filterMap_append, one, List.map_append, List.length_append, sequence, List.length_singleton,
    List.range_succ, List.map_append, List.map_singleton, List.map_singleton, sn]

theorem collected_snoc {first frame : CanFrame} {later : List Entry}
    (consecutive : acceptedConsecutive entry = some frame) :
    collected first (later ++ [entry]) = collected first later ++ cfPayload frame := by
  have one : [entry].filterMap acceptedConsecutive = [frame] := by simp [consecutive]
  rw [collected, List.filterMap_append, one, List.flatMap_append, ← List.append_assoc, List.flatMap_singleton]
  rfl

theorem Assembling.more {first frame : CanFrame} {later : List Entry} (message : Assembling past first later s)
    (can : ICanInterface) {n : Nat} (entered : acceptedConsecutive entry = some frame) (neutral : Neutral entry)
    (sn : cfSn frame = s.rxSn) (whole : frame.data.load 1 n = cfPayload frame) :
    Assembling (past ++ [entry]) first (later ++ [entry]) (s.tookConsecutive can frame n) := by
  obtain ⟨earlier, start, split, opened⟩ := message.recorded
  constructor
  · exact ⟨earlier, start, by simp [split], opened⟩
  · exact Machine.forall_mem_snoc message.neutral neutral
  · exact message.expected
  · have stored := Region.load_store_append s.rxBuf s.rxReceived (frame.data.load 1 n)
    rw [Region.load_length, message.bytes, whole] at stored
    rw [collected_snoc entered, ← stored, ← whole]
    rfl
  · exact message.sequence.snoc entered (sn.trans message.next)
  · have advanced := sequenceNumber_succ ((later.filterMap acceptedConsecutive).length + 1)
    rw [← message.next] at advanced
    have one : [entry].filterMap acceptedConsecutive = [frame] := by simp [entered]
    rw [List.filterMap_append, one, List.length_append]
    exact advanced

theorem Assembling.last {first frame : CanFrame} {later : List Entry} (message : Assembling past first later s)
    (can : ICanInterface) {n : Nat} (entered : acceptedConsecutive entry = some frame) (neutral : Neutral entry)
    (sn : cfSn frame = s.rxSn)
    (taken : n = min (s.rxExpected - s.rxReceived) (min 7 (frame.dlc.toNat - 1)))
    (all : s.rxReceived + n = s.rxExpected) :
    Arrived (past ++ [entry]) ((s.tookConsecutive can frame n).rxBuf.load 0 (s.rxReceived + n)) := by
  obtain ⟨earlier, start, split, opened⟩ := message.recorded
  have stored := Region.load_store_append s.rxBuf s.rxReceived (frame.data.load 1 n)
  rw [Region.load_length, message.bytes] at stored
  -- the last frame may be padded: its first n bytes are what `take` leaves of it
  have size : (collected first later).length = s.rxReceived := by rw [← message.bytes, Region.load_length]
  have prior : (collected first later).take s.rxExpected = collected first later :=
    List.take_of_length_le (by omega)
  have whole : collected first later ++ frame.data.load 1 n =
      (collected first (later ++ [entry])).take (ffLength first).toNat := by
    rw [collected_snoc entered, taken, take_payload, ← message.expected, List.take_append, size, prior]
  refine ⟨earlier, start, later ++ [_], by simp [split], Machine.forall_mem_snoc message.neutral neutral,
    Or.inr ⟨first, opened, ?_, ?_, message.sequence.snoc entered (sn.trans message.next)⟩⟩
  · rw [← whole, ← stored]
    rfl
  · rw [Region.load_length]
    exact all.trans message.expected

theorem History.frame (history : History past s) (can : ICanInterface) (mem : Memory) (frame : CanFrame) :
    History (past ++ [isoTp.entry s (.frame can mem frame)]) (s.processFrame can mem frame).state := by
  have kept := history.invariant.processFrame can mem frame
  cases processFrame_reception can mem s frame history.invariant with
  | ignored rx single first consecutive =>
    apply history.quiet rx
    · apply frame_neutral
      · exact accepted_eq_none _ _ _ _ _ _ fun type => by simpa using single type
      · exact accepted_eq_none _ _ _ _ _ _ fun type => by simpa using first type
    · exact accepted_eq_none _ _ _ _ _ _ fun type => by simpa using consecutive type
  | single type positive small outcome =>
    have entered : acceptedSingle (isoTp.entry s (.frame can mem frame)) = some frame :=
      accepted_eq_some 0 _ s can mem frame type (by rw [outcome]; simp)
    rw [outcome] at kept ⊢
    refine ⟨kept, (fun receiving => by cases receiving), fun _ => ?_⟩
    refine ⟨past, _, [], rfl, by simp, Or.inl ⟨frame, entered, ?_⟩⟩
    have loaded := Region.load_store s.rxBuf 0 (frame.data.load 1 (frame.data 0 &&& 0x0F).toNat)
    rwa [Region.load_length] at loaded
  | first type lower outcome =>
    have entered : acceptedFirst (isoTp.entry s (.frame can mem frame)) = some frame :=
      accepted_eq_some 1 _ s can mem frame type (by rw [outcome]; simp)
    rw [outcome] at kept ⊢
    refine ⟨kept, fun _ => ⟨frame, [], ?_⟩, fun ready => by cases ready⟩
    refine ⟨⟨past, _, rfl, entered⟩, by simp, rfl, ?_, by simp [InSequence], rfl⟩
    have loaded := Region.load_store s.rxBuf 0 (frame.data.load 2 6)
    rw [Region.load_length] at loaded
    simpa [collected, IsoTp.tookFirst] using loaded
  | more n type receiving sn taken missing outcome =>
    obtain ⟨first, later, message⟩ := history.receiving receiving
    have entered : acceptedConsecutive (isoTp.entry s (.frame can mem frame)) = some frame :=
      accepted_eq_some 2 _ s can mem frame type (by rw [outcome]; simp)
    have neutral := consecutive_neutral s can mem frame type
    -- more bytes are missing, so this frame was taken whole
    have whole : frame.data.load 1 n = cfPayload frame := by
      have full : n = min 7 (frame.dlc.toNat - 1) := by omega
      rw [full]
      rfl
    rw [outcome] at kept ⊢
    refine ⟨kept, fun _ => ⟨first, _, message.more can entered neutral sn whole⟩, fun ready => ?_⟩
    exact absurd ((history.invariant.receiving receiving).2.2.2.symm.trans ready) (by decide)
  | last n type receiving sn taken all outcome =>
    obtain ⟨first, later, message⟩ := history.receiving receiving
    have entered : acceptedConsecutive (isoTp.entry s (.frame can mem frame)) = some frame :=
      accepted_eq_some 2 _ s can mem frame type (by rw [outcome]; simp)
    have neutral := consecutive_neutral s can mem frame type
    rw [outcome] at kept ⊢
    exact ⟨kept, (fun still => by cases still), fun _ => message.last can entered neutral sn taken all⟩

theorem History.update (history : History past s) (now : Word) :
    History (past ++ [isoTp.entry s (.update now)]) (s.update now) := by
  by_cases expired : s.rxState = .receiving ∧ s.rxDeadline > 0 ∧ now ≥ s.rxDeadline
  · have dropped := IsoTp.update_rx_expired expired
    have idle : (s.update now).rxState = .idle := congrArg RxView.state dropped
    have ready : (s.update now).dataReady = s.dataReady := congrArg RxView.ready dropped
    have kept : RxInvariant (s.update now) := history.invariant.next (.update now)
    apply History.empty _ kept
    · rw [idle]
      decide
    · exact ready.trans (history.invariant.receiving expired.1).2.2.2
  · have same := IsoTp.update_rx_early expired
    have running : ¬ Expires (isoTp.entry s (.update now)) := by
      intro expires
      obtain ⟨_, receiving, idle⟩ := expires
      have state : (s.update now).rxState = s.rxState := congrArg RxView.state same
      exact absurd (receiving.symm.trans (state.symm.trans idle)) (by decide)
    exact history.quiet same ⟨rfl, rfl, running, not_delivers fun _ output => by cases output⟩ rfl

theorem History.send (history : History past s) (can : ICanInterface) (mem : Memory) (data : Option Pointer)
    (length : Nat) :
    History (past ++ [isoTp.entry s (.send can mem data length)]) (s.send can mem data length).state :=
  history.quiet (IsoTp.send_rx ..) ⟨rfl, rfl, not_expires (fun _ update => by cases update),
    not_delivers fun _ output => by cases output⟩ rfl

theorem History.getData (history : History past s) (given : Bool) (maxLen : Nat) :
    History (past ++ [isoTp.entry s (.getData given maxLen)]) (s.getData given maxLen).2 := by
  by_cases nothing : s.dataReady = false ∨ given = false
  · have same : s.getData given maxLen = ([], s) := if_pos nothing
    have kept : ¬ Delivers (isoTp.entry s (.getData given maxLen)) := by
      intro delivers
      obtain ⟨bytes, returned, some⟩ := delivers
      have none : Output.data (s.getData given maxLen).1 = .data bytes := returned
      rw [same] at none
      cases none
      exact some rfl
    exact history.quiet (by rw [same]) ⟨rfl, rfl, not_expires (fun _ update => by cases update), kept⟩ rfl
  · have ready : s.dataReady = true := by simpa using (not_or.mp nothing).1
    have consumed : (s.getData given maxLen).2 = { s with dataReady := false, rxReceived := 0 } := by
      simp only [IsoTp.getData, if_neg nothing]
    apply History.empty _ (history.invariant.getData given maxLen)
    · rw [consumed]
      exact fun receiving => absurd ((history.invariant.ready ready).1.symm.trans receiving) (by decide)
    · rw [consumed]

theorem History.next (history : History past s) (event : Event) :
    History (past ++ [isoTp.entry s event]) (isoTp.next s event) := by
  cases event with
  | frame can mem frame => exact history.frame can mem frame
  | update now => exact history.update now
  | send can mem data length => exact history.send can mem data length
  | getData given maxLen => exact history.getData given maxLen

theorem run_history (cfg : IsoTpConfig) (rxBuf : Region Byte) (events : List Event) :
    History (isoTp.trace (.create cfg rxBuf) events) (isoTp.run (.create cfg rxBuf) events) := by
  refine isoTp.trace_invariant (fun past s event history (_ : True) => history.next event) (.create cfg rxBuf) events
    ?_ fun _ _ => trivial
  exact .empty [] (.create cfg rxBuf) (by simp [IsoTp.create]) rfl

/-- Whatever calls were made before, what `get_data` hands out is one message, whole and once. -/
theorem delivery_integrity (cfg : IsoTpConfig) (rxBuf : Region Byte) (events : List Event) (maxLen : Nat)
    (room : maxPayload ≤ maxLen)
    (delivered : ((isoTp.run (.create cfg rxBuf) events).getData true maxLen).1 ≠ []) :
    Arrived (isoTp.trace (.create cfg rxBuf) events)
      ((isoTp.run (.create cfg rxBuf) events).getData true maxLen).1 := by
  have history := run_history cfg rxBuf events
  have ready : (isoTp.run (.create cfg rxBuf) events).dataReady = true := by
    cases flag : (isoTp.run (.create cfg rxBuf) events).dataReady
    · simp [IsoTp.getData, flag] at delivered
    · rfl
  obtain ⟨_, _, size, bound⟩ := history.invariant.ready ready
  have whole : ((isoTp.run (.create cfg rxBuf) events).getData true maxLen).1 =
      (isoTp.run (.create cfg rxBuf) events).rxBuf.load 0 (isoTp.run (.create cfg rxBuf) events).rxReceived := by
    have all : (if (isoTp.run (.create cfg rxBuf) events).rxReceived < maxLen
        then (isoTp.run (.create cfg rxBuf) events).rxReceived else maxLen) =
        (isoTp.run (.create cfg rxBuf) events).rxReceived := by
      unfold maxPayload at room
      split <;> omega
    simp [IsoTp.getData, ready, all]
  rw [whole]
  exact history.ready ready

def twoFrames : List Event :=
  let can : ICanInterface := ⟨10, fun _ => true⟩
  let mem : Memory := fun _ => Region.fill 0
  [.frame can mem (.make 0x7DF [0x10, 0x08, 0x36, 0x01, 0xDE, 0xAD, 0xBE, 0xEF] 8),
    .frame can mem (.make 0x7DF [0x21, 0xCA, 0xFE] 3), .frame can mem (.make 0x7DF [0x22, 0x00] 2)]

theorem delivery_integrity_twoFrames :
    Arrived (isoTp.trace (.create kDefaultIsoTpConfig (Region.fill 0)) twoFrames)
      [0x36, 0x01, 0xDE, 0xAD, 0xBE, 0xEF, 0xCA, 0xFE] :=
  delivery_integrity kDefaultIsoTpConfig (Region.fill 0) twoFrames 4096 (by decide) (by decide)

end Uds.Transport
