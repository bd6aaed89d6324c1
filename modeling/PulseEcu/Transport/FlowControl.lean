import PulseEcu.Transport.Delivery
import PulseEcu.Transport.Emission

open Foundation

namespace Uds.Transport

def Output.returned : Output → Option IsoTpResult
  | .result answer _ => some answer
  | _ => Option.none

def Output.sent : Output → List CanFrame
  | .result _ frames => frames
  | _ => []

def IsFc (cfg : IsoTpConfig) (fs : Byte) (frame : CanFrame) : Prop :=
  frame.id = cfg.rxId ∧ 3 ≤ frame.dlc.toNat ∧ pciType frame = 3 ∧ frame.data 0 &&& 0x0F = fs

instance (cfg : IsoTpConfig) (fs : Byte) (frame : CanFrame) : Decidable (IsFc cfg fs frame) :=
  inferInstanceAs (Decidable (_ ∧ _))

def blockFrames (bs : Byte) (left : Nat) : Nat := if bs = 0 then left else min bs.toNat left

def releasedBy (cfg : IsoTpConfig) (frame : CanFrame) (left : Nat) : Nat :=
  if IsFc cfg kFcCts frame then blockFrames (frame.data 1) left else 0

/-- What may happen while `message` is sent from the buffer at `data`: the driver takes every
    frame, the buffer keeps the message, no timer runs out and nothing else is sent. -/
def Undisturbed (data : Pointer) (message : List Byte) (s : IsoTp) : Event → Prop
  | .frame can mem _ => can.Reliable ∧ (mem data).load 0 message.length = message
  | .update now => s.txState = .waitFc → s.txDeadline = 0 ∨ now < s.txDeadline
  | .send .. => False
  | .getData .. => True

structure Progress (data : Pointer) (message : List Byte) (s : IsoTp) (k : Nat) : Prop where
  data : s.txData = some data
  total : s.txTotal = message.length
  offset : s.txOffset = min (6 + 7 * k) message.length
  sn : s.txSn = sequenceNumber (k + 1)
  bound : k ≤ cfCount message.length
  waiting : k ≠ cfCount message.length → s.txState = .waitFc
  finished : k = cfCount message.length → s.txState = .idle

variable {s : IsoTp} {mem : Memory} {data : Pointer} {message : List Byte} {k : Nat} {frame : CanFrame}

theorem blockFrames_eq (bs : Byte) (left : Nat) : released bs 0 left = blockFrames bs left := rfl

theorem IsFc.handled {fs : Byte} (fc : IsFc s.cfg fs frame) (can : ICanInterface) (mem : Memory) :
    s.processFrame can mem frame = s.handleFc can mem frame := by
  obtain ⟨id, dlc, type, _⟩ := fc
  have nonempty : frame.dlc ≠ 0 := by
    intro zero
    rw [zero] at dlc
    exact absurd dlc (by decide)
  exact IsoTp.processFrame_flowControl can mem s frame id nonempty type

theorem IsFc.enough {cfg : IsoTpConfig} {fs : Byte} (fc : IsFc cfg fs frame) : ¬ frame.dlc < 3 := by
  intro short
  exact absurd (BitVec.lt_def.mp short) (Nat.not_lt.mpr fc.2.1)

theorem Progress.sends (progress : Progress data message s k)
    (stored : (mem data).load 0 message.length = message) : Sends s mem message k := by
  constructor
  · rw [IsoTp.txBytes, progress.data]
    exact load_rest (n := 0) stored _ (Nat.zero_le _)
  · exact progress.total
  · exact progress.offset
  · exact progress.sn
  · exact progress.bound

theorem Progress.of_sends (sends : Sends s mem message k) (pointer : s.txData = some data)
    (waiting : k ≠ cfCount message.length → s.txState = .waitFc)
    (finished : k = cfCount message.length → s.txState = .idle) : Progress data message s k :=
  ⟨pointer, sends.total, sends.offset, sends.sn, sends.bound, waiting, finished⟩

theorem Progress.of_fields {t : IsoTp} (progress : Progress data message s k) (pointer : t.txData = s.txData)
    (total : t.txTotal = s.txTotal) (offset : t.txOffset = s.txOffset) (sn : t.txSn = s.txSn)
    (state : t.txState = s.txState) : Progress data message t k := by
  constructor
  · exact pointer.trans progress.data
  · exact total.trans progress.total
  · exact offset.trans progress.offset
  · exact sn.trans progress.sn
  · exact progress.bound
  · rw [state]
    exact progress.waiting
  · rw [state]
    exact progress.finished

theorem Progress.of_tx {t : IsoTp} (same : t.tx = s.tx) (progress : Progress data message s k) :
    Progress data message t k := by
  simp only [IsoTp.tx, TxView.mk.injEq] at same
  obtain ⟨state, pointer, total, offset, sn, _⟩ := same
  exact progress.of_fields pointer total offset sn state

theorem Progress.idle_iff (progress : Progress data message s k) :
    s.txState = .idle ↔ s.txOffset = message.length := by
  have count := lt_cfCount k message.length
  have offset := progress.offset
  have bound := progress.bound
  by_cases last : k = cfCount message.length
  · have state := progress.finished last
    constructor
    · intro _
      omega
    · intro _
      exact state
  · have state := progress.waiting last
    constructor
    · intro idle
      cases state.symm.trans idle
    · intro all
      omega

theorem Progress.waiting_iff (progress : Progress data message s k) :
    s.txState = .waitFc ↔ s.txOffset < message.length := by
  have count := lt_cfCount k message.length
  have offset := progress.offset
  have bound := progress.bound
  by_cases last : k = cfCount message.length
  · have state := progress.finished last
    constructor
    · intro waiting
      cases state.symm.trans waiting
    · intro left
      omega
  · have state := progress.waiting last
    constructor
    · intro _
      omega
    · intro _
      exact state

structure Advances (data : Pointer) (message : List Byte) (before : IsoTp) (k count : Nat) (outcome : Outcome) :
    Prop where
  sent : cfsOf outcome.sent = (List.range' k count).map (segmentFrame before.cfg message)
  progress : Progress data message outcome.state (k + count)

theorem Advances.stays {outcome : Outcome} (none : cfsOf outcome.sent = [])
    (progress : Progress data message outcome.state k) : Advances data message s k 0 outcome :=
  ⟨none, progress⟩

theorem Progress.continued (progress : Progress data message s k) (waiting : s.txState = .waitFc)
    {can : ICanInterface} (reliable : can.Reliable) (stored : (mem data).load 0 message.length = message)
    (fc : IsFc s.cfg kFcCts frame) :
    Burst mem message s k (blockFrames (frame.data 1) (cfCount message.length - k))
      (s.processFrame can mem frame) [] := by
  have opened : Sends { s with
      txBsRem := frame.data 1
      txBsCount := 0
      txStMin := if frame.data 2 ≤ 0x7F then (frame.data 2).setWidth 32 else 1
      txState := .sending } mem message k := (progress.sends stored).of_fields rfl rfl rfl rfl
  have burst := sendNextCfLoop_burst can reliable (s.txTotal - s.txOffset) [] opened (Nat.le_refl _)
  rw [fc.handled]
  simp only [IsoTp.handleFc, waiting, fc.enough, fc.2.2.2, ne_eq, not_true_eq_false, if_false]
  exact ⟨burst.sent, burst.sends, burst.finished, burst.waiting⟩

theorem handleFc_wait (can : ICanInterface) (waiting : s.txState = .waitFc) (fc : IsFc s.cfg kFcWait frame) :
    s.processFrame can mem frame = ⟨.pending, { s with txDeadline := can.getTickMs + s.cfg.nBsMs }, []⟩ := by
  rw [fc.handled]
  simp only [IsoTp.handleFc, waiting, fc.enough, fc.2.2.2, ne_eq, not_true_eq_false, if_false]
  rfl

theorem handleFc_other (can : ICanInterface) (status : ¬ (3 ≤ frame.dlc.toNat ∧ frame.data 0 &&& 0x0F = kFcCts)) :
    (s.handleFc can mem frame).sent = [] ∧
      ∃ deadline, (s.handleFc can mem frame).state = { s with txDeadline := deadline } := by
  by_cases waiting : s.txState = .waitFc
  · simp only [IsoTp.handleFc, waiting, ne_eq, not_true_eq_false, if_false]
    split
    · exact ⟨rfl, s.txDeadline, by rw [← waiting]⟩
    · rename_i long
      have enough : 3 ≤ frame.dlc.toNat := Nat.not_lt.mp fun short => long (BitVec.lt_def.mpr short)
      have other : frame.data 0 &&& 0x0F ≠ kFcCts := fun same => status ⟨enough, same⟩
      split
      · exact ⟨rfl, s.txDeadline, by rw [← waiting]⟩
      · split
        · exact ⟨rfl, _, by rw [← waiting]⟩
        · exact ⟨rfl, s.txDeadline, by rw [← waiting]⟩
  · have ignored : s.handleFc can mem frame = ⟨.error, s, []⟩ := if_pos waiting
    rw [ignored]
    exact ⟨rfl, s.txDeadline, rfl⟩

theorem handleFc_refused (can : ICanInterface) (idle : s.txState ≠ .waitFc) :
    s.handleFc can mem frame = ⟨.error, s, []⟩ := if_pos idle

theorem Progress.kept (progress : Progress data message s k) (can : ICanInterface)
    (other : ¬ IsFc s.cfg kFcCts frame ∨ s.txState ≠ .waitFc) :
    Advances data message s k 0 (s.processFrame can mem frame) := by
  by_cases unaddressed : frame.id ≠ s.cfg.rxId ∨ frame.dlc = 0
  · have ignored : s.processFrame can mem frame = ⟨.error, s, []⟩ := if_pos unaddressed
    rw [ignored]
    exact .stays rfl progress
  · obtain ⟨addressed, _⟩ := not_or.mp unaddressed
    have id := Decidable.not_not.mp addressed
    apply IsoTp.processFrame_cases (Advances data message s k 0)
    · exact .stays rfl progress
    · intro _
      apply Advances.stays
      · rw [handleSf_sent]
        rfl
      · exact progress.of_tx (IsoTp.handleSf_tx s frame)
    · intro _
      apply Advances.stays
      · exact cfsOf_eq_nil (handleFf_sent can s frame)
      · exact progress.of_tx (IsoTp.handleFf_tx can s frame)
    · intro _
      apply Advances.stays
      · rw [handleCf_sent]
        rfl
      · exact progress.of_tx (IsoTp.handleCf_tx can s frame)
    · intro type
      rcases other with status | idle
      · have status : ¬ (3 ≤ frame.dlc.toNat ∧ frame.data 0 &&& 0x0F = kFcCts) := by
          intro fc
          exact status ⟨id, fc.1, type, fc.2⟩
        obtain ⟨none, deadline, same⟩ := @handleFc_other s mem frame can status
        apply Advances.stays
        · rw [none]
          rfl
        · rw [same]
          exact progress.of_fields rfl rfl rfl rfl rfl
      · rw [handleFc_refused can idle]
        exact .stays rfl progress

theorem Progress.fed (progress : Progress data message s k) {can : ICanInterface} (reliable : can.Reliable)
    (stored : (mem data).load 0 message.length = message) :
    Advances data message s k (releasedBy s.cfg frame (cfCount message.length - k)) (s.processFrame can mem frame) := by
  by_cases fc : IsFc s.cfg kFcCts frame
  · rw [releasedBy, if_pos fc]
    by_cases waiting : s.txState = .waitFc
    · have burst := progress.continued waiting reliable stored fc
      constructor
      · rw [burst.sent, List.nil_append]
        exact cfsOf_segments ..
      · apply Progress.of_sends burst.sends
        · exact (IsoTp.processFrame_txData ..).trans progress.data
        · exact fun more => (burst.waiting more).2
        · exact fun last => (burst.finished last).2
    · have last : k = cfCount message.length := Decidable.byContradiction fun more => waiting (progress.waiting more)
      have none : blockFrames (frame.data 1) (cfCount message.length - k) = 0 := by
        rw [last, Nat.sub_self, ← blockFrames_eq, released_zero]
      rw [none]
      exact progress.kept can (Or.inr waiting)
  · rw [releasedBy, if_neg fc]
    exact progress.kept can (Or.inl fc)

theorem update_early (now : Word) (early : s.txState = .waitFc → s.txDeadline = 0 ∨ now < s.txDeadline) :
    (s.update now).tx = s.tx := by
  apply IsoTp.update_tx_early
  intro expired
  obtain ⟨waiting, armed, late⟩ := expired
  rcases early waiting with off | early
  · rw [off] at armed
    exact absurd armed (by decide)
  · exact absurd early (BitVec.not_lt.mpr late)

def emitted (record : List Entry) : List CanFrame := record.flatMap fun entry => cfsOf entry.output.sent

theorem emitted_snoc (record : List Entry) (entry : Entry) :
    emitted (record ++ [entry]) = emitted record ++ cfsOf entry.output.sent := by
  simp [emitted]

structure Transmission (cfg : IsoTpConfig) (data : Pointer) (message : List Byte) (record : List Entry)
    (s : IsoTp) : Prop where
  config : s.cfg = cfg
  sent : emitted record = (List.range (emitted record).length).map (segmentFrame cfg message)
  progress : Progress data message s (emitted record).length

theorem Transmission.snoc {cfg : IsoTpConfig} {record : List Entry} (transmission : Transmission cfg data message record s)
    {event : Event} {count : Nat} (sent : cfsOf (isoTp.entry s event).output.sent =
      (List.range' (emitted record).length count).map (segmentFrame cfg message))
    (progress : Progress data message (isoTp.next s event) ((emitted record).length + count)) :
    Transmission cfg data message (record ++ [isoTp.entry s event]) (isoTp.next s event) := by
  have size : (emitted (record ++ [isoTp.entry s event])).length = (emitted record).length + count := by
    rw [emitted_snoc, sent, List.length_append, List.length_map, List.length_range']
  constructor
  · rw [IsoTp.next_cfg]
    exact transmission.config
  · rw [size, emitted_snoc, sent, List.range_eq_range', ← List.range'_append_1, List.map_append, Nat.zero_add,
      ← List.range_eq_range', ← transmission.sent]
  · rw [size]
    exact progress

theorem Transmission.next {cfg : IsoTpConfig} {record : List Entry} (transmission : Transmission cfg data message record s)
    (event : Event) (undisturbed : Undisturbed data message s event) :
    Transmission cfg data message (record ++ [isoTp.entry s event]) (isoTp.next s event) := by
  have none : (List.range' (emitted record).length 0).map (segmentFrame cfg message) = [] := rfl
  cases event with
  | frame can mem frame =>
    obtain ⟨reliable, stored⟩ := undisturbed
    have advances := @Progress.fed s mem data message _ frame transmission.progress can reliable stored
    apply transmission.snoc
    · rw [← transmission.config]
      exact advances.sent
    · exact advances.progress
  | update now =>
    apply transmission.snoc
    · exact none.symm
    · exact transmission.progress.of_tx (update_early now undisturbed)
  | send can mem data length => exact absurd undisturbed id
  | getData given maxLen =>
    apply transmission.snoc
    · exact none.symm
    · exact transmission.progress.of_tx (IsoTp.getData_tx s given maxLen)

theorem cfPayload_segmentFrame (cfg : IsoTpConfig) (message : List Byte) (k : Nat) :
    cfPayload (segmentFrame cfg message k) = segment message k := by
  have size := segment_length message k
  have shape := segmentFrame_shape cfg { cfg with rxId := cfg.txId } rfl message k
  have dlc : (segmentFrame cfg message k).dlc.toNat = (segment message k).length + 1 := by
    show (BitVec.ofNat 8 ((segment message k).length + 1)).toNat = _
    rw [BitVec.toNat_ofNat]
    omega
  have carried : min 7 ((segmentFrame cfg message k).dlc.toNat - 1) = (segment message k).length := by omega
  rw [cfPayload, carried]
  exact shape.bytes

theorem cfSn_segmentFrame (cfg : IsoTpConfig) (message : List Byte) (k : Nat) :
    cfSn (segmentFrame cfg message k) = sequenceNumber (k + 1) :=
  (segmentFrame_shape cfg { cfg with rxId := cfg.txId } rfl message k).sn

theorem take_segments (cfg : IsoTpConfig) (message : List Byte) (n : Nat) :
    message.take 6 ++ ((List.range n).map (segmentFrame cfg message)).flatMap cfPayload = message.take (6 + 7 * n) := by
  induction n with
  | zero => simp
  | succ n ih =>
    rw [List.range_succ, List.map_append, List.flatMap_append, ← List.append_assoc, ih, ← take_segment]
    simp [cfPayload_segmentFrame]

/-- What has gone out so far: `opening` is what `send` handed to the driver, `record` the calls since. -/
structure Emission (message : List Byte) (opening : List CanFrame) (record : List Entry) (s : IsoTp) : Prop where
  bytes : opening.flatMap (fun frame => frame.data.load 2 6) ++ (emitted record).flatMap cfPayload =
    message.take s.txOffset
  bound : s.txOffset ≤ message.length
  full : ∀ i frame, (emitted record)[i]? = some frame → i + 1 < cfCount message.length → (cfPayload frame).length = 7
  numbered : ∀ i frame, (emitted record)[i]? = some frame → cfSn frame = sequenceNumber (i + 1)
  idle : s.txState = .idle ↔ s.txOffset = message.length
  waiting : s.txState = .waitFc ↔ s.txOffset < message.length

/-- What one call of the run releases and answers, `past` being the calls before it. -/
structure FlowControlled (cfg : IsoTpConfig) (message : List Byte) (past : List Entry) (entry : Entry) : Prop where
  block : ∀ can mem frame, entry.event = .frame can mem frame → IsFc cfg kFcCts frame →
    (cfsOf entry.output.sent).length = blockFrames (frame.data 1) (cfCount message.length - (emitted past).length)
  silent : (∀ can mem frame, entry.event = .frame can mem frame → ¬ IsFc cfg kFcCts frame) →
    cfsOf entry.output.sent = []
  ended : ∀ can mem frame, entry.event = .frame can mem frame → IsFc cfg kFcCts frame ∨ IsFc cfg kFcWait frame →
    entry.before.txOffset < message.length → entry.after.txOffset = message.length →
    entry.output.returned = some .ok ∧ entry.after.txState = .idle
  suspended : ∀ can mem frame, entry.event = .frame can mem frame → IsFc cfg kFcCts frame ∨ IsFc cfg kFcWait frame →
    entry.after.txOffset ≠ message.length →
    entry.output.returned = some .pending ∧ entry.after.txState = .waitFc
  late : ∀ can mem frame, entry.event = .frame can mem frame → IsFc cfg kFcCts frame ∨ IsFc cfg kFcWait frame →
    entry.before.txOffset = message.length → entry.output.returned = some .error ∧ entry.after = entry.before

theorem Transmission.emission {cfg : IsoTpConfig} {record : List Entry} {opening : List CanFrame}
    (transmission : Transmission cfg data message record s)
    (opened : opening.flatMap (fun frame => frame.data.load 2 6) = message.take 6) :
    Emission message opening record s := by
  have progress := transmission.progress
  have nth : ∀ i frame, (emitted record)[i]? = some frame → frame = segmentFrame cfg message i := by
    intro i frame found
    obtain ⟨inside, _⟩ := List.getElem?_eq_some_iff.mp found
    rw [transmission.sent, List.getElem?_map, List.getElem?_range inside] at found
    exact (Option.some.inj found).symm
  constructor
  · rw [opened, transmission.sent, take_segments, progress.offset, List.take_eq_take_iff]
    omega
  · rw [progress.offset]
    exact Nat.min_le_right _ _
  · intro i frame found more
    have size := segment_length message i
    have inside := (lt_cfCount (i + 1) message.length).mp more
    rw [nth i frame found, cfPayload_segmentFrame]
    omega
  · intro i frame found
    rw [nth i frame found]
    exact cfSn_segmentFrame cfg message i
  · exact progress.idle_iff
  · exact progress.waiting_iff

theorem Progress.answered (progress : Progress data message s k) (waiting : s.txState = .waitFc) {can : ICanInterface}
    (reliable : can.Reliable) (stored : (mem data).load 0 message.length = message)
    (fc : IsFc s.cfg kFcCts frame ∨ IsFc s.cfg kFcWait frame) :
    ((s.processFrame can mem frame).state.txOffset = message.length →
      (s.processFrame can mem frame).result = .ok ∧ (s.processFrame can mem frame).state.txState = .idle) ∧
    ((s.processFrame can mem frame).state.txOffset ≠ message.length →
      (s.processFrame can mem frame).result = .pending ∧ (s.processFrame can mem frame).state.txState = .waitFc) := by
  rcases fc with cts | wait
  · have burst := progress.continued waiting reliable stored cts
    have offset := burst.sends.offset
    have bound := burst.sends.bound
    have count := lt_cfCount (k + blockFrames (frame.data 1) (cfCount message.length - k)) message.length
    constructor
    · intro all
      apply burst.finished
      omega
    · intro left
      apply burst.waiting
      omega
  · have unsent := progress.waiting_iff.mp waiting
    rw [handleFc_wait can waiting wait]
    constructor
    · intro all
      exact absurd all (Nat.ne_of_lt unsent)
    · intro _
      exact ⟨rfl, waiting⟩

theorem Progress.refused (progress : Progress data message s k) (all : s.txOffset = message.length)
    (can : ICanInterface) (mem : Memory) (fc : IsFc s.cfg kFcCts frame ∨ IsFc s.cfg kFcWait frame) :
    s.processFrame can mem frame = ⟨.error, s, []⟩ := by
  have idle := progress.idle_iff.mpr all
  have handled : ∃ fs, IsFc s.cfg fs frame := by
    rcases fc with cts | wait
    · exact ⟨kFcCts, cts⟩
    · exact ⟨kFcWait, wait⟩
  obtain ⟨fs, status⟩ := handled
  rw [status.handled]
  apply handleFc_refused
  rw [idle]
  simp

theorem FlowControlled.quiet {cfg : IsoTpConfig} {past : List Entry} {entry : Entry}
    (other : ∀ can mem frame, entry.event ≠ .frame can mem frame) (silent : cfsOf entry.output.sent = []) :
    FlowControlled cfg message past entry where
  block can mem frame given := absurd given (other can mem frame)
  silent _ := silent
  ended can mem frame given := absurd given (other can mem frame)
  suspended can mem frame given := absurd given (other can mem frame)
  late can mem frame given := absurd given (other can mem frame)

theorem Transmission.entry {cfg : IsoTpConfig} {record : List Entry}
    (transmission : Transmission cfg data message record s) (event : Event)
    (undisturbed : Undisturbed data message s event) : FlowControlled cfg message record (isoTp.entry s event) := by
  have progress := transmission.progress
  have config := transmission.config
  subst config
  cases event with
  | frame can mem frame =>
    obtain ⟨reliable, stored⟩ := undisturbed
    have advances := @Progress.fed s mem data message _ frame progress can reliable stored
    have released : (cfsOf (isoTp.entry s (.frame can mem frame)).output.sent).length =
        releasedBy s.cfg frame (cfCount message.length - (emitted record).length) := by
      have sent := congrArg List.length advances.sent
      rwa [List.length_map, List.length_range'] at sent
    constructor
    · intro _ _ _ given cts
      cases given
      rw [released, releasedBy, if_pos cts]
    · intro other
      have none := released
      rw [releasedBy, if_neg (other can mem frame rfl)] at none
      exact List.length_eq_zero_iff.mp none
    · intro _ _ _ given fc left all
      cases given
      have answered := (progress.answered (progress.waiting_iff.mpr left) reliable stored fc).1 all
      exact ⟨congrArg some answered.1, answered.2⟩
    · intro _ _ _ given fc more
      cases given
      have unfinished : s.txState = .waitFc := by
        rw [progress.waiting_iff]
        apply Decidable.byContradiction
        intro all
        have offset := progress.offset
        have same : s.txOffset = message.length := by omega
        have after : (isoTp.entry s (.frame can mem frame)).after = s :=
          congrArg Outcome.state (progress.refused same can mem fc)
        apply more
        rw [after, same]
      have answered := (progress.answered unfinished reliable stored fc).2 more
      exact ⟨congrArg some answered.1, answered.2⟩
    · intro _ _ _ given fc all
      cases given
      have refused := progress.refused all can mem fc
      exact ⟨congrArg (fun outcome : Outcome => some outcome.result) refused, congrArg Outcome.state refused⟩
  | update now => exact .quiet (fun _ _ _ given => nomatch given) rfl
  | send can mem data length => exact absurd undisturbed id
  | getData given maxLen => exact .quiet (fun _ _ _ given => nomatch given) rfl

theorem send_pending (can : ICanInterface) (pending : (s.send can mem (some data) message.length).result = .pending)
    (stored : (mem data).load 0 message.length = message) :
    Transmission s.cfg data message [] (s.send can mem (some data) message.length).state ∧
      (s.send can mem (some data) message.length).sent.flatMap (fun frame => frame.data.load 2 6) = message.take 6 := by
  have multi : Multi can message.length := by
    unfold IsoTp.send at pending
    dsimp only at pending
    split at pending
    · cases pending
    · rename_i accepted
      split at pending
      · split at pending
        · cases pending
        · cases pending
      · split at pending
        · rename_i taken
          exact ⟨by omega, by omega, taken⟩
        · cases pending
  obtain ⟨long, fits, taken⟩ := multi
  have some_left : 0 < cfCount message.length := (lt_cfCount 0 message.length).mpr (by omega)
  rw [IsoTp.send_first can mem s data message.length long fits taken]
  constructor
  · constructor
    · rfl
    · rfl
    · apply Progress.of_sends (Sends.started can s long stored)
      · rfl
      · exact fun _ => rfl
      · intro none
        exact absurd none (Nat.ne_of_lt some_left)
  · simp [ffFrame_bytes s mem data message stored long]

/-- The law of flow-controlled transmission, at every point of every undisturbed run. -/
theorem flow_controlled_transmission (can : ICanInterface) (mem : Memory) (s : IsoTp) (data : Pointer)
    (message : List Byte) (events : List Event) (stored : (mem data).load 0 message.length = message)
    (pending : (s.send can mem (some data) message.length).result = .pending)
    (undisturbed : ∀ entry ∈ isoTp.trace (s.send can mem (some data) message.length).state events,
      Undisturbed data message entry.before entry.event) :
    Emission message (s.send can mem (some data) message.length).sent
        (isoTp.trace (s.send can mem (some data) message.length).state events)
        (isoTp.run (s.send can mem (some data) message.length).state events) ∧
      ∀ past entry later, isoTp.trace (s.send can mem (some data) message.length).state events =
        past ++ entry :: later → FlowControlled s.cfg message past entry := by
  obtain ⟨started, opened⟩ := send_pending can pending stored
  have transmits : ∀ begun, (∀ entry ∈ isoTp.trace (s.send can mem (some data) message.length).state begun,
      Undisturbed data message entry.before entry.event) →
      Transmission s.cfg data message (isoTp.trace (s.send can mem (some data) message.length).state begun)
        (isoTp.run (s.send can mem (some data) message.length).state begun) :=
    fun begun => isoTp.trace_invariant (fun _ _ event transmission allowed => transmission.next event allowed)
      _ begun started
  constructor
  · exact (transmits events undisturbed).emission opened
  · intro past entry later split
    obtain ⟨first, event, _, _, rfl, rfl, _⟩ := isoTp.trace_split split
    have before := transmits first fun entry member =>
      undisturbed entry (split ▸ List.mem_append_left _ member)
    exact before.entry event (undisturbed _ (split ▸ List.mem_append_right _ List.mem_cons_self))

def twentyBytes : List Byte := (List.range 20).map (BitVec.ofNat 8)

def twentyMemory : Memory := fun _ => (Region.fill 0).store 0 twentyBytes

def twentyRun : List Event :=
  [[0x31, 0, 0], [0x30, 1, 0], [0x02, 0x3E, 0x00], [0x30, 0, 0]].map
    fun bytes => .frame .ready twentyMemory (.make kDefaultIsoTpConfig.rxId bytes 3)

theorem flow_controlled_transmission_twenty :
    Emission twentyBytes ((IsoTp.create kDefaultIsoTpConfig (Region.fill 0)).send .ready twentyMemory (some 0) 20).sent
        (isoTp.trace ((IsoTp.create kDefaultIsoTpConfig (Region.fill 0)).send .ready twentyMemory (some 0) 20).state
          twentyRun)
        (isoTp.run ((IsoTp.create kDefaultIsoTpConfig (Region.fill 0)).send .ready twentyMemory (some 0) 20).state
          twentyRun) ∧
      (isoTp.run ((IsoTp.create kDefaultIsoTpConfig (Region.fill 0)).send .ready twentyMemory (some 0) 20).state
        twentyRun).txOffset = 20 := by
  have undisturbed : ∀ event ∈ twentyRun, ∀ s, Undisturbed 0 twentyBytes s event := by
    intro event member s
    obtain ⟨bytes, _, rfl⟩ := List.mem_map.mp member
    exact ⟨ICanInterface.ready_reliable, rfl⟩
  constructor
  · exact (flow_controlled_transmission .ready twentyMemory (.create kDefaultIsoTpConfig (Region.fill 0)) 0 twentyBytes
      twentyRun rfl rfl fun entry member => undisturbed _ (isoTp.event_of_mem_trace member) _).1
  · rfl

end Uds.Transport
