import PulseEcu.Transport.Segmentation
import PulseEcu.Transport.Views

open Foundation

namespace Uds.Transport

def segmentFrame (cfg : IsoTpConfig) (message : List Byte) (k : Nat) : CanFrame :=
  .make cfg.txId ((0x20 ||| sequenceNumber (k + 1)) :: segment message k)
    (BitVec.ofNat 8 ((segment message k).length + 1))

/-- The first frame and k consecutive frames of a message have been handed out; the rest of
    it lies where the transmitter will read it. -/
structure Sends (s : IsoTp) (mem : Memory) (message : List Byte) (k : Nat) : Prop where
  bytes : (s.txBytes mem).load (6 + 7 * k) (message.length - (6 + 7 * k)) = message.drop (6 + 7 * k)
  total : s.txTotal = message.length
  offset : s.txOffset = min (6 + 7 * k) message.length
  sn : s.txSn = sequenceNumber (k + 1)
  bound : k ≤ cfCount message.length

theorem make_load (id : Word) (header bytes : List Byte) (dlc : Byte) :
    (CanFrame.make id (header ++ bytes) dlc).data.load header.length bytes.length = bytes := by
  have loaded := Region.load_store_drop (Region.fill (0 : Byte)) (header ++ bytes) header.length
  rwa [List.length_append, Nat.add_sub_cancel_left, List.drop_left] at loaded

theorem segmentFrame_shape (cfg receiver : IsoTpConfig) (ids : receiver.rxId = cfg.txId) (message : List Byte)
    (k : Nat) : IsConsecutiveFrame receiver message k (segmentFrame cfg message k) := by
  have size := segment_length message k
  have dlc : (BitVec.ofNat 8 ((segment message k).length + 1)).toNat = (segment message k).length + 1 := by
    rw [BitVec.toNat_ofNat]
    omega
  refine ⟨ids.symm, ?_, ?_, rfl, make_load cfg.txId [0x20 ||| sequenceNumber (k + 1)] (segment message k) _⟩
  · show (segment message k).length < (BitVec.ofNat 8 ((segment message k).length + 1)).toNat
    omega
  · show (BitVec.ofNat 8 ((segment message k).length + 1)).toNat ≤ 8
    omega

theorem sfFrame_shape (s : IsoTp) (receiver : IsoTpConfig) (ids : receiver.rxId = s.cfg.txId) (mem : Memory)
    (data : Pointer) (message : List Byte) (bytes : (mem data).load 0 message.length = message)
    (short : message.length ≤ 7) : IsSingleFrame receiver message (s.sfFrame mem data message.length) := by
  have low : message.length &&& 0x0F = message.length := by
    have mask : message.length &&& 0x0F = message.length % 16 := Nat.and_two_pow_sub_one_eq_mod _ 4
    omega
  refine ⟨ids.symm, ?_, ?_, ?_⟩
  · show message.length < (BitVec.ofNat 8 (message.length + 1)).toNat
    rw [BitVec.toNat_ofNat]
    omega
  · show BitVec.ofNat 8 (message.length &&& 0x0F) = _
    rw [low]
  · have loaded := make_load s.cfg.txId [BitVec.ofNat 8 (message.length &&& 0x0F)]
      ((mem data).load 0 message.length) (BitVec.ofNat 8 (message.length + 1))
    rw [Region.load_length, bytes] at loaded
    rw [IsoTp.sfFrame, bytes]
    exact loaded

theorem ffFrame_bytes (s : IsoTp) (mem : Memory) (data : Pointer) (message : List Byte)
    (bytes : (mem data).load 0 message.length = message) (lower : 8 ≤ message.length) :
    (s.ffFrame mem data message.length).data.load 2 6 = message.take 6 := by
  have six : (mem data).load 0 6 = message.take 6 := by
    have front := congrArg (List.take 6) bytes
    rwa [Region.load_take, Nat.min_eq_left (by omega)] at front
  have loaded := make_load s.cfg.txId [BitVec.ofNat 8 (0x10 ||| ((message.length >>> 8) &&& 0x0F)),
    BitVec.ofNat 8 (message.length &&& 0xFF)] ((mem data).load 0 6) 8
  rw [Region.load_length, six] at loaded
  rw [IsoTp.ffFrame, six]
  exact loaded

theorem ffFrame_shape (s : IsoTp) (receiver : IsoTpConfig) (ids : receiver.rxId = s.cfg.txId) (mem : Memory)
    (data : Pointer) (message : List Byte) (bytes : (mem data).load 0 message.length = message)
    (lower : 8 ≤ message.length) (upper : message.length ≤ 4095) :
    IsFirstFrame receiver message (s.ffFrame mem data message.length) := by
  have high : (message.length >>> 8) &&& 0x0F = message.length / 256 := by
    have mask : (message.length / 2^8) &&& 0x0F = message.length / 2^8 % 16 := Nat.and_two_pow_sub_one_eq_mod _ 4
    rw [Nat.shiftRight_eq_div_pow, mask]
    omega
  have low : message.length &&& 0xFF = message.length % 256 := Nat.and_two_pow_sub_one_eq_mod _ 8
  refine ⟨ids.symm, rfl, ?_, ?_, ffFrame_bytes s mem data message bytes lower⟩
  · show BitVec.ofNat 8 (0x10 ||| ((message.length >>> 8) &&& 0x0F)) = _
    rw [high, BitVec.ofNat_or]
    rfl
  · show BitVec.ofNat 8 (message.length &&& 0xFF) = _
    rw [low]

def released (bs count : Byte) (left : Nat) : Nat := if bs = 0 then left else min (bs.toNat - count.toNat) left

theorem byte_succ_toNat {count bound : Byte} (below : count.toNat < bound.toNat) :
    (count + 1).toNat = count.toNat + 1 := by
  have limit := bound.isLt
  have one : (1 : Byte).toNat = 1 := rfl
  rw [BitVec.toNat_add, one]
  omega

theorem released_zero (bs count : Byte) : released bs count 0 = 0 := by simp [released]

theorem released_full {bs count : Byte} (full : bs ≠ 0 ∧ count ≥ bs) (left : Nat) : released bs count left = 0 := by
  have reached := BitVec.le_def.mp full.2
  rw [released, if_neg full.1]
  omega

theorem released_succ {bs count : Byte} (room : bs = 0 ∨ count.toNat < bs.toNat) (left : Nat) :
    released bs count (left + 1) = 1 + released bs (count + 1) left := by
  unfold released
  rcases room with zero | below
  · simp only [zero, if_true]
    omega
  · have nonzero : bs ≠ 0 := by
      intro zero
      rw [zero] at below
      exact Nat.not_lt_zero _ below
    rw [if_neg nonzero, if_neg nonzero, byte_succ_toNat below]
    omega

variable {s : IsoTp} {mem : Memory} {message : List Byte} {k : Nat}

theorem Sends.of_fields {t : IsoTp} (sends : Sends s mem message k) (data : t.txData = s.txData)
    (total : t.txTotal = s.txTotal) (offset : t.txOffset = s.txOffset) (sn : t.txSn = s.txSn) :
    Sends t mem message k := by
  have cells : t.txBytes mem = s.txBytes mem := by rw [IsoTp.txBytes, IsoTp.txBytes, data]
  constructor
  · rw [cells]
    exact sends.bytes
  · exact total.trans sends.total
  · exact offset.trans sends.offset
  · exact sn.trans sends.sn
  · exact sends.bound

theorem Sends.unfinished (sends : Sends s mem message k) :
    s.txOffset < s.txTotal ↔ k < cfCount message.length := by
  rw [sends.offset, sends.total, lt_cfCount]
  omega

theorem Sends.copyLen (sends : Sends s mem message k) : s.txCopyLen = (segment message k).length := by
  rw [segment_length]
  simp only [IsoTp.txCopyLen, sends.offset, sends.total]
  split <;> omega

theorem load_rest {cells : Region Byte} {n : Nat}
    (bytes : cells.load n (message.length - n) = message.drop n) (m : Nat) (further : n ≤ m) :
    cells.load m (message.length - m) = message.drop m := by
  have dropped := congrArg (List.drop (m - n)) bytes
  rw [Region.load_drop, List.drop_drop, Nat.sub_sub, Nat.add_sub_cancel' further] at dropped
  exact dropped

theorem Sends.load (sends : Sends s mem message k) :
    (s.txBytes mem).load s.txOffset (segment message k).length = segment message k := by
  have size := segment_length message k
  have taken := congrArg (List.take 7) sends.bytes
  rw [Region.load_take] at taken
  by_cases inside : 6 + 7 * k ≤ message.length
  · rw [size, sends.offset, Nat.min_eq_left inside]
    exact taken
  · have none : (segment message k).length = 0 := by omega
    rw [none, List.length_eq_zero_iff.mp none]
    rfl

theorem Sends.frame (sends : Sends s mem message k) : s.cfFrame mem = segmentFrame s.cfg message k := by
  have loaded : (s.txBytes mem).load s.txOffset s.txCopyLen = segment message k := by
    rw [sends.copyLen]
    exact sends.load
  rw [IsoTp.cfFrame, loaded, sends.copyLen, sends.sn, sequenceNumber_nibble]
  rfl

def IsoTp.started (can : ICanInterface) (s : IsoTp) (data : Pointer) (length : Nat) : IsoTp :=
  { s with
    txData := some data
    txTotal := length
    txOffset := 6
    txSn := 1
    txBsCount := 0
    txBsRem := 0
    txState := .waitFc
    txDeadline := can.getTickMs + s.cfg.nBsMs }

theorem IsoTp.send_first (can : ICanInterface) (mem : Memory) (s : IsoTp) (data : Pointer) (length : Nat)
    (long : 8 ≤ length) (fits : length ≤ maxPayload) (taken : can.send 0 = true) :
    s.send can mem (some data) length =
      ⟨.pending, s.started can data length, [s.ffFrame mem data length]⟩ := by
  have accepted : ¬ (length = 0 ∨ length > maxPayload) := by omega
  have several : ¬ length ≤ 7 := by omega
  simp only [send, if_neg accepted, if_neg several, if_pos taken, started]

theorem Sends.started (can : ICanInterface) (s : IsoTp) {data : Pointer} (long : 8 ≤ message.length)
    (bytes : (mem data).load 0 message.length = message) :
    Sends (s.started can data message.length) mem message 0 := by
  constructor
  · exact load_rest (n := 0) bytes 6 (by omega)
  · rfl
  · show 6 = min 6 message.length
    omega
  · rfl
  · exact Nat.zero_le _

theorem Sends.advance (sends : Sends s mem message k) (left : k < cfCount message.length) :
    Sends { s with
      txOffset := s.txOffset + s.txCopyLen
      txSn := (s.txSn + 1) &&& 0x0F
      txBsCount := s.txBsCount + 1 } mem message (k + 1) := by
  have size := segment_length message k
  constructor
  · exact load_rest sends.bytes _ (by omega)
  · exact sends.total
  · simp only [sends.offset, sends.copyLen]
    omega
  · simp only [sends.sn]
    exact sequenceNumber_succ (k + 1)
  · exact left

structure Burst (mem : Memory) (message : List Byte) (before : IsoTp) (k count : Nat) (outcome : Outcome)
    (sent : List CanFrame) : Prop where
  sent : outcome.sent = sent ++ (List.range' k count).map (segmentFrame before.cfg message)
  sends : Sends outcome.state mem message (k + count)
  finished : k + count = cfCount message.length → outcome.result = .ok ∧ outcome.state.txState = .idle
  waiting : k + count ≠ cfCount message.length → outcome.result = .pending ∧ outcome.state.txState = .waitFc

theorem Burst.none_left (sends : Sends s mem message k) (finished : k = cfCount message.length) (bs count : Byte)
    (sent : List CanFrame) : Burst mem message s k (released bs count (cfCount message.length - k))
      ⟨.ok, { s with txState := .idle }, sent⟩ sent := by
  rw [finished, Nat.sub_self, released_zero, ← finished]
  exact ⟨by simp, sends.of_fields rfl rfl rfl rfl, fun _ => ⟨rfl, rfl⟩, fun more => absurd finished more⟩

theorem Burst.first {count : Nat} {outcome : Outcome} {sent : List CanFrame} (before : IsoTp)
    (rest : Burst mem message s (k + 1) count outcome (sent ++ [segmentFrame before.cfg message k]))
    (cfg : s.cfg = before.cfg) : Burst mem message before k (1 + count) outcome sent := by
  constructor
  · rw [rest.sent, cfg, Nat.add_comm 1, List.range'_succ, List.map_cons, List.append_assoc]
    rfl
  · rw [← Nat.add_assoc]
    exact rest.sends
  · rw [← Nat.add_assoc]
    exact rest.finished
  · rw [← Nat.add_assoc]
    exact rest.waiting

theorem sendNextCfLoop_burst (can : ICanInterface) (reliable : can.Reliable) (rounds : Nat)
    (sent : List CanFrame) (sends : Sends s mem message k) (enough : s.txTotal - s.txOffset ≤ rounds) :
    Burst mem message s k (released s.txBsRem s.txBsCount (cfCount message.length - k))
      (IsoTp.sendNextCfLoop can mem rounds s sent) sent := by
  have bound := sends.bound
  induction rounds generalizing s k sent with
  | zero =>
    have finished : ¬ k < cfCount message.length := by
      rw [← sends.unfinished]
      omega
    exact .none_left sends (by omega) _ _ sent
  | succ rounds ih =>
    unfold IsoTp.sendNextCfLoop
    by_cases left : k < cfCount message.length
    · have unsent := sends.unfinished.mpr left
      rw [if_pos unsent]
      by_cases full : s.txBsRem ≠ 0 ∧ s.txBsCount ≥ s.txBsRem
      · rw [if_pos full, released_full full]
        refine ⟨by simp, sends.of_fields rfl rfl rfl rfl, ?_, fun _ => ⟨rfl, rfl⟩⟩
        intro finished
        omega
      · -- one more frame: `sends` goes on at k + 1, and the block has one frame less to go
        have room : s.txBsRem = 0 ∨ s.txBsCount.toNat < s.txBsRem.toNat := by
          by_cases zero : s.txBsRem = 0
          · exact Or.inl zero
          · exact Or.inr (BitVec.lt_def.mp (BitVec.not_le.mp fun above => full ⟨zero, above⟩))
        have copied : 0 < s.txCopyLen := by
          rw [IsoTp.txCopyLen]
          split <;> omega
        have rest := ih (sent ++ [s.cfFrame mem]) (sends.advance left) (by dsimp only; omega) left
        have frames : cfCount message.length - k = cfCount message.length - (k + 1) + 1 := by omega
        rw [if_neg full, if_pos (reliable sent.length), frames, released_succ room]
        rw [sends.frame] at rest ⊢
        exact rest.first s rfl
    · rw [if_neg (mt sends.unfinished.mp left)]
      exact .none_left sends (by omega) _ _ sent

theorem Sends.of_tx {t : IsoTp} (same : t.tx = s.tx) (sends : Sends s mem message k) : Sends t mem message k := by
  simp only [IsoTp.tx, TxView.mk.injEq] at same
  obtain ⟨_, data, total, offset, sn, _⟩ := same
  exact sends.of_fields data total offset sn

structure IsCts (cfg : IsoTpConfig) (frame : CanFrame) : Prop where
  id : frame.id = cfg.rxId
  dlc : 3 ≤ frame.dlc.toNat
  classic : frame.dlc.toNat ≤ 8
  pci : frame.data 0 = 0x30

theorem IsCts.handled {frame : CanFrame} (cts : IsCts s.cfg frame) (can : ICanInterface) (mem : Memory) :
    s.processFrame can mem frame = s.handleFc can mem frame := by
  have dlc : frame.dlc ≠ 0 := by
    intro zero
    have least := cts.dlc
    rw [zero] at least
    exact absurd least (by decide)
  have type : pciType frame = 3 := by
    rw [pciType, cts.pci]
    rfl
  exact IsoTp.processFrame_flowControl can mem s frame cts.id dlc type

theorem Sends.continued (sends : Sends s mem message k) (waiting : s.txState = .waitFc) (can : ICanInterface)
    (reliable : can.Reliable) {frame : CanFrame} (cts : IsCts s.cfg frame) :
    Burst mem message s k (released (frame.data 1) 0 (cfCount message.length - k))
      (s.processFrame can mem frame) [] := by
  have enough : ¬ frame.dlc < 3 := by
    intro short
    have short := BitVec.lt_def.mp short
    have least := cts.dlc
    exact absurd short (Nat.not_lt.mpr least)
  have status : frame.data 0 &&& 0x0F = kFcCts := by
    rw [cts.pci]
    rfl
  have opened : Sends { s with
      txBsRem := frame.data 1
      txBsCount := 0
      txStMin := if frame.data 2 ≤ 0x7F then (frame.data 2).setWidth 32 else 1
      txState := .sending } mem message k := sends.of_fields rfl rfl rfl rfl
  have burst := sendNextCfLoop_burst can reliable (s.txTotal - s.txOffset) [] opened (Nat.le_refl _)
  rw [cts.handled]
  simp only [IsoTp.handleFc, waiting, enough, status, ne_eq, not_true_eq_false, if_false]
  exact ⟨burst.sent, burst.sends, burst.finished, burst.waiting⟩

end Uds.Transport
