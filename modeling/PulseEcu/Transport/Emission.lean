import PulseEcu.Transport.Receive
import PulseEcu.Transport.Transmit

open Foundation

namespace Uds.Transport

variable {s : IsoTp} {mem : Memory} {message : List Byte} {k : Nat}

/-- The frame type that `send_fc` shifts in is lost: what is left of the first byte is the status. -/
theorem fc_pci : ∀ fs : Byte,
    ((kFc.setWidth 32 <<< 4) ||| (fs &&& 0x0F).setWidth 32).setWidth 8 = fs &&& 0x0F := by decide

theorem fcFrame_status (s : IsoTp) (fs bs stMin : Byte) : (s.fcFrame fs bs stMin).data 0 = fs &&& 0x0F := by
  have first : (s.fcFrame fs bs stMin).data 0 =
      ((kFc.setWidth 32 <<< 4) ||| (fs &&& 0x0F).setWidth 32).setWidth 8 := rfl
  rw [first, fc_pci]

theorem fcFrame_type (s : IsoTp) (fs bs stMin : Byte) : pciType (s.fcFrame fs bs stMin) = 0 := by
  have status : ∀ low : Byte, ((low &&& 0x0F) >>> 4) &&& 0x0F = 0 := by decide
  rw [pciType, fcFrame_status, status]

def IsCf (frame : CanFrame) : Prop := pciType frame = 2

instance (frame : CanFrame) : Decidable (IsCf frame) := inferInstanceAs (Decidable (pciType frame = 2))

def cfsOf (frames : List CanFrame) : List CanFrame := frames.filter fun frame => IsCf frame

theorem cfsOf_eq_nil {frames : List CanFrame} (other : ∀ frame ∈ frames, ¬ IsCf frame) : cfsOf frames = [] := by
  simpa [cfsOf] using other

theorem cfsOf_segments (cfg : IsoTpConfig) (message : List Byte) (ks : List Nat) :
    cfsOf (ks.map (segmentFrame cfg message)) = ks.map (segmentFrame cfg message) := by
  apply List.filter_eq_self.mpr
  intro frame member
  obtain ⟨k, _, rfl⟩ := List.mem_map.mp member
  exact decide_eq_true (segmentFrame_shape cfg { cfg with rxId := cfg.txId } rfl message k).pciType

theorem fcFrame_not_cf (s : IsoTp) (fs bs stMin : Byte) : ¬ IsCf (s.fcFrame fs bs stMin) := by
  rw [IsCf, fcFrame_type]
  decide

theorem sfFrame_not_cf (s : IsoTp) (data : Pointer) (length : Nat) : ¬ IsCf (s.sfFrame mem data length) := by
  have type : ∀ b : Byte, b.toNat < 16 → (b >>> 4) &&& 0x0F ≠ 2 := by decide
  have low : length &&& 0x0F < 16 := by
    have mask : length &&& 0x0F = length % 16 := Nat.and_two_pow_sub_one_eq_mod _ 4
    omega
  apply type (BitVec.ofNat 8 (length &&& 0x0F))
  rw [BitVec.toNat_ofNat]
  omega

theorem ffFrame_not_cf (s : IsoTp) (data : Pointer) (length : Nat) : ¬ IsCf (s.ffFrame mem data length) := by
  have first : ∀ b : Byte, ((0x10 ||| (b &&& 0x0F)) >>> 4) &&& 0x0F ≠ 2 := by decide
  have head : (s.ffFrame mem data length).data 0 = 0x10 ||| (BitVec.ofNat 8 (length >>> 8) &&& 0x0F) := by
    show BitVec.ofNat 8 (0x10 ||| ((length >>> 8) &&& 0x0F)) = _
    rw [BitVec.ofNat_or, BitVec.ofNat_and]
    rfl
  rw [IsCf, pciType, head]
  exact first _

theorem handleFf_sent (can : ICanInterface) (s : IsoTp) (frame : CanFrame) :
    ∀ reply ∈ (s.handleFf can frame).sent, ¬ IsCf reply := by
  intro reply member
  rcases IsoTp.handleFf_spec can s frame with ⟨refused, _⟩ | ⟨_, accepted⟩
  · rw [refused] at member
    cases member
  · rw [accepted] at member
    rw [List.mem_singleton.mp member]
    exact fcFrame_not_cf s _ _ _

theorem handleSf_sent (s : IsoTp) (frame : CanFrame) : (s.handleSf frame).sent = [] := by
  simp only [IsoTp.handleSf]
  repeat' split
  all_goals rfl

theorem handleCf_sent (can : ICanInterface) (s : IsoTp) (frame : CanFrame) :
    (s.handleCf can frame).sent = [] := by
  simp only [IsoTp.handleCf]
  repeat' split
  all_goals rfl

/-- Whatever the driver does, the loop hands out the next frames of the message in order, and
    where it stops to wait the message goes on from there. -/
theorem sendNextCfLoop_hands (can : ICanInterface) (rounds : Nat) (sent : List CanFrame)
    (sends : Sends s mem message k) (sending : s.txState = .sending) :
    ∃ count, (IsoTp.sendNextCfLoop can mem rounds s sent).sent =
        sent ++ (List.range' k count).map (segmentFrame s.cfg message) ∧
      ((IsoTp.sendNextCfLoop can mem rounds s sent).state.txState = .waitFc →
        Sends (IsoTp.sendNextCfLoop can mem rounds s sent).state mem message (k + count)) := by
  induction rounds generalizing s k sent with
  | zero =>
    refine ⟨0, (List.append_nil sent).symm, fun waiting => ?_⟩
    cases waiting
  | succ rounds ih =>
    unfold IsoTp.sendNextCfLoop
    by_cases left : s.txOffset < s.txTotal
    · rw [if_pos left]
      by_cases block : s.txBsRem ≠ 0 ∧ s.txBsCount ≥ s.txBsRem
      · rw [if_pos block]
        exact ⟨0, (List.append_nil sent).symm, fun _ =>
          sends.of_fields rfl rfl rfl rfl⟩
      · rw [if_neg block]
        by_cases taken : can.send sent.length = true
        · rw [if_pos taken]
          obtain ⟨count, frames, rest⟩ := ih (sent ++ [s.cfFrame mem])
            (sends.advance (sends.unfinished.mp left)) sending
          refine ⟨count + 1, ?_, fun waiting => ?_⟩
          · rw [frames, sends.frame, List.range'_succ, List.map_cons, List.append_assoc]
            rfl
          · have rest := rest waiting
            rwa [Nat.add_assoc, Nat.add_comm 1] at rest
        · -- a refused frame was handed out too, but nothing waits after it
          rw [if_neg taken]
          refine ⟨1, by rw [sends.frame]; rfl, fun waiting => ?_⟩
          cases sending.symm.trans waiting
    · rw [if_neg left]
      refine ⟨0, (List.append_nil sent).symm, fun waiting => ?_⟩
      cases waiting

def Hands (before : IsoTp) (mem : Memory) (message : List Byte) (k : Nat) (outcome : Outcome) : Prop :=
  ∃ count, cfsOf outcome.sent = (List.range' k count).map (segmentFrame before.cfg message) ∧
    (outcome.state.txState = .waitFc → Sends outcome.state mem message (k + count))

theorem Hands.idle (waits : s.txState = .waitFc → Sends s mem message k) {outcome : Outcome}
    (tx : outcome.state.tx = s.tx) (other : ∀ frame ∈ outcome.sent, ¬ IsCf frame) :
    Hands s mem message k outcome := by
  refine ⟨0, cfsOf_eq_nil other, fun waiting => (waits ?_).of_tx tx⟩
  exact (congrArg TxView.state tx).symm.trans waiting

theorem handleFc_hands (can : ICanInterface) (frame : CanFrame)
    (waits : s.txState = .waitFc → Sends s mem message k) : Hands s mem message k (s.handleFc can mem frame) := by
  by_cases waiting : s.txState = .waitFc
  · have sends := waits waiting
    simp only [IsoTp.handleFc, waiting, ne_eq, not_true_eq_false, if_false]
    split
    · exact .idle waits rfl (by simp)
    · split
      · exact .idle waits rfl (by simp)
      · split
        · exact ⟨0, rfl, fun _ => sends.of_fields rfl rfl rfl rfl⟩
        · split
          · exact .idle waits rfl (by simp)
          · obtain ⟨count, frames, rest⟩ := sendNextCfLoop_hands can (s.txTotal - s.txOffset) []
              (sends.of_fields rfl rfl rfl rfl : Sends { s with
                txBsRem := frame.data 1
                txBsCount := 0
                txStMin := if frame.data 2 ≤ 0x7F then (frame.data 2).setWidth 32 else 1
                txState := .sending } mem message k) rfl
            refine ⟨count, ?_, rest⟩
            rw [IsoTp.sendNextCf, frames, List.nil_append]
            exact cfsOf_segments ..
  · have ignored : s.handleFc can mem frame = ⟨.error, s, []⟩ := if_pos waiting
    rw [ignored]
    exact .idle waits rfl (by simp)

theorem processFrame_hands (can : ICanInterface) (frame : CanFrame)
    (waits : s.txState = .waitFc → Sends s mem message k) : Hands s mem message k (s.processFrame can mem frame) := by
  apply IsoTp.processFrame_cases (Hands s mem message k)
  · exact .idle waits rfl (by simp)
  · exact fun _ => .idle waits (IsoTp.handleSf_tx s frame) (by simp [handleSf_sent])
  · exact fun _ => .idle waits (IsoTp.handleFf_tx can s frame) (handleFf_sent can s frame)
  · exact fun _ => .idle waits (IsoTp.handleCf_tx can s frame) (by simp [handleCf_sent])
  · exact fun _ => handleFc_hands can frame waits

theorem Sends.of_memory {mem' : Memory} (sends : Sends s mem message k) {data : Pointer}
    (pointer : s.txData = some data)
    (same : ∀ i, s.txOffset ≤ i → i < s.txTotal → mem' data i = mem data i) : Sends s mem' message k := by
  refine ⟨?_, sends.total, sends.offset, sends.sn, sends.bound⟩
  have rest := sends.bytes
  simp only [IsoTp.txBytes, pointer] at rest ⊢
  rw [← rest]
  apply Region.load_congr
  intro i inside
  have offset := sends.offset
  have total := sends.total
  exact same (6 + 7 * k + i) (by omega) (by omega)

def Multi (can : ICanInterface) (length : Nat) : Prop :=
  8 ≤ length ∧ length ≤ maxPayload ∧ can.send 0 = true

instance (can : ICanInterface) (length : Nat) : Decidable (Multi can length) :=
  inferInstanceAs (Decidable (_ ∧ _ ∧ _))

theorem send_sent (can : ICanInterface) (s : IsoTp) (data : Option Pointer) (length : Nat) :
    ∀ frame ∈ (s.send can mem data length).sent, ¬ IsCf frame := by
  intro frame member
  cases data with
  | none => cases member
  | some data =>
    simp only [IsoTp.send] at member
    split at member
    · cases member
    · split at member
      · rw [List.mem_singleton.mp member]
        exact sfFrame_not_cf s data length
      · split at member
        · rw [List.mem_singleton.mp member]
          exact ffFrame_not_cf s data length
        · rw [List.mem_singleton.mp member]
          exact ffFrame_not_cf s data length

theorem send_other (can : ICanInterface) (s : IsoTp) (data : Pointer) (length : Nat)
    (other : ¬ Multi can length) : (s.send can mem (some data) length).state = s := by
  simp only [IsoTp.send]
  split
  · rfl
  · rename_i accepted
    simp only [not_or, Nat.not_lt] at accepted
    split
    · rfl
    · rename_i several
      split
      · rename_i taken
        exact absurd ⟨by omega, accepted.2, taken⟩ other
      · rfl

theorem send_multi (can : ICanInterface) (s : IsoTp) (data : Pointer) (length : Nat) (multi : Multi can length)
    (bytes : (mem data).load 0 length = message) :
    (s.send can mem (some data) length).state.txData = some data ∧
      Sends (s.send can mem (some data) length).state mem message 0 := by
  obtain ⟨long, fits, taken⟩ := multi
  have size : message.length = length := by rw [← bytes, Region.load_length]
  rw [IsoTp.send_first can mem s data length long fits taken]
  subst size
  exact ⟨rfl, .started can s long bytes⟩

end Uds.Transport
