import PulseEcu.Transport.Segmentation
import PulseEcu.Transport.Views

open Foundation

namespace Uds.Transport

structure RxInvariant (s : IsoTp) : Prop where
  receiving : s.rxState = .receiving →
    6 ≤ s.rxReceived ∧ s.rxReceived < s.rxExpected ∧ s.rxExpected ≤ 4095 ∧ s.dataReady = false
  ready : s.dataReady = true →
    s.rxState = .idle ∧ 1 ≤ s.rxReceived ∧ s.rxReceived = s.rxExpected ∧ s.rxExpected ≤ 4095

theorem RxInvariant.of_rx {s t : IsoTp} (same : t.rx = s.rx) (invariant : RxInvariant s) : RxInvariant t := by
  obtain ⟨receiving, ready⟩ := invariant
  simp only [IsoTp.rx, RxView.mk.injEq] at same
  obtain ⟨state, _, expected, received, _, _, flag⟩ := same
  constructor
  · rw [state, expected, received, flag]
    exact receiving
  · rw [state, expected, received, flag]
    exact ready

/-- The length checks of `handle_sf` leave the nibbles that are not zero and have their bytes in the frame. -/
theorem sf_accepted_iff (len dlc : Byte) :
    ¬(len = 0 ∨ dlc < 1 ∨ len > dlc - 1) ↔ 0 < len.toNat ∧ len.toNat < dlc.toNat := by
  have zero : len = 0 ↔ len.toNat = 0 := by rw [← BitVec.toNat_inj]; rfl
  have one : (1 : Byte).toNat = 1 := rfl
  have small := dlc.isLt
  by_cases empty : dlc.toNat = 0
  · rw [gt_iff_lt, BitVec.lt_def, BitVec.lt_def, one, zero]
    omega
  · have less : (dlc - 1).toNat = dlc.toNat - 1 := by
      rw [BitVec.toNat_sub, one]
      omega
    rw [gt_iff_lt, BitVec.lt_def, BitVec.lt_def, one, less, zero]
    omega

theorem cfCopyLen_le_remaining (remaining : Nat) (frame : CanFrame) : cfCopyLen remaining frame ≤ remaining := by
  simp only [cfCopyLen]
  repeat' split
  all_goals omega

theorem cfCopyLen_le_seven (remaining : Nat) (frame : CanFrame) : cfCopyLen remaining frame ≤ 7 := by
  simp only [cfCopyLen]
  repeat' split
  all_goals omega

theorem cfCopyLen_eq (remaining : Nat) (frame : CanFrame) (nonempty : frame.dlc ≠ 0) :
    cfCopyLen remaining frame = min remaining (min 7 (frame.dlc.toNat - 1)) := by
  have positive : (0 : Byte) < frame.dlc := by
    simp only [BitVec.lt_def]
    exact Nat.pos_of_ne_zero fun zero => nonempty (BitVec.eq_of_toNat_eq zero)
  simp only [cfCopyLen, positive, true_and]
  repeat' split
  all_goals omega

namespace IsoTp

def tookSingle (s : IsoTp) (frame : CanFrame) (n : Nat) : IsoTp :=
  { s with
    rxState := .idle
    rxExpected := n
    rxReceived := n
    rxBuf := s.rxBuf.store 0 (frame.data.load 1 n)
    dataReady := true }

theorem handleSf_spec (s : IsoTp) (frame : CanFrame) :
    s.handleSf frame = ⟨.error, s, []⟩ ∨
      (1 ≤ (frame.data 0 &&& 0x0F).toNat ∧ (frame.data 0 &&& 0x0F).toNat ≤ 15 ∧
        s.handleSf frame = ⟨.ok, s.tookSingle frame (frame.data 0 &&& 0x0F).toNat, []⟩) := by
  have small : (frame.data 0 &&& 0x0F).toNat ≤ 15 := by
    rw [low_nibble_toNat]
    omega
  simp only [handleSf]
  split
  · exact Or.inl rfl
  · rename_i refused
    simp only [not_or] at refused
    have positive : (frame.data 0 &&& 0x0F).toNat ≠ 0 := fun zero => refused.1 (BitVec.eq_of_toNat_eq zero)
    rw [if_neg (low_nibble_fits (frame.data 0))]
    exact Or.inr ⟨by omega, small, rfl⟩

def tookFirst (can : ICanInterface) (s : IsoTp) (frame : CanFrame) (n : Nat) : IsoTp :=
  { s with
    dataReady := false
    rxExpected := n
    rxReceived := 6
    rxSn := 1
    rxState := .receiving
    rxDeadline := can.getTickMs + s.cfg.nCrMs
    rxBuf := s.rxBuf.store 0 (frame.data.load 2 6) }

theorem handleFf_spec (can : ICanInterface) (s : IsoTp) (frame : CanFrame) :
    s.handleFf can frame = ⟨.error, s, []⟩ ∧ (frame.dlc < 8 ∨ (ffLength frame).toNat < 8) ∨
      (8 ≤ (ffLength frame).toNat ∧ s.handleFf can frame =
        ⟨.pending, s.tookFirst can frame (ffLength frame).toNat,
          [s.fcFrame kFcCts s.cfg.blockSize s.cfg.stMinMs]⟩) := by
  have bound := ffLength_bound frame
  have fits : ¬ (ffLength frame).toNat > maxPayload := by
    unfold maxPayload
    omega
  simp only [handleFf]
  split
  · exact Or.inl ⟨rfl, Or.inl ‹_›⟩
  · split
    · exact Or.inl ⟨rfl, Or.inr ‹_›⟩
    · exact Or.inr ⟨by omega, rfl⟩

def tookConsecutive (can : ICanInterface) (s : IsoTp) (frame : CanFrame) (n : Nat) : IsoTp :=
  { s with
    rxSn := (s.rxSn + 1) &&& 0x0F
    rxBuf := s.rxBuf.store s.rxReceived (frame.data.load 1 n)
    rxReceived := s.rxReceived + n
    rxDeadline := can.getTickMs + s.cfg.nCrMs }

def completed (s : IsoTp) : IsoTp := { s with rxState := .idle, dataReady := true }

theorem handleCf_accepts (can : ICanInterface) (s : IsoTp) (frame : CanFrame)
    (invariant : RxInvariant s) (receiving : s.rxState = .receiving) (sn : frame.data 0 &&& 0x0F = s.rxSn) :
    s.handleCf can frame =
      let n := cfCopyLen (s.rxExpected - s.rxReceived) frame
      if s.rxReceived + n = s.rxExpected then ⟨.ok, (s.tookConsecutive can frame n).completed, []⟩
      else ⟨.pending, s.tookConsecutive can frame n, []⟩ := by
  obtain ⟨_, started, bounded, _⟩ := invariant.receiving receiving
  have taken := cfCopyLen_le_remaining (s.rxExpected - s.rxReceived) frame
  have fits : ¬ s.rxReceived + cfCopyLen (s.rxExpected - s.rxReceived) frame > maxPayload := by
    unfold maxPayload
    omega
  simp only [handleCf, receiving, sn, fits, ne_eq, not_true_eq_false, if_false]
  by_cases last : s.rxReceived + cfCopyLen (s.rxExpected - s.rxReceived) frame = s.rxExpected
  · simp only [last, ge_iff_le, Nat.le_refl, if_true]
    simp only [completed, tookConsecutive, receiving, last]
  · have notYet : ¬ s.rxReceived + cfCopyLen (s.rxExpected - s.rxReceived) frame ≥ s.rxExpected := by omega
    simp only [last, notYet, if_false]
    simp only [tookConsecutive, receiving]

theorem handleCf_spec (can : ICanInterface) (s : IsoTp) (frame : CanFrame) (invariant : RxInvariant s) :
    (s.handleCf can frame = ⟨.error, s, []⟩ ∧ s.rxState ≠ .receiving) ∨
      (s.handleCf can frame = ⟨.wrongSn, s, []⟩ ∧ s.rxState = .receiving) ∨
      (s.rxState = .receiving ∧ frame.data 0 &&& 0x0F = s.rxSn ∧
        s.handleCf can frame =
          let n := cfCopyLen (s.rxExpected - s.rxReceived) frame
          if s.rxReceived + n = s.rxExpected then ⟨.ok, (s.tookConsecutive can frame n).completed, []⟩
          else ⟨.pending, s.tookConsecutive can frame n, []⟩) := by
  by_cases receiving : s.rxState = .receiving
  · by_cases sn : frame.data 0 &&& 0x0F = s.rxSn
    · exact Or.inr (Or.inr ⟨receiving, sn, handleCf_accepts can s frame invariant receiving sn⟩)
    · refine Or.inr (Or.inl ⟨?_, receiving⟩)
      simp only [handleCf, receiving, sn, ne_eq, not_true_eq_false, not_false_eq_true, if_false, if_true]
  · refine Or.inl ⟨?_, receiving⟩
    simp only [handleCf, receiving, ne_eq, not_false_eq_true, if_true]

end IsoTp

open IsoTp

inductive Reception (can : ICanInterface) (s : IsoTp) (frame : CanFrame) (outcome : Outcome) : Prop where
  | ignored (rx : outcome.state.rx = s.rx) (single : pciType frame = 0 → outcome.result ≠ .ok)
      (first : pciType frame = 1 → outcome.result ≠ .pending)
      (consecutive : pciType frame = 2 → outcome.result ≠ .pending ∧ outcome.result ≠ .ok)
  | single (type : pciType frame = 0) (positive : 1 ≤ (frame.data 0 &&& 0x0F).toNat)
      (small : (frame.data 0 &&& 0x0F).toNat ≤ 15)
      (accepted : outcome = ⟨.ok, s.tookSingle frame (frame.data 0 &&& 0x0F).toNat, []⟩)
  | first (type : pciType frame = 1) (lower : 8 ≤ (ffLength frame).toNat)
      (accepted : outcome = ⟨.pending, s.tookFirst can frame (ffLength frame).toNat,
        [s.fcFrame kFcCts s.cfg.blockSize s.cfg.stMinMs]⟩)
  | more (n : Nat) (type : pciType frame = 2) (receiving : s.rxState = .receiving)
      (sn : frame.data 0 &&& 0x0F = s.rxSn)
      (taken : n = min (s.rxExpected - s.rxReceived) (min 7 (frame.dlc.toNat - 1)))
      (missing : s.rxReceived + n < s.rxExpected)
      (accepted : outcome = ⟨.pending, s.tookConsecutive can frame n, []⟩)
  | last (n : Nat) (type : pciType frame = 2) (receiving : s.rxState = .receiving)
      (sn : frame.data 0 &&& 0x0F = s.rxSn)
      (taken : n = min (s.rxExpected - s.rxReceived) (min 7 (frame.dlc.toNat - 1)))
      (all : s.rxReceived + n = s.rxExpected)
      (accepted : outcome = ⟨.ok, (s.tookConsecutive can frame n).completed, []⟩)

theorem Reception.refused {can : ICanInterface} {s : IsoTp} {frame : CanFrame} {result : IsoTpResult}
    (error : result ≠ .ok ∧ result ≠ .pending) : Reception can s frame ⟨result, s, []⟩ :=
  .ignored rfl (fun _ => error.1) (fun _ => error.2) (fun _ => ⟨error.2, error.1⟩)

theorem handleCf_reception (can : ICanInterface) (s : IsoTp) (frame : CanFrame) (invariant : RxInvariant s)
    (dlc : frame.dlc ≠ 0) (type : pciType frame = 2) : Reception can s frame (s.handleCf can frame) := by
  rcases handleCf_spec can s frame invariant with ⟨refused, _⟩ | ⟨refused, _⟩ | ⟨receiving, sn, accepted⟩
  · rw [refused]
    exact .refused (by decide)
  · rw [refused]
    exact .refused (by decide)
  · have taken := cfCopyLen_eq (s.rxExpected - s.rxReceived) frame dlc
    have bounded := cfCopyLen_le_remaining (s.rxExpected - s.rxReceived) frame
    obtain ⟨_, below, _, _⟩ := invariant.receiving receiving
    rw [accepted]
    dsimp only
    split
    · rename_i all
      exact .last _ type receiving sn taken all rfl
    · exact .more _ type receiving sn taken (by omega) rfl

theorem processFrame_reception (can : ICanInterface) (mem : Memory) (s : IsoTp) (frame : CanFrame)
    (invariant : RxInvariant s) : Reception can s frame (s.processFrame can mem frame) := by
  by_cases unaddressed : frame.id ≠ s.cfg.rxId ∨ frame.dlc = 0
  · rw [processFrame, if_pos unaddressed]
    exact .refused (by decide)
  · apply processFrame_cases (Reception can s frame)
    · exact .refused (by decide)
    · intro type
      rcases handleSf_spec s frame with refused | ⟨positive, small, accepted⟩
      · rw [refused]
        exact .refused (by decide)
      · exact .single type positive small accepted
    · intro type
      rcases handleFf_spec can s frame with ⟨refused, _⟩ | ⟨lower, accepted⟩
      · rw [refused]
        exact .refused (by decide)
      · exact .first type lower accepted
    · exact handleCf_reception can s frame invariant (not_or.mp unaddressed).2
    · intro type
      apply Reception.ignored (handleFc_rx can mem s frame)
      · exact fun other => absurd (type.symm.trans other) (by decide)
      · exact fun other => absurd (type.symm.trans other) (by decide)
      · exact fun other => absurd (type.symm.trans other) (by decide)

theorem RxInvariant.processFrame {s : IsoTp} (can : ICanInterface) (mem : Memory) (frame : CanFrame)
    (invariant : RxInvariant s) : RxInvariant (s.processFrame can mem frame).state := by
  cases processFrame_reception can mem s frame invariant with
  | ignored rx _ _ _ => exact invariant.of_rx rx
  | single _ positive small accepted =>
    rw [accepted]
    constructor
    · intro receiving
      cases receiving
    · intro _
      exact ⟨rfl, positive, rfl, Nat.le_trans small (by decide)⟩
  | first _ lower accepted =>
    rw [accepted]
    constructor
    · intro _
      exact ⟨Nat.le_refl 6, Nat.lt_of_lt_of_le (by decide : 6 < 8) lower, ffLength_bound frame, rfl⟩
    · intro ready
      cases ready
  | more n _ receiving _ _ missing accepted =>
    obtain ⟨started, _, upper, quiet⟩ := invariant.receiving receiving
    rw [accepted]
    constructor
    · intro _
      exact ⟨Nat.le_add_right_of_le started, missing, upper, quiet⟩
    · intro ready
      exact absurd (quiet.symm.trans ready) (by decide)
  | last n _ receiving _ _ all accepted =>
    obtain ⟨started, _, upper, _⟩ := invariant.receiving receiving
    rw [accepted]
    constructor
    · intro still
      cases still
    · intro _
      exact ⟨rfl, Nat.le_trans (by decide) (Nat.le_add_right_of_le started), all, upper⟩

theorem RxInvariant.getData {s : IsoTp} (given : Bool) (maxLen : Nat) (invariant : RxInvariant s) :
    RxInvariant (s.getData given maxLen).2 := by
  simp only [IsoTp.getData]
  split
  · exact invariant
  · rename_i taken
    have ready : s.dataReady = true := by
      cases flag : s.dataReady
      · exact absurd (Or.inl flag) taken
      · rfl
    have idle := (invariant.ready ready).1
    constructor
    · intro receiving
      exact absurd (idle.symm.trans receiving) (by decide)
    · intro still
      cases still

theorem RxInvariant.updateRx {s : IsoTp} (now : Word) (invariant : RxInvariant s) :
    RxInvariant (s.updateRx now) := by
  unfold IsoTp.updateRx
  split
  · rename_i expired
    have quiet := (invariant.receiving expired.1).2.2.2
    constructor
    · intro receiving
      cases receiving
    · intro ready
      exact absurd (quiet.symm.trans ready) (by decide)
  · exact invariant

theorem RxInvariant.next {s : IsoTp} (event : Event) (invariant : RxInvariant s) :
    RxInvariant (isoTp.next s event) := by
  cases event with
  | frame can mem frame => exact invariant.processFrame can mem frame
  | update now => exact (invariant.updateRx now).of_rx (update_rx now s)
  | send can mem data length => exact invariant.of_rx (send_rx ..)
  | getData given maxLen => exact invariant.getData given maxLen

theorem RxInvariant.create (cfg : IsoTpConfig) (rxBuf : Region Byte) : RxInvariant (IsoTp.create cfg rxBuf) := by
  constructor
  · intro receiving
    cases receiving
  · intro ready
    cases ready

end Uds.Transport
