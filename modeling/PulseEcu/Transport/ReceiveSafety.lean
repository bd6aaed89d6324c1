import PulseEcu.Transport.Receive

open Foundation

namespace Uds.Transport

structure Copy where
  offset : Nat
  source : Nat
  length : Nat
  deriving DecidableEq

namespace IsoTp

def sfCopy (frame : CanFrame) : Option Copy :=
  let len := frame.data 0 &&& 0x0F
  if len = 0 ∨ frame.dlc < 1 ∨ len > frame.dlc - 1 then none
  else if len.toNat > maxPayload then none
  else some ⟨0, 1, len.toNat⟩

def ffCopy (frame : CanFrame) : Option Copy :=
  let len := (ffLength frame).toNat
  if frame.dlc < 8 then none
  else if len < 8 then none
  else if len > maxPayload then none
  else some ⟨0, 2, 6⟩

def cfCopy (s : IsoTp) (frame : CanFrame) : Option Copy :=
  let copyLen := cfCopyLen (s.rxExpected - s.rxReceived) frame
  if s.rxState ≠ .receiving then none
  else if frame.data 0 &&& 0x0F ≠ s.rxSn then none
  else if s.rxReceived + copyLen > maxPayload then none
  else some ⟨s.rxReceived, 1, copyLen⟩

def rxCopy (s : IsoTp) (frame : CanFrame) : Option Copy :=
  if frame.id ≠ s.cfg.rxId ∨ frame.dlc = 0 then none
  else if pciType frame = 0x0 then sfCopy frame
  else if pciType frame = 0x1 then ffCopy frame
  else if pciType frame = 0x2 then s.cfCopy frame
  else none

def copyInto (buf : Region Byte) (frame : CanFrame) : Option Copy → Region Byte
  | none => buf
  | some copy => buf.store copy.offset (frame.data.load copy.source copy.length)

theorem handleSf_buf (s : IsoTp) (frame : CanFrame) :
    (s.handleSf frame).state.rxBuf = copyInto s.rxBuf frame (sfCopy frame) := by
  simp only [handleSf, sfCopy]
  repeat' split
  all_goals rfl

theorem handleFf_buf (can : ICanInterface) (s : IsoTp) (frame : CanFrame) :
    (s.handleFf can frame).state.rxBuf = copyInto s.rxBuf frame (ffCopy frame) := by
  simp only [handleFf, ffCopy]
  repeat' split
  all_goals rfl

theorem handleCf_buf (can : ICanInterface) (s : IsoTp) (frame : CanFrame) :
    (s.handleCf can frame).state.rxBuf = copyInto s.rxBuf frame (s.cfCopy frame) := by
  simp only [handleCf, cfCopy]
  repeat' split
  all_goals rfl

theorem processFrame_buf (can : ICanInterface) (mem : Memory) (s : IsoTp) (frame : CanFrame) :
    (s.processFrame can mem frame).state.rxBuf = copyInto s.rxBuf frame (s.rxCopy frame) := by
  unfold processFrame rxCopy
  split
  · rfl
  · split
    · exact handleSf_buf s frame
    · split
      · exact handleFf_buf can s frame
      · split
        · exact handleCf_buf can s frame
        · split
          · exact congrArg RxView.buf (handleFc_rx can mem s frame)
          · rfl

theorem sfCopy_inside {frame : CanFrame} {copy : Copy} (made : sfCopy frame = some copy) :
    copy.offset + copy.length ≤ maxPayload := by
  simp only [sfCopy] at made
  split at made
  · cases made
  · split at made
    · cases made
    · rename_i fits
      cases made
      dsimp only
      omega

theorem ffCopy_inside {frame : CanFrame} {copy : Copy} (made : ffCopy frame = some copy) :
    copy.offset + copy.length ≤ maxPayload := by
  simp only [ffCopy] at made
  repeat' split at made
  all_goals cases made
  decide

theorem cfCopy_inside {s : IsoTp} {frame : CanFrame} {copy : Copy} (made : s.cfCopy frame = some copy) :
    copy.offset + copy.length ≤ maxPayload := by
  simp only [cfCopy] at made
  split at made
  · cases made
  · split at made
    · cases made
    · split at made
      · cases made
      · rename_i fits
        cases made
        exact Nat.le_of_not_gt fits

theorem rxCopy_inside {s : IsoTp} {frame : CanFrame} {copy : Copy} (made : s.rxCopy frame = some copy) :
    copy.offset + copy.length ≤ maxPayload := by
  unfold rxCopy at made
  split at made
  · cases made
  · split at made
    · exact sfCopy_inside made
    · split at made
      · exact ffCopy_inside made
      · split at made
        · exact cfCopy_inside made
        · cases made

end IsoTp

open IsoTp

/-- What a frame can find and do in a state of the receiver. -/
structure RxSafe (s : IsoTp) : Prop where
  counters : RxInvariant s
  noUnderflow : s.rxState = .receiving → s.rxReceived ≤ s.rxExpected
  singleFits : ∀ frame, (s.handleSf frame).result ≠ .overflow
  firstFits : ∀ can frame, (s.handleFf can frame).result ≠ .overflow
  consecutiveFits : ∀ can frame, (s.handleCf can frame).result ≠ .overflow
  written : ∀ can mem frame, (s.processFrame can mem frame).state.rxBuf = copyInto s.rxBuf frame (s.rxCopy frame)
  inside : ∀ frame copy, s.rxCopy frame = some copy → copy.offset + copy.length ≤ maxPayload
  untouched : ∀ event, (∀ can mem frame, event ≠ .frame can mem frame) → (isoTp.next s event).rxBuf = s.rxBuf

theorem updateRx_buf (now : Word) (s : IsoTp) : (s.updateRx now).rxBuf = s.rxBuf := by
  unfold updateRx
  split
  · rfl
  · rfl

theorem getData_buf (s : IsoTp) (given : Bool) (maxLen : Nat) : (s.getData given maxLen).2.rxBuf = s.rxBuf := by
  simp only [getData]
  split
  · rfl
  · rfl

theorem RxInvariant.safe {s : IsoTp} (invariant : RxInvariant s) : RxSafe s where
  counters := invariant
  noUnderflow receiving := Nat.le_of_lt (invariant.receiving receiving).2.1
  singleFits frame := by
    rcases handleSf_spec s frame with refused | ⟨_, _, accepted⟩
    · rw [refused]
      simp
    · rw [accepted]
      simp
  firstFits can frame := by
    rcases handleFf_spec can s frame with ⟨refused, _⟩ | ⟨_, accepted⟩
    · rw [refused]
      simp
    · rw [accepted]
      simp
  consecutiveFits can frame := by
    rcases handleCf_spec can s frame invariant with ⟨refused, _⟩ | ⟨refused, _⟩ | ⟨_, _, accepted⟩
    · rw [refused]
      simp
    · rw [refused]
      simp
    · rw [accepted]
      dsimp only
      split
      · simp
      · simp
  written can mem frame := processFrame_buf can mem s frame
  inside frame copy made := rxCopy_inside made
  untouched event other := by
    cases event with
    | frame can mem frame => exact absurd rfl (other can mem frame)
    | update now =>
      have kept : (s.update now).rxBuf = (s.updateRx now).rxBuf := congrArg RxView.buf (update_rx now s)
      exact kept.trans (updateRx_buf now s)
    | send can mem data length => exact congrArg RxView.buf (send_rx can mem s data length)
    | getData given maxLen => exact getData_buf s given maxLen

theorem RxInvariant.run (cfg : IsoTpConfig) (rxBuf : Region Byte) (events : List Event) :
    RxInvariant (isoTp.run (IsoTp.create cfg rxBuf) events) :=
  isoTp.run_invariant_all (fun _ event invariant => invariant.next event) _ events (RxInvariant.create cfg rxBuf)

/-- In every reachable state the counters fit together, so every write stays in the buffer
    and no overflow check of the three handlers can fail. -/
theorem receive_buffer_safe (cfg : IsoTpConfig) (rxBuf : Region Byte) (events : List Event) :
    RxSafe (isoTp.run (IsoTp.create cfg rxBuf) events) :=
  (RxInvariant.run cfg rxBuf events).safe

end Uds.Transport
