import PulseEcu.Transport.IsoTp

open Foundation

namespace Uds.Transport

structure RxView where
  state : RxState
  buf : Region Byte
  expected : Nat
  received : Nat
  sn : Byte
  deadline : Word
  ready : Bool

structure TxView where
  state : TxState
  data : Option Pointer
  total : Nat
  offset : Nat
  sn : Byte
  bsCount : Byte
  bsRem : Byte
  stMin : Word
  deadline : Word

namespace IsoTp

def rx (s : IsoTp) : RxView :=
  ⟨s.rxState, s.rxBuf, s.rxExpected, s.rxReceived, s.rxSn, s.rxDeadline, s.dataReady⟩

def tx (s : IsoTp) : TxView :=
  ⟨s.txState, s.txData, s.txTotal, s.txOffset, s.txSn, s.txBsCount, s.txBsRem, s.txStMin, s.txDeadline⟩

/-- The loop only moves the transmitter on: what does not look at these five fields stays. -/
theorem sendNextCfLoop_keeps {α : Type} (view : IsoTp → α)
    (kept : ∀ (s : IsoTp) (txState : TxState) (txOffset : Nat) (txSn txBsCount : Byte) (txDeadline : Word),
      view { s with
        txState := txState
        txOffset := txOffset
        txSn := txSn
        txBsCount := txBsCount
        txDeadline := txDeadline } = view s)
    (can : ICanInterface) (mem : Memory) (rounds : Nat) (s : IsoTp) (sent : List CanFrame) :
    view (sendNextCfLoop can mem rounds s sent).state = view s := by
  induction rounds generalizing s sent with
  | zero => exact kept s .idle s.txOffset s.txSn s.txBsCount s.txDeadline
  | succ rounds ih =>
    unfold sendNextCfLoop
    split
    · split
      · exact kept s .waitFc s.txOffset s.txSn 0 _
      · split
        · rw [ih]
          exact kept s s.txState _ _ _ s.txDeadline
        · rfl
    · exact kept s .idle s.txOffset s.txSn s.txBsCount s.txDeadline

theorem sendNextCf_rx (can : ICanInterface) (mem : Memory) (s : IsoTp) :
    (s.sendNextCf can mem).state.rx = s.rx :=
  sendNextCfLoop_keeps rx (fun _ _ _ _ _ _ => rfl) ..

theorem sendNextCf_cfg (can : ICanInterface) (mem : Memory) (s : IsoTp) :
    (s.sendNextCf can mem).state.cfg = s.cfg :=
  sendNextCfLoop_keeps cfg (fun _ _ _ _ _ _ => rfl) ..

theorem sendNextCf_txData (can : ICanInterface) (mem : Memory) (s : IsoTp) :
    (s.sendNextCf can mem).state.txData = s.txData :=
  sendNextCfLoop_keeps txData (fun _ _ _ _ _ _ => rfl) ..

@[simp] theorem handleFc_rx (can : ICanInterface) (mem : Memory) (s : IsoTp) (frame : CanFrame) :
    (s.handleFc can mem frame).state.rx = s.rx := by
  simp only [handleFc]
  repeat' split
  all_goals first | rfl | exact sendNextCf_rx ..

@[simp] theorem send_rx (can : ICanInterface) (mem : Memory) (s : IsoTp) (data : Option Pointer)
    (length : Nat) : (s.send can mem data length).state.rx = s.rx := by
  unfold send
  repeat' split
  all_goals rfl

@[simp] theorem updateTx_rx (now : Word) (s : IsoTp) : (s.updateTx now).rx = s.rx := by
  unfold updateTx
  split <;> rfl

theorem update_rx (now : Word) (s : IsoTp) : (s.update now).rx = (s.updateRx now).rx := updateTx_rx ..

theorem update_rx_expired {now : Word} {s : IsoTp}
    (expired : s.rxState = .receiving ∧ s.rxDeadline > 0 ∧ now ≥ s.rxDeadline) :
    (s.update now).rx = { s.rx with state := .idle, received := 0, expected := 0, deadline := 0 } := by
  rw [update_rx, updateRx, if_pos expired]
  rfl

theorem update_rx_early {now : Word} {s : IsoTp}
    (early : ¬ (s.rxState = .receiving ∧ s.rxDeadline > 0 ∧ now ≥ s.rxDeadline)) : (s.update now).rx = s.rx := by
  rw [update_rx, updateRx, if_neg early]

@[simp] theorem handleSf_tx (s : IsoTp) (frame : CanFrame) : (s.handleSf frame).state.tx = s.tx := by
  simp only [handleSf]
  repeat' split
  all_goals rfl

@[simp] theorem handleFf_tx (can : ICanInterface) (s : IsoTp) (frame : CanFrame) :
    (s.handleFf can frame).state.tx = s.tx := by
  simp only [handleFf]
  repeat' split
  all_goals rfl

@[simp] theorem handleCf_tx (can : ICanInterface) (s : IsoTp) (frame : CanFrame) :
    (s.handleCf can frame).state.tx = s.tx := by
  simp only [handleCf]
  repeat' split
  all_goals rfl

@[simp] theorem getData_tx (s : IsoTp) (given : Bool) (maxLen : Nat) : (s.getData given maxLen).2.tx = s.tx := by
  simp only [getData]
  split <;> rfl

@[simp] theorem updateRx_tx (now : Word) (s : IsoTp) : (s.updateRx now).tx = s.tx := by
  unfold updateRx
  split <;> rfl

theorem update_txState (now : Word) (s : IsoTp) : (s.update now).txState =
    if s.txState = .waitFc ∧ s.txDeadline > 0 ∧ now ≥ s.txDeadline then .idle else s.txState := by
  have same := updateRx_tx now s
  have state : (s.updateRx now).txState = s.txState := congrArg TxView.state same
  have deadline : (s.updateRx now).txDeadline = s.txDeadline := congrArg TxView.deadline same
  rw [update, updateTx, state, deadline]
  split
  · rfl
  · exact state

theorem update_tx_early {now : Word} {s : IsoTp}
    (early : ¬ (s.txState = .waitFc ∧ s.txDeadline > 0 ∧ now ≥ s.txDeadline)) : (s.update now).tx = s.tx := by
  have same := updateRx_tx now s
  have state : (s.updateRx now).txState = s.txState := congrArg TxView.state same
  have deadline : (s.updateRx now).txDeadline = s.txDeadline := congrArg TxView.deadline same
  rw [update, updateTx, state, deadline, if_neg early]
  exact same

theorem update_cfg (now : Word) (s : IsoTp) : (s.update now).cfg = s.cfg := by
  simp only [update, updateTx, updateRx]
  split <;> split <;> rfl

theorem update_waiting (now : Word) (s : IsoTp) (waiting : (s.update now).txState = .waitFc) :
    (s.update now).tx = s.tx := by
  unfold update updateTx at waiting ⊢
  split at waiting
  · cases waiting
  · rename_i early
    rw [if_neg early]
    exact updateRx_tx now s

theorem handleSf_cfg (s : IsoTp) (frame : CanFrame) : (s.handleSf frame).state.cfg = s.cfg := by
  simp only [handleSf]
  repeat' split
  all_goals rfl

theorem handleFf_cfg (can : ICanInterface) (s : IsoTp) (frame : CanFrame) :
    (s.handleFf can frame).state.cfg = s.cfg := by
  simp only [handleFf]
  repeat' split
  all_goals rfl

theorem handleCf_cfg (can : ICanInterface) (s : IsoTp) (frame : CanFrame) :
    (s.handleCf can frame).state.cfg = s.cfg := by
  simp only [handleCf]
  repeat' split
  all_goals rfl

theorem handleFc_cfg (can : ICanInterface) (mem : Memory) (s : IsoTp) (frame : CanFrame) :
    (s.handleFc can mem frame).state.cfg = s.cfg := by
  simp only [handleFc]
  repeat' split
  all_goals first | rfl | exact sendNextCf_cfg ..

/-- The dispatch of `process_frame`: what holds of every handler holds of the call. -/
theorem processFrame_cases (motive : Outcome → Prop) (can : ICanInterface) (mem : Memory) (s : IsoTp)
    (frame : CanFrame) (ignored : motive ⟨.error, s, []⟩)
    (single : pciType frame = 0 → motive (s.handleSf frame))
    (first : pciType frame = 1 → motive (s.handleFf can frame))
    (consecutive : pciType frame = 2 → motive (s.handleCf can frame))
    (flowControl : pciType frame = 3 → motive (s.handleFc can mem frame)) :
    motive (s.processFrame can mem frame) := by
  unfold processFrame
  split
  · exact ignored
  · split
    · exact single ‹_›
    · split
      · exact first ‹_›
      · split
        · exact consecutive ‹_›
        · split
          · exact flowControl ‹_›
          · exact ignored

section

variable (can : ICanInterface) (mem : Memory) (s : IsoTp) (frame : CanFrame)

theorem processFrame_addressed (id : frame.id = s.cfg.rxId) (dlc : frame.dlc ≠ 0) :
    s.processFrame can mem frame =
      if pciType frame = 0x0 then s.handleSf frame
      else if pciType frame = 0x1 then s.handleFf can frame
      else if pciType frame = 0x2 then s.handleCf can frame
      else if pciType frame = 0x3 then s.handleFc can mem frame
      else ⟨.error, s, []⟩ :=
  if_neg (not_or.mpr ⟨not_not_intro id, dlc⟩)

theorem processFrame_single (id : frame.id = s.cfg.rxId) (dlc : frame.dlc ≠ 0) (type : pciType frame = 0) :
    s.processFrame can mem frame = s.handleSf frame := by
  rw [processFrame_addressed can mem s frame id dlc, type]
  rfl

theorem processFrame_first (id : frame.id = s.cfg.rxId) (dlc : frame.dlc ≠ 0) (type : pciType frame = 1) :
    s.processFrame can mem frame = s.handleFf can frame := by
  rw [processFrame_addressed can mem s frame id dlc, type]
  rfl

theorem processFrame_consecutive (id : frame.id = s.cfg.rxId) (dlc : frame.dlc ≠ 0) (type : pciType frame = 2) :
    s.processFrame can mem frame = s.handleCf can frame := by
  rw [processFrame_addressed can mem s frame id dlc, type]
  rfl

theorem processFrame_flowControl (id : frame.id = s.cfg.rxId) (dlc : frame.dlc ≠ 0) (type : pciType frame = 3) :
    s.processFrame can mem frame = s.handleFc can mem frame := by
  rw [processFrame_addressed can mem s frame id dlc, type]
  rfl

end

theorem processFrame_cfg (can : ICanInterface) (mem : Memory) (s : IsoTp) (frame : CanFrame) :
    (s.processFrame can mem frame).state.cfg = s.cfg := by
  apply processFrame_cases fun outcome => outcome.state.cfg = s.cfg
  · rfl
  · exact fun _ => handleSf_cfg s frame
  · exact fun _ => handleFf_cfg can s frame
  · exact fun _ => handleCf_cfg can s frame
  · exact fun _ => handleFc_cfg can mem s frame

theorem processFrame_tx (can : ICanInterface) (mem : Memory) (s : IsoTp) (frame : CanFrame)
    (other : s.txState ≠ .waitFc) : (s.processFrame can mem frame).state.tx = s.tx := by
  apply processFrame_cases fun outcome => outcome.state.tx = s.tx
  · rfl
  · exact fun _ => handleSf_tx s frame
  · exact fun _ => handleFf_tx can s frame
  · exact fun _ => handleCf_tx can s frame
  · intro _
    rw [handleFc, if_pos other]

theorem processFrame_txData (can : ICanInterface) (mem : Memory) (s : IsoTp) (frame : CanFrame) :
    (s.processFrame can mem frame).state.txData = s.txData := by
  apply processFrame_cases fun outcome => outcome.state.txData = s.txData
  · rfl
  · exact fun _ => congrArg TxView.data (handleSf_tx s frame)
  · exact fun _ => congrArg TxView.data (handleFf_tx can s frame)
  · exact fun _ => congrArg TxView.data (handleCf_tx can s frame)
  · intro _
    simp only [handleFc]
    repeat' split
    all_goals first | rfl | exact sendNextCf_txData ..

theorem next_cfg (s : IsoTp) (event : Event) : (isoTp.next s event).cfg = s.cfg := by
  cases event with
  | frame can mem frame => exact processFrame_cfg can mem s frame
  | update now => exact update_cfg now s
  | send can mem data length =>
    simp only [isoTp_next_send, send]
    repeat' split
    all_goals rfl
  | getData given maxLen =>
    simp only [isoTp_next_getData, getData]
    split <;> rfl

theorem run_cfg (s : IsoTp) (events : List Event) : (isoTp.run s events).cfg = s.cfg := by
  induction events generalizing s with
  | nil => rfl
  | cons event events ih => rw [Machine.run_cons, ih, next_cfg]

end IsoTp

end Uds.Transport
