import PulseEcu.Foundation.Access
import PulseEcu.Hal.Stm32Can
import PulseEcu.Transport.Receive

open Foundation

namespace Uds.Transport

open Access

namespace IsoTp

/-- `handle_sf` with each read of `frame.data` in its place; `dlc` is all that it gets of the rest of the frame. -/
def sfAccess (s : IsoTp) (dlc : Byte) : Access Byte Outcome := do
  let first ← cell 0
  let len := first &&& 0x0F
  if len = 0 ∨ dlc < 1 ∨ len > dlc - 1 then return ⟨.error, s, []⟩
  else if len.toNat > maxPayload then return ⟨.overflow, s, []⟩
  else
    let payload ← load 1 len.toNat
    return ⟨.ok, { s with
      rxState := .idle
      rxExpected := len.toNat
      rxReceived := len.toNat
      rxBuf := s.rxBuf.store 0 payload
      dataReady := true }, []⟩

def ffAccess (can : ICanInterface) (s : IsoTp) (dlc : Byte) : Access Byte Outcome := do
  if dlc < 8 then return ⟨.error, s, []⟩
  else
    let first ← cell 0
    let second ← cell 1
    let len := (((first &&& 0x0F).setWidth 16 <<< 8) ||| second.setWidth 16 : BitVec 16).toNat
    if len < 8 then return ⟨.error, s, []⟩
    else if len > maxPayload then return ⟨.overflow, s, [s.fcFrame kFcOvfl 0 0]⟩
    else
      let payload ← load 2 6
      return ⟨.pending, { s with
        dataReady := false
        rxExpected := len
        rxReceived := 6
        rxSn := 1
        rxState := .receiving
        rxDeadline := can.getTickMs + s.cfg.nCrMs
        rxBuf := s.rxBuf.store 0 payload },
        [s.fcFrame kFcCts s.cfg.blockSize s.cfg.stMinMs]⟩

def cfAccess (can : ICanInterface) (s : IsoTp) (dlc : Byte) : Access Byte Outcome := do
  if s.rxState ≠ .receiving then return ⟨.error, s, []⟩
  else
    let first ← cell 0
    if first &&& 0x0F ≠ s.rxSn then return ⟨.wrongSn, s, []⟩
    else
      let advanced := { s with rxSn := (s.rxSn + 1) &&& 0x0F }
      let remaining := s.rxExpected - s.rxReceived
      let copyLen := if remaining < 7 then remaining else 7
      let copyLen := if 0 < dlc ∧ copyLen > dlc.toNat - 1 then dlc.toNat - 1 else copyLen
      if s.rxReceived + copyLen > maxPayload then return ⟨.overflow, advanced, []⟩
      else
        let payload ← load 1 copyLen
        let copied := { advanced with
          rxBuf := s.rxBuf.store s.rxReceived payload
          rxReceived := s.rxReceived + copyLen
          rxDeadline := can.getTickMs + s.cfg.nCrMs }
        if copied.rxReceived ≥ copied.rxExpected then
          return ⟨.ok, { copied with
            rxReceived := copied.rxExpected
            rxState := .idle
            dataReady := true }, []⟩
        else return ⟨.pending, copied, []⟩

def fcAccess (can : ICanInterface) (mem : Memory) (s : IsoTp) (dlc : Byte) : Access Byte Outcome := do
  if s.txState ≠ .waitFc then return ⟨.error, s, []⟩
  else if dlc < 3 then return ⟨.error, s, []⟩
  else
    let first ← cell 0
    let fs := first &&& 0x0F
    let bs ← cell 1
    let st ← cell 2
    if fs = kFcOvfl then return ⟨.overflow, s, []⟩
    else if fs = kFcWait then return ⟨.pending, { s with txDeadline := can.getTickMs + s.cfg.nBsMs }, []⟩
    else if fs ≠ kFcCts then return ⟨.error, s, []⟩
    else
      return sendNextCf can mem { s with
        txBsRem := bs
        txBsCount := 0
        txStMin := if st ≤ 0x7F then st.setWidth 32 else 1
        txState := .sending }

def frameAccess (can : ICanInterface) (mem : Memory) (s : IsoTp) (id : Word) (dlc : Byte) : Access Byte Outcome := do
  if id ≠ s.cfg.rxId ∨ dlc = 0 then return ⟨.error, s, []⟩
  else
    let first ← cell 0
    let pciType := (first >>> 4) &&& 0x0F
    if pciType = 0x0 then s.sfAccess dlc
    else if pciType = 0x1 then s.ffAccess can dlc
    else if pciType = 0x2 then s.cfAccess can dlc
    else if pciType = 0x3 then s.fcAccess can mem dlc
    else return ⟨.error, s, []⟩

section

variable (can : ICanInterface) (mem : Memory) (s : IsoTp) (frame : CanFrame)

theorem sfAccess_run : (s.sfAccess frame.dlc).run frame.data = s.handleSf frame := by
  simp only [sfAccess, run_bind, apply_ite (Access.run frame.data), run_pure, run_load]
  rfl

theorem ffAccess_run : (s.ffAccess can frame.dlc).run frame.data = s.handleFf can frame := by
  simp only [ffAccess, run_bind, apply_ite (Access.run frame.data), run_pure, run_load]
  rfl

theorem cfAccess_run : (s.cfAccess can frame.dlc).run frame.data = s.handleCf can frame := by
  simp only [cfAccess, run_bind, apply_ite (Access.run frame.data), run_pure, run_load]
  rfl

theorem fcAccess_run : (s.fcAccess can mem frame.dlc).run frame.data = s.handleFc can mem frame := by
  simp only [fcAccess, run_bind, apply_ite (Access.run frame.data), run_pure]
  rfl

/-- Apart from showing what it reads, it is `process_frame`. -/
theorem frameAccess_run : (s.frameAccess can mem frame.id frame.dlc).run frame.data = s.processFrame can mem frame := by
  simp only [frameAccess, run_bind, apply_ite (Access.run frame.data), run_pure, sfAccess_run, ffAccess_run,
    cfAccess_run, fcAccess_run]
  rfl

/-- The handler depends on the frame through the cells that it reads only. -/
theorem processFrame_congr {other : CanFrame} (id : other.id = frame.id) (dlc : other.dlc = frame.dlc)
    (same : ∀ offset ∈ (s.frameAccess can mem frame.id frame.dlc).touched frame.data, other.data offset = frame.data offset) :
    s.processFrame can mem other = s.processFrame can mem frame := by
  rw [← frameAccess_run, ← frameAccess_run, id, dlc]
  exact run_congr _ same

/-- The length nibble of a Single Frame that the checks accept goes beyond the seven payload bytes of a classic frame. -/
def LongSingle (frame : CanFrame) : Prop :=
  pciType frame = 0x0 ∧ 8 ≤ (frame.data 0 &&& 0x0F).toNat ∧ (frame.data 0 &&& 0x0F).toNat < frame.dlc.toNat

theorem sfAccess_within : (s.sfAccess frame.dlc).Within frame.data 8 ↔
    ¬(8 ≤ (frame.data 0 &&& 0x0F).toNat ∧ (frame.data 0 &&& 0x0F).toNat < frame.dlc.toNat) := by
  have accepted := sf_accepted_iff (frame.data 0 &&& 0x0F) frame.dlc
  have fits := low_nibble_fits (frame.data 0)
  simp only [sfAccess, within_bind, within_cell, within_ite, within_pure, within_load]
  simp only [run_cell, accepted, implies_true, and_true, true_and]
  omega

theorem ffAccess_within : (s.ffAccess can frame.dlc).Within frame.data 8 := by
  simp only [ffAccess, within_bind, within_cell, within_ite, within_pure, within_load]
  simp

theorem cfAccess_within : (s.cfAccess can frame.dlc).Within frame.data 8 := by
  have copyLen := cfCopyLen_le_seven (s.rxExpected - s.rxReceived) frame
  simp only [cfAccess, within_bind, within_cell, within_ite, within_pure, within_load]
  simp only [implies_true, and_true, true_and]
  intro _
  refine ⟨by decide, fun _ _ => Or.inr ?_⟩
  exact Nat.add_le_add_left copyLen 1

theorem fcAccess_within : (s.fcAccess can mem frame.dlc).Within frame.data 8 := by
  simp only [fcAccess, within_bind, within_cell, within_ite, within_pure]
  simp

theorem frameAccess_within : (s.frameAccess can mem frame.id frame.dlc).Within frame.data 8 ↔
    ¬(frame.id = s.cfg.rxId ∧ LongSingle frame) := by
  simp only [frameAccess, within_bind, within_cell, within_ite, within_pure, sfAccess_within, ffAccess_within,
    cfAccess_within, fcAccess_within]
  simp only [run_cell, implies_true, and_true, true_and]
  by_cases ignored : frame.id ≠ s.cfg.rxId ∨ frame.dlc = 0
  · have other : ¬(frame.id = s.cfg.rxId ∧ LongSingle frame) := by
      intro long
      obtain ⟨id, _, _, more⟩ := long
      rcases ignored with stranger | empty
      · exact stranger id
      · rw [empty] at more
        exact Nat.not_lt_zero _ more
    exact ⟨fun _ => other, fun _ accepted => absurd ignored accepted⟩
  · have id : frame.id = s.cfg.rxId := Decidable.of_not_not (not_or.mp ignored).1
    constructor
    · intro inside long
      exact (inside ignored).2 long.2.1 long.2.2
    · intro short _
      exact ⟨by decide, fun single long => short ⟨id, single, long⟩⟩

/-- From every state that a run of calls reaches, `process_frame` stays inside `frame.data` exactly if the frame is no
    Single Frame whose length nibble and `dlc` both go beyond a classic frame. -/
theorem processFrame_within (cfg : IsoTpConfig) (rxBuf : Region Byte) (events : List Event) :
    let reached := isoTp.run (IsoTp.create cfg rxBuf) events
    let access := reached.frameAccess can mem frame.id frame.dlc
    access.run frame.data = reached.processFrame can mem frame ∧
      (access.Within frame.data 8 ↔ ¬(frame.id = cfg.rxId ∧ LongSingle frame)) := by
  intro reached access
  have sameId : reached.cfg = cfg := run_cfg (IsoTp.create cfg rxBuf) events
  have within := frameAccess_within can mem reached frame
  rw [sameId] at within
  exact ⟨frameAccess_run can mem reached frame, within⟩

end

def longSingle : CanFrame := Stm32.Stm32H7Can.frame 0x40000000 (⟨0x7DF, 0x90000, 0⟩, (Region.fill 0).store 0 [0x08])

theorem longSingle_not_within : ¬ ∀ (cfg : IsoTpConfig) (rxBuf : Region Byte) (events : List Event)
    (can : ICanInterface) (mem : Memory) (frame : CanFrame), frame.id = cfg.rxId →
      ((isoTp.run (IsoTp.create cfg rxBuf) events).frameAccess can mem frame.id frame.dlc).Within frame.data 8 := by
  intro within
  have beyond : 8 ∈ ((IsoTp.create kDefaultIsoTpConfig (Region.fill 0)).frameAccess .ready (fun _ => Region.fill 0)
      longSingle.id longSingle.dlc).touched longSingle.data := by decide
  have below := within kDefaultIsoTpConfig (Region.fill 0) [] .ready (fun _ => Region.fill 0) longSingle rfl 8 beyond
  exact absurd below (by decide)

end IsoTp

end Uds.Transport
