import PulseEcu.Foundation.RingBuffer
import PulseEcu.Transport.IsoTp

open Foundation

namespace Uds.Stm32

open Transport

def kRxBufSize : Nat := 16

/-- `m_rx_buf`, `m_rx_head` and `m_rx_tail`, which both drivers have. -/
abbrev RxRing := RingBuffer CanFrame

/-- The body of `receive` in both drivers; without a frame the caller's is left as it was. -/
def receive (ring : RxRing) (frame : CanFrame) : (Bool × CanFrame) × RxRing :=
  let tail := ring.tail
  if ring.head = tail then ((false, frame), ring)
  else ((true, ring.buf tail), { ring with tail := (tail + 1) % kRxBufSize })

def store (ring : RxRing) (frame : CanFrame) : RxRing :=
  let next := (ring.head + 1) % kRxBufSize
  if next ≠ ring.tail then { ring with buf := ring.buf.store ring.head [frame], head := next } else ring

structure CanRxHeader where
  ide : Word
  stdId : Word
  extId : Word
  dlc : Word

structure FdcanRxHeader where
  identifier : Word
  dataLength : Word
  idType : Word

namespace Stm32Can

/-- The frame that is made of the header and of the bytes that the HAL left in `frame.data`;
    `CAN_ID_EXT` is a constant of the HAL. -/
def frame (canIdExt : Word) (message : CanRxHeader × Region Byte) : CanFrame where
  id := if message.1.ide = canIdExt then message.1.extId else message.1.stdId
  data := message.2
  dlc := message.1.dlc.setWidth 8
  isExtendedId := decide (message.1.ide = canIdExt)

def onRxIrq (canIdExt : Word) (ring : RxRing) : Option (CanRxHeader × Region Byte) → RxRing
  | none => ring
  | some message => store ring (frame canIdExt message)

/-- `receive`, statement by statement, with `on_rx_irq` between any two. -/
def machine (canIdExt : Word) :
    Machine (RingBuffer.Shared CanFrame) (RingBuffer.Event (CanRxHeader × Region Byte)) (RingBuffer.Shown CanFrame) :=
  RingBuffer.machine kRxBufSize (frame canIdExt)

end Stm32Can

namespace Stm32H7Can

def frame (fdcanExtendedId : Word) (message : FdcanRxHeader × Region Byte) : CanFrame where
  id := message.1.identifier
  data := message.2
  dlc := ((message.1.dataLength >>> 16) &&& 0xF).setWidth 8
  isExtendedId := decide (message.1.idType = fdcanExtendedId)

def onRxIrq (fdcanExtendedId : Word) (ring : RxRing) : Option (FdcanRxHeader × Region Byte) → RxRing
  | none => ring
  | some message => store ring (frame fdcanExtendedId message)

def machine (fdcanExtendedId : Word) :
    Machine (RingBuffer.Shared CanFrame) (RingBuffer.Event (FdcanRxHeader × Region Byte))
      (RingBuffer.Shown CanFrame) :=
  RingBuffer.machine kRxBufSize (frame fdcanExtendedId)

end Stm32H7Can

section

variable {μ : Type} (make : μ → CanFrame)

theorem write_store (s : RingBuffer.Shared CanFrame) (frame : CanFrame) :
    (RingBuffer.write kRxBufSize s frame).1 = ⟨store s.toRingBuffer frame, s.progress⟩ := by
  unfold RingBuffer.write store
  dsimp only
  split
  · rfl
  · rfl

/-- The interrupt is `on_rx_irq`, whatever the main loop is at. -/
theorem interrupt_onRxIrq (canIdExt : Word) (s : RingBuffer.Shared CanFrame)
    (message : Option (CanRxHeader × Region Byte)) :
    (Stm32Can.machine canIdExt).next s (.interrupt message) =
      ⟨Stm32Can.onRxIrq canIdExt s.toRingBuffer message, s.progress⟩ := by
  cases message with
  | none => rfl
  | some message => exact write_store s _

theorem interrupt_onRxIrq_h7 (fdcanExtendedId : Word) (s : RingBuffer.Shared CanFrame)
    (message : Option (FdcanRxHeader × Region Byte)) :
    (Stm32H7Can.machine fdcanExtendedId).next s (.interrupt message) =
      ⟨Stm32H7Can.onRxIrq fdcanExtendedId s.toRingBuffer message, s.progress⟩ := by
  cases message with
  | none => rfl
  | some message => exact write_store s _

/-- Uninterrupted, the statements make up `receive`. -/
theorem statements_receive (ring : RxRing) (frame : CanFrame) : ∃ n,
    (RingBuffer.machine kRxBufSize make).run ⟨ring, .idle⟩ (List.replicate n .read) =
        ⟨(receive ring frame).2, .idle⟩ ∧
      RingBuffer.returned ((RingBuffer.machine kRxBufSize make).trace ⟨ring, .idle⟩ (List.replicate n .read)) =
        if (receive ring frame).1.1 then [(receive ring frame).1.2] else [] := by
  by_cases empty : ring.head = ring.tail
  · refine ⟨2, ?_⟩
    simp [receive, empty, Machine.run, Machine.trace, Machine.entry, Machine.next, Machine.output,
      RingBuffer.machine, RingBuffer.read, RingBuffer.returned, RingBuffer.Shown.outward, List.replicate]
  · refine ⟨5, ?_⟩
    simp [receive, empty, Machine.run, Machine.trace, Machine.entry, Machine.next, Machine.output,
      RingBuffer.machine, RingBuffer.read, RingBuffer.returned, RingBuffer.Shown.outward, List.replicate]

end

def boot (buf : Region CanFrame) : RingBuffer.Shared CanFrame := ⟨⟨buf, 0, 0⟩, .idle⟩

/-- The receive ring of both drivers is first in, first out. -/
theorem receive_ring_fifo (canIdExt fdcanExtendedId : Word) (buf : Region CanFrame)
    (events : List (RingBuffer.Event (CanRxHeader × Region Byte)))
    (fdEvents : List (RingBuffer.Event (FdcanRxHeader × Region Byte))) :
    RingBuffer.Fifo kRxBufSize ((Stm32Can.machine canIdExt).trace (boot buf) events)
        ((Stm32Can.machine canIdExt).run (boot buf) events) ∧
      RingBuffer.Fifo kRxBufSize ((Stm32H7Can.machine fdcanExtendedId).trace (boot buf) fdEvents)
        ((Stm32H7Can.machine fdcanExtendedId).run (boot buf) fdEvents) := by
  have room : 0 < kRxBufSize := by decide
  exact ⟨RingBuffer.fifo (Stm32Can.frame canIdExt) room buf events,
    RingBuffer.fifo (Stm32H7Can.frame fdcanExtendedId) room buf fdEvents⟩

end Uds.Stm32
