import PulseEcu.Transport.IsoTp

open Foundation

namespace Uds.Transport

def sequenceNumber (k : Nat) : Byte := BitVec.ofNat 8 (k % 16)

theorem sequenceNumber_succ (k : Nat) : (sequenceNumber k + 1) &&& 0x0F = sequenceNumber (k + 1) := by
  apply BitVec.eq_of_toNat_eq
  have mask : (0x0F : Byte).toNat = 2^4 - 1 := rfl
  rw [BitVec.toNat_and, mask, Nat.and_two_pow_sub_one_eq_mod]
  have one : (1 : Byte).toNat = 1 := rfl
  simp only [sequenceNumber, BitVec.toNat_add, BitVec.toNat_ofNat, one]
  omega

theorem low_nibble_toNat (b : Byte) : (b &&& 0x0F).toNat = b.toNat % 16 := by
  have mask : (0x0F : Byte).toNat = 2^4 - 1 := rfl
  rw [BitVec.toNat_and, mask, Nat.and_two_pow_sub_one_eq_mod]

theorem low_nibble_fits (b : Byte) : ¬ (b &&& 0x0F).toNat > maxPayload := by
  have small := low_nibble_toNat b
  unfold maxPayload
  omega

theorem sequenceNumber_nibble (k : Nat) : sequenceNumber k &&& 0x0F = sequenceNumber k := by
  apply BitVec.eq_of_toNat_eq
  rw [low_nibble_toNat]
  simp only [sequenceNumber, BitVec.toNat_ofNat]
  omega

theorem ffLength_toNat (frame : CanFrame) :
    (ffLength frame).toNat = (frame.data 0).toNat % 16 * 256 + (frame.data 1).toNat := by
  have high := (frame.data 0).isLt
  have low := (frame.data 1).isLt
  have shifted : ((frame.data 0 &&& 0x0F).setWidth 16 <<< 8).toNat = ((frame.data 0).toNat % 16) <<< 8 := by
    rw [BitVec.toNat_shiftLeft, BitVec.toNat_setWidth, low_nibble_toNat, Nat.shiftLeft_eq]
    omega
  have kept : ((frame.data 1).setWidth 16).toNat = (frame.data 1).toNat := by
    rw [BitVec.toNat_setWidth]
    omega
  rw [ffLength, BitVec.toNat_or, shifted, kept, ← Nat.shiftLeft_add_eq_or_of_lt low, Nat.shiftLeft_eq]

theorem ffLength_bound (frame : CanFrame) : (ffLength frame).toNat ≤ 4095 := by
  have low := (frame.data 1).isLt
  rw [ffLength_toNat]
  omega

def segment (message : List Byte) (k : Nat) : List Byte := (message.drop (6 + 7 * k)).take 7

def cfCount (length : Nat) : Nat := (length - 6 + 6) / 7

theorem lt_cfCount (k length : Nat) : k < cfCount length ↔ 6 + 7 * k < length := by
  unfold cfCount
  omega

theorem segment_length (message : List Byte) (k : Nat) :
    (segment message k).length = min 7 (message.length - (6 + 7 * k)) := by
  simp [segment]

theorem take_segment (message : List Byte) (k : Nat) :
    message.take (6 + 7 * k) ++ segment message k = message.take (6 + 7 * (k + 1)) := by
  have next : 6 + 7 * (k + 1) = 6 + 7 * k + 7 := by omega
  rw [next, List.take_add (i := 6 + 7 * k)]
  rfl

structure IsSingleFrame (cfg : IsoTpConfig) (message : List Byte) (frame : CanFrame) : Prop where
  id : frame.id = cfg.rxId
  dlc : message.length < frame.dlc.toNat
  pci : frame.data 0 = BitVec.ofNat 8 message.length
  bytes : frame.data.load 1 message.length = message

structure IsFirstFrame (cfg : IsoTpConfig) (message : List Byte) (frame : CanFrame) : Prop where
  id : frame.id = cfg.rxId
  dlc : frame.dlc = 8
  pci : frame.data 0 = 0x10 ||| BitVec.ofNat 8 (message.length / 256)
  low : frame.data 1 = BitVec.ofNat 8 (message.length % 256)
  bytes : frame.data.load 2 6 = message.take 6

/-- The k-th consecutive frame, counted from 0; the last one may be padded up to 8 bytes. -/
structure IsConsecutiveFrame (cfg : IsoTpConfig) (message : List Byte) (k : Nat) (frame : CanFrame) : Prop where
  id : frame.id = cfg.rxId
  dlc : (segment message k).length < frame.dlc.toNat
  classic : frame.dlc.toNat ≤ 8
  pci : frame.data 0 = 0x20 ||| sequenceNumber (k + 1)
  bytes : frame.data.load 1 (segment message k).length = segment message k

theorem cf_type_nibble : ∀ low : Byte, ((0x20 ||| (low &&& 0x0F)) >>> 4) &&& 0x0F = 2 := by decide

theorem cf_low_nibble : ∀ low : Byte, (0x20 ||| (low &&& 0x0F)) &&& 0x0F = low &&& 0x0F := by decide

theorem ff_type_nibble : ∀ low : Byte, ((0x10 ||| (low &&& 0x0F)) >>> 4) &&& 0x0F = 1 := by decide

theorem ff_low_nibble : ∀ low : Byte, (0x10 ||| (low &&& 0x0F)) &&& 0x0F = low &&& 0x0F := by decide

variable {cfg : IsoTpConfig} {message : List Byte} {k : Nat} {frame : CanFrame}

theorem IsSingleFrame.length (shape : IsSingleFrame cfg message frame) (short : message.length ≤ 7) :
    (frame.data 0 &&& 0x0F).toNat = message.length := by
  rw [low_nibble_toNat, shape.pci, BitVec.toNat_ofNat]
  omega

theorem IsSingleFrame.pciType (shape : IsSingleFrame cfg message frame) (short : message.length ≤ 7) :
    pciType frame = 0 := by
  apply BitVec.eq_of_toNat_eq
  have zero : (0 : Byte).toNat = 0 := rfl
  rw [Transport.pciType, low_nibble_toNat, BitVec.toNat_ushiftRight, Nat.shiftRight_eq_div_pow, shape.pci,
    BitVec.toNat_ofNat, zero]
  omega

theorem IsConsecutiveFrame.pciType (shape : IsConsecutiveFrame cfg message k frame) :
    pciType frame = 2 := by
  rw [Transport.pciType, shape.pci, ← sequenceNumber_nibble]
  exact cf_type_nibble _

theorem IsConsecutiveFrame.sn (shape : IsConsecutiveFrame cfg message k frame) :
    frame.data 0 &&& 0x0F = sequenceNumber (k + 1) := by
  rw [shape.pci, ← sequenceNumber_nibble, cf_low_nibble]

theorem high_nibble (message : List Byte) (upper : message.length ≤ 4095) :
    BitVec.ofNat 8 (message.length / 256) &&& 0x0F = BitVec.ofNat 8 (message.length / 256) := by
  apply BitVec.eq_of_toNat_eq
  rw [low_nibble_toNat, BitVec.toNat_ofNat]
  omega

theorem IsFirstFrame.pciType (shape : IsFirstFrame cfg message frame) (upper : message.length ≤ 4095) :
    pciType frame = 1 := by
  rw [Transport.pciType, shape.pci, ← high_nibble message upper]
  exact ff_type_nibble _

theorem IsFirstFrame.length (shape : IsFirstFrame cfg message frame) (upper : message.length ≤ 4095) :
    (ffLength frame).toNat = message.length := by
  have low : (frame.data 1).toNat = message.length % 256 := by
    rw [shape.low, BitVec.toNat_ofNat]
    omega
  have high : (frame.data 0).toNat % 16 = message.length / 256 := by
    rw [← low_nibble_toNat, shape.pci, ← high_nibble message upper, ff_low_nibble, low_nibble_toNat,
      BitVec.toNat_ofNat]
    omega
  rw [ffLength_toNat, low, high]
  omega

end Uds.Transport
