import PulseEcu.Foundation.BurstDetection
import PulseEcu.Foundation.CrcTable
import PulseEcu.Types

open Foundation

namespace Uds.Utils

/-- A C array of 256 entries: those after the 32 initialisers are 0. -/
def kCrc32Table (idx : Byte) : Word :=
  [0x00000000, 0x77073096, 0xEE0E612C, 0x990951BA,
    0x076DC419, 0x706AF48F, 0xE963A535, 0x9E6495A3,
    0x0EDB8832, 0x79DCB8A4, 0xE0D5E91B, 0x97D2D988,
    0x09B64C2B, 0x7EB17CBF, 0xE7B82D09, 0x90BF1222,
    0x1DB71064, 0x6AB020F2, 0xF3B97148, 0x84BE41DE,
    0x1ADAD47D, 0x6DDDE4EB, 0xF4D4B551, 0x83D385C7,
    0x136C9856, 0x646BA8C0, 0xFD62F97A, 0x8A65C9EC,
    0x14015C4F, 0x63066CD9, 0xFA0F3D63, 0x8D080DF5].getD idx.toNat 0

def crc32Step (crc : Word) (byte : Byte) : Word :=
  let idx : Byte := ((crc ^^^ byte.setWidth 32) &&& 0xFF).setWidth 8
  kCrc32Table idx ^^^ (crc >>> 8)

def crc32 (data : List Byte) (crcInit : Word) : Word := data.foldl crc32Step crcInit ^^^ 0xFFFFFFFF

def kCrc32Polynomial : Word := 0xEDB88320

/-- The CRC that the header announces, without a table. -/
def crc32BitByBit (data : List Byte) (crcInit : Word) : Word :=
  data.foldl (byteStep kCrc32Polynomial) crcInit ^^^ 0xFFFFFFFF

theorem crc32Step_eq : crc32Step = tableStep kCrc32Table := by
  funext crc byte
  have idx : ((crc ^^^ byte.setWidth 32) &&& 0xFF).setWidth 8 = tableIndex crc byte := by
    have low : BitVec.setWidth 8 (0xFF : Word) = BitVec.allOnes 8 := by decide
    rw [BitVec.setWidth_and, low, BitVec.and_allOnes]
    rfl
  rw [crc32Step, idx]
  rfl

/-- The entries that the table has right: 228 others are missing or mistyped. -/
def Copied (idx : Byte) : Prop := idx < 32 ∧ idx ∉ ([10, 13, 14, 15] : List Byte)

instance (idx : Byte) : Decidable (Copied idx) := inferInstanceAs (Decidable (_ ∧ _))

theorem flaw_eq_zero_iff : ∀ idx : Byte, flaw kCrc32Table kCrc32Polynomial idx = 0 ↔ Copied idx := by
  decide +kernel

theorem crc32_eq_iff (data : List Byte) (crcInit : Word) : crc32 data crcInit = crc32BitByBit data crcInit ↔
    carried kCrc32Table kCrc32Polynomial 0 (lookups (tableStep kCrc32Table) crcInit data) = 0 := by
  have registers := foldl_tableStep_eq_iff kCrc32Table kCrc32Polynomial crcInit data
  rw [crc32, crc32BitByBit, crc32Step_eq]
  exact (BitVec.xor_left_inj 0xFFFFFFFF).trans registers

/-- The CRC is wrong where just one wrong entry is looked up. -/
theorem crc32_ne_of_one {data first second : List Byte} {idx : Byte} {crcInit : Word}
    (selected : lookups (tableStep kCrc32Table) crcInit data = first ++ idx :: second) (wrong : ¬ Copied idx)
    (before : ∀ other ∈ first, Copied other) (after : ∀ other ∈ second, Copied other) :
    crc32 data crcInit ≠ crc32BitByBit data crcInit := by
  intro same
  have cancelled := (crc32_eq_iff data crcInit).mp same
  rw [selected] at cancelled
  refine carried_one (by decide) ?_ ?_ ?_ cancelled
  · exact fun zero => wrong ((flaw_eq_zero_iff idx).mp zero)
  · exact fun other member => (flaw_eq_zero_iff other).mpr (before other member)
  · exact fun other member => (flaw_eq_zero_iff other).mpr (after other member)

/-- The CRC is right where the bytes, taken bit by bit, select only entries that the table has right. -/
theorem crc32_of_copied (data : List Byte) (crcInit : Word)
    (copied : ∀ idx ∈ lookups (byteStep kCrc32Polynomial) crcInit data, Copied idx) :
    crc32 data crcInit = crc32BitByBit data crcInit := by
  have right := (lookups_flawless_iff kCrc32Table kCrc32Polynomial crcInit data).mpr fun idx member =>
    (flaw_eq_zero_iff idx).mpr (copied idx member)
  rw [crc32_eq_iff, carried_flawless right]
  exact (((bitStep_linear kCrc32Polynomial).iterate 8).iterate _).zero

theorem crc32_of_copied_twoBytes : crc32 [0xFA, 0x77] 0xFFFFFFFF = crc32BitByBit [0xFA, 0x77] 0xFFFFFFFF :=
  crc32_of_copied [0xFA, 0x77] 0xFFFFFFFF (by decide +kernel)

/-- The condition is not necessary: here five missing entries are looked up, whose errors are together a
    multiple of the polynomial. -/
example : crc32 [0x20, 0xC8, 0x20, 0x6E, 0x3B] 0 = crc32BitByBit [0x20, 0xC8, 0x20, 0x6E, 0x3B] 0 := by
  decide +kernel

theorem crc32_ne_bitByBit_zero :
    ¬ ∀ (data : List Byte) (crcInit : Word), crc32 data crcInit = crc32BitByBit data crcInit := by
  intro always
  exact absurd (always [0x00] 0xFFFFFFFF) (by decide)

def crc16Bit (crc : BitVec 16) : BitVec 16 := if crc &&& 0x8000 ≠ 0 then (crc <<< 1) ^^^ 0x1021 else crc <<< 1

def crc16Byte (crc : BitVec 16) (byte : Byte) : BitVec 16 := crc16Bit^[8] (crc ^^^ (byte.setWidth 16 <<< 8))

def crc16Ccitt (data : List Byte) (crcInit : BitVec 16) : BitVec 16 := data.foldl crc16Byte crcInit

def bitsOf (byte : Byte) : List Bool := (List.range 8).map byte.getMsbD

def bits (data : List Byte) : List Bool := data.flatMap bitsOf

theorem bitsOf_length (byte : Byte) : (bitsOf byte).length = 8 := by simp [bitsOf]

theorem bitsOf_inj {left right : Byte} (same : bitsOf left = bitsOf right) : left = right := by
  apply BitVec.eq_of_getMsbD_eq
  intro i inside
  have bit := congrArg (fun bits => bits[i]?) same
  simpa [bitsOf, inside] using bit

theorem bits_length (data : List Byte) : (bits data).length = 8 * data.length := by
  induction data with
  | nil => rfl
  | cons byte data ih =>
    rw [bits, List.flatMap_cons, List.length_append, bitsOf_length, ← bits, ih, List.length_cons]
    omega

theorem bits_inj {left right : List Byte} (length : left.length = right.length) (same : bits left = bits right) :
    left = right := by
  induction left generalizing right with
  | nil => exact (List.eq_nil_of_length_eq_zero length.symm).symm
  | cons byte left ih =>
    cases right with
    | nil => cases length
    | cons other right =>
      simp only [bits, List.flatMap_cons] at same
      obtain ⟨first, rest⟩ := List.append_inj same (by rw [bitsOf_length, bitsOf_length])
      rw [bitsOf_inj first, ih (Nat.succ.inj length) rest]

theorem crc16Bit_eq : crc16Bit = shiftStep 0x1021 := by
  funext crc
  have top : crc &&& 0x8000 = if crc.msb then 0x8000 else 0 := BitVec.and_twoPow crc 15
  unfold crc16Bit shiftStep feed
  rw [top]
  cases crc.msb with
  | false => rfl
  | true => rfl

theorem crc16Byte_eq (crc : BitVec 16) (byte : Byte) : crc16Byte crc byte = (bitsOf byte).foldl (feed 0x1021) crc := by
  have heads : Heads (byte.setWidth 16 <<< 8) (bitsOf byte) := by
    intro i
    by_cases inside : i < 8
    · simp [bitsOf, inside]
    · simp [bitsOf, inside, BitVec.getMsbD_of_ge byte i (Nat.le_of_not_lt inside)]
  rw [crc16Byte, crc16Bit_eq, foldl_feed 0x1021 heads, bitsOf_length]

theorem crc16Ccitt_eq (data : List Byte) (crcInit : BitVec 16) :
    crc16Ccitt data crcInit = (bits data).foldl (feed 0x1021) crcInit := by
  have byte : crc16Byte = fun crc byte => (bitsOf byte).foldl (feed 0x1021) crc := by
    funext crc byte
    exact crc16Byte_eq crc byte
  rw [crc16Ccitt, byte, bits, List.foldl_flatMap]

structure Burst (start : Nat) (data other : List Byte) : Prop where
  length : data.length = other.length
  differ : data ≠ other
  inside : ∀ i, (bits data)[i]? ≠ (bits other)[i]? → start ≤ i ∧ i < start + 16

/-- The CRC-16 tells a string from one with a burst of errors, and can be taken piece by piece. -/
theorem crc16Ccitt_bursts :
    (∀ start data other, Burst start data other → ∀ crcInit, crc16Ccitt data crcInit ≠ crc16Ccitt other crcInit) ∧
      ∀ first second crcInit, crc16Ccitt (first ++ second) crcInit = crc16Ccitt second (crc16Ccitt first crcInit) := by
  constructor
  · intro start data other burst crcInit
    have length : (bits data).length = (bits other).length := by rw [bits_length, bits_length, burst.length]
    have differ : bits data ≠ bits other := fun same => burst.differ (bits_inj burst.length same)
    rw [crc16Ccitt_eq, crc16Ccitt_eq]
    exact burst_detected (by decide) length burst.inside differ crcInit
  · intro first second crcInit
    exact List.foldl_append

/-- Sixteen bits in a row that begin in the middle of the first byte. -/
theorem burst_across : Burst 4 [0x1A, 0xBC, 0xDE] [0x15, 0x43, 0x2E] where
  length := rfl
  differ := by decide
  inside := by
    intro i differ
    by_cases inside : i < 24
    · have within : ∀ i < 24, (bits [0x1A, 0xBC, 0xDE])[i]? ≠ (bits [0x15, 0x43, 0x2E])[i]? → 4 ≤ i ∧ i < 4 + 16 := by
        decide
      exact within i inside differ
    · have beyond := Nat.le_of_not_lt inside
      exact absurd ((List.getElem?_eq_none beyond).trans (List.getElem?_eq_none beyond).symm) differ

theorem crc16Ccitt_bursts_across :
    crc16Ccitt [0x1A, 0xBC, 0xDE] 0xFFFF ≠ crc16Ccitt [0x15, 0x43, 0x2E] 0xFFFF ∧
      crc16Ccitt ([0x1A] ++ [0xBC, 0xDE]) 0xFFFF = crc16Ccitt [0xBC, 0xDE] (crc16Ccitt [0x1A] 0xFFFF) :=
  ⟨crc16Ccitt_bursts.1 4 [0x1A, 0xBC, 0xDE] [0x15, 0x43, 0x2E] burst_across 0xFFFF,
    crc16Ccitt_bursts.2 [0x1A] [0xBC, 0xDE] 0xFFFF⟩

end Uds.Utils
