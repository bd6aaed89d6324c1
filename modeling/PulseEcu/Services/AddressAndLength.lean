import PulseEcu.Foundation.BigEndian
import PulseEcu.Foundation.Region
import PulseEcu.Types

open Foundation

namespace Uds

def addrLenOf (addrLenFmt : Byte) : Nat := (addrLenFmt &&& 0x0F).toNat

def sizeLenOf (addrLenFmt : Byte) : Nat := ((addrLenFmt >>> 4) &&& 0x0F).toNat

theorem addrLenOf_le (addrLenFmt : Byte) : addrLenOf addrLenFmt ≤ 15 := by
  rw [addrLenOf, BitVec.toNat_and]
  exact Nat.and_le_right

section

variable (req : Region Byte) (offset : Nat) (addrLenFmt : Byte)

def parseAddress : Word := shiftIn 32 (req.load offset (addrLenOf addrLenFmt))

def parseSize (target : Target) : target.SizeT :=
  shiftIn target.sizeBits (req.load (offset + addrLenOf addrLenFmt) (sizeLenOf addrLenFmt))

def declaredSize : Nat := bigEndian (req.load (offset + addrLenOf addrLenFmt) (sizeLenOf addrLenFmt))

def declaredAddress : Nat := bigEndian (req.load offset (addrLenOf addrLenFmt))

theorem parseAddress_toNat :
    (parseAddress req offset addrLenFmt).toNat = declaredAddress req offset addrLenFmt % 2 ^ 32 :=
  shiftIn_toNat (by decide) _

theorem parseSize_toNat (target : Target) :
    (parseSize req offset addrLenFmt target).toNat = declaredSize req offset addrLenFmt % 2 ^ target.sizeBits := by
  have wide : 8 ≤ target.sizeBits := by cases target <;> decide
  exact shiftIn_toNat wide _

end

end Uds
