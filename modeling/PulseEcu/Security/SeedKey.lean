import PulseEcu.Foundation.BigEndian
import PulseEcu.Foundation.Region
import PulseEcu.Foundation.XorShift
import PulseEcu.Types

open Foundation

namespace Uds.Security

/-- What `generate_seed` does to its static word. -/
def xorshift (lfsr : Word) : Word :=
  let lfsr := lfsr ^^^ (lfsr <<< 13)
  let lfsr := lfsr ^^^ (lfsr >>> 17)
  lfsr ^^^ (lfsr <<< 5)

def kSeedStart : Word := 0xDEADBEEF

def seedBytes (lfsr : Word) : List Byte :=
  [(lfsr >>> 24).setWidth 8, (lfsr >>> 16).setWidth 8, (lfsr >>> 8).setWidth 8, lfsr.setWidth 8]

def seedWord (bytes : Region Byte) : Word :=
  ((bytes 0).setWidth 32 <<< 24) ||| ((bytes 1).setWidth 32 <<< 16) ||| ((bytes 2).setWidth 32 <<< 8) |||
    (bytes 3).setWidth 32

structure XorAlgorithm where
  secretMask : Word

namespace XorAlgorithm

/-- `lfsr` is the static word; the result is the memory from `buf` on, the length and the word afterwards. -/
def generateSeed (buf : Region Byte) (max : Nat) (lfsr : Word) : (Region Byte × Nat) × Word :=
  if max < 4 then ((buf, 0), lfsr)
  else
    let lfsr := xorshift lfsr
    ((buf.store 0 (seedBytes lfsr), 4), lfsr)

def verifyKey (self : Option XorAlgorithm) (seed : Region Byte) (seedLen : Nat) (key : Region Byte) (keyLen : Nat) :
    Bool :=
  match self with
  | none => false
  | some self =>
    if seedLen ≠ 4 ∨ keyLen ≠ 4 then false
    else seedWord seed ^^^ self.secretMask = seedWord key

end XorAlgorithm

theorem xorshift_eq : xorshift = xorShiftLeft 5 ∘ xorShiftRight 17 ∘ xorShiftLeft 13 := rfl

theorem xorshift_linear : XorLinear xorshift := by
  intro x y
  simp only [xorshift_eq, Function.comp]
  rw [xorShiftLeft_linear, xorShiftRight_linear, xorShiftLeft_linear]

theorem xorshift_injective : xorshift.Injective := by
  rw [xorshift_eq]
  have first : (xorShiftLeft (w := 32) 13).Injective := xorShiftLeft_injective (by decide)
  have second : (xorShiftRight (w := 32) 17).Injective := xorShiftRight_injective (by decide)
  have third : (xorShiftLeft (w := 32) 5).Injective := xorShiftLeft_injective (by decide)
  exact third.comp (second.comp first)

theorem xorshift_ne_zero {lfsr : Word} (running : lfsr ≠ 0) : xorshift lfsr ≠ 0 := by
  intro stuck
  rw [← xorshift_linear.zero] at stuck
  exact running (xorshift_injective stuck)

theorem seedWord_shiftIn (bytes : Region Byte) : seedWord bytes = shiftIn 32 (bytes.load 0 4) := by
  have read : bytes.load 0 4 = [bytes 0, bytes 1, bytes 2, bytes 3] := rfl
  rw [read, seedWord]
  simp only [shiftIn, List.foldl_cons, List.foldl_nil, BitVec.shiftLeft_or_distrib, ← BitVec.shiftLeft_add]
  simp

theorem seedWord_store (lfsr : Word) (buf : Region Byte) : seedWord (buf.store 0 (seedBytes lfsr)) = lfsr := by
  have read : (buf.store 0 (seedBytes lfsr)).load 0 4 = seedBytes lfsr := buf.load_store 0 (seedBytes lfsr)
  rw [seedWord_shiftIn, read]
  apply BitVec.eq_of_toNat_eq
  have bound := lfsr.isLt
  rw [shiftIn_toNat (by decide)]
  simp only [seedBytes, bigEndian, List.foldl_cons, List.foldl_nil, BitVec.toNat_setWidth, BitVec.toNat_ushiftRight,
    Nat.shiftRight_eq_div_pow]
  omega

theorem seedBytes_injective : seedBytes.Injective := by
  intro x y same
  have stored := seedWord_store x (Region.fill 0)
  rw [same, seedWord_store] at stored
  exact stored.symm

/-- The four bytes of a word that is not zero are not all zero. -/
theorem seedBytes_ne_zero {lfsr : Word} (nonzero : lfsr ≠ 0) : ∃ b ∈ seedBytes lfsr, b ≠ 0 := by
  by_contra none
  have zero : ∀ b ∈ seedBytes lfsr, b = 0 := fun b member => Decidable.of_not_not fun other => none ⟨b, member, other⟩
  have clear : seedBytes lfsr = seedBytes 0 := List.eq_replicate_of_mem zero
  exact nonzero (seedBytes_injective clear)

namespace XorAlgorithm

section

variable (buf : Region Byte) {max : Nat} (lfsr : Word)

theorem generateSeed_short (short : max < 4) : generateSeed buf max lfsr = ((buf, 0), lfsr) := if_pos short

theorem generateSeed_enough (enough : 4 ≤ max) :
    generateSeed buf max lfsr = ((buf.store 0 (seedBytes (xorshift lfsr)), 4), xorshift lfsr) :=
  if_neg (Nat.not_lt.mpr enough)

theorem generateSeed_ne_zero {lfsr : Word} (running : lfsr ≠ 0) : (generateSeed buf max lfsr).2 ≠ 0 := by
  unfold generateSeed
  split
  · exact running
  · exact xorshift_ne_zero running

end

end XorAlgorithm

end Uds.Security
