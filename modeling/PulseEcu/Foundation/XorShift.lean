import PulseEcu.Foundation.ShiftRegister

namespace Foundation

variable {w : Nat} {n : Nat}

def xorShiftLeft (n : Nat) (x : BitVec w) : BitVec w := x ^^^ (x <<< n)

def xorShiftRight (n : Nat) (x : BitVec w) : BitVec w := x ^^^ (x >>> n)

theorem xorShiftLeft_linear (n : Nat) : XorLinear (xorShiftLeft (w := w) n) := by
  intro x y
  rw [xorShiftLeft, BitVec.shiftLeft_xor_distrib, xor_xor_swap]
  rfl

theorem xorShiftRight_linear (n : Nat) : XorLinear (xorShiftRight (w := w) n) := by
  intro x y
  rw [xorShiftRight, BitVec.ushiftRight_xor_distrib, xor_xor_swap]
  rfl

/-- Each bit is the one `n` places below it, so the lowest ones are clear and then all. -/
theorem xorShiftLeft_injective (positive : 0 < n) : (xorShiftLeft (w := w) n).Injective := by
  apply (xorShiftLeft_linear n).injective
  intro x zero
  have same : x = x <<< n := BitVec.xor_eq_zero_iff.mp zero
  have clear : ∀ i, x.getLsbD i = false := by
    intro i
    induction i using Nat.strongRecOn with
    | ind i ih =>
      rw [same, BitVec.getLsbD_shiftLeft]
      by_cases low : i < n
      · simp [low]
      · rw [ih (i - n) (by omega), Bool.and_false]
  apply BitVec.eq_of_getLsbD_eq
  intro i _
  rw [clear]
  exact BitVec.getLsbD_zero.symm

theorem xorShiftRight_injective (positive : 0 < n) : (xorShiftRight (w := w) n).Injective := by
  apply (xorShiftRight_linear n).injective
  intro x zero
  have same : x = x >>> n := BitVec.xor_eq_zero_iff.mp zero
  have value := congrArg BitVec.toNat same
  rw [BitVec.toNat_ushiftRight, Nat.shiftRight_eq_div_pow] at value
  apply BitVec.eq_of_toNat_eq
  rw [BitVec.ofNat_eq_ofNat, BitVec.toNat_zero]
  by_contra nonzero
  have smaller := Nat.div_lt_self (Nat.pos_of_ne_zero nonzero) (Nat.one_lt_two_pow (Nat.pos_iff_ne_zero.mp positive))
  omega

end Foundation
