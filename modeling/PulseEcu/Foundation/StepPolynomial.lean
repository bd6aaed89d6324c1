import Mathlib.Algebra.Group.Nat.Defs
import PulseEcu.Foundation.ShiftRegister

namespace Foundation

variable {w : Nat}

/-- The first `n` coefficients of the polynomial, highest first, taken at the step and applied to `v`. -/
def evalTo (step : BitVec w → BitVec w) (v poly : BitVec w) : Nat → BitVec w
  | 0 => 0
  | n + 1 => if poly.getMsbD n then step (evalTo step v poly n) ^^^ v else step (evalTo step v poly n)

def evalAt (step : BitVec w → BitVec w) (v poly : BitVec w) : BitVec w := evalTo step v poly w

def Satisfies (step : BitVec w → BitVec w) (v poly : BitVec w) : Prop := step^[w] v = evalAt step v poly

instance (step : BitVec w → BitVec w) (v poly : BitVec w) : Decidable (Satisfies step v poly) :=
  inferInstanceAs (Decidable (step^[w] v = evalAt step v poly))

/-- The remainder of the `n`-th power by repeated squaring, for exponents below `2 ^ fuel`. -/
def power (poly : BitVec w) : Nat → Nat → BitVec w
  | 0, _ => 1
  | fuel + 1, n =>
    let root := power poly fuel (n / 2)
    let square := evalAt (shiftStep poly) root root
    if n % 2 = 1 then shiftStep poly square else square

section

variable {step : BitVec w → BitVec w} {v poly : BitVec w}

theorem evalTo_succ (step : BitVec w → BitVec w) (v poly : BitVec w) (n : Nat) :
    evalTo step v poly (n + 1) = step (evalTo step v poly n) ^^^ if poly.getMsbD n then v else 0 := by
  rw [evalTo]
  cases poly.getMsbD n with
  | false => exact BitVec.xor_zero.symm
  | true => rfl

theorem evalTo_xor (linear : XorLinear step) (v left right : BitVec w) (n : Nat) :
    evalTo step v (left ^^^ right) n = evalTo step v left n ^^^ evalTo step v right n := by
  induction n with
  | zero => exact BitVec.xor_self.symm
  | succ n ih =>
    rw [evalTo_succ, evalTo_succ, evalTo_succ, ih, linear, BitVec.getMsbD_xor, xor_xor_swap]
    cases left.getMsbD n <;> cases right.getMsbD n <;> simp

theorem evalTo_iterate (linear : XorLinear step) (v poly : BitVec w) (k n : Nat) :
    evalTo step (step^[k] v) poly n = step^[k] (evalTo step v poly n) := by
  induction n with
  | zero => exact (linear.iterate k).zero.symm
  | succ n ih =>
    have swap : step (step^[k] (evalTo step v poly n)) = step^[k] (step (evalTo step v poly n)) := by
      rw [← Function.iterate_succ_apply' step, Function.iterate_succ_apply]
    have pushed : step^[k] (if poly.getMsbD n then v else 0) = if poly.getMsbD n then step^[k] v else 0 := by
      cases poly.getMsbD n with
      | false => exact (linear.iterate k).zero
      | true => rfl
    rw [evalTo_succ, ih, swap, evalTo_succ, linear.iterate k, pushed]

theorem evalTo_clear (linear : XorLinear step) (v : BitVec w) {n : Nat} (clear : ∀ i < n, poly.getMsbD i = false) :
    evalTo step v poly n = 0 := by
  induction n with
  | zero => rfl
  | succ n ih =>
    have last := clear n (Nat.lt_succ_self n)
    rw [evalTo_succ, ih fun i less => clear i (Nat.lt_succ_of_lt less), linear.zero, last]
    exact BitVec.xor_self

theorem evalTo_shiftLeft (linear : XorLinear step) (v poly : BitVec w) (n : Nat) :
    evalTo step v poly (n + 1) = evalTo step v (poly <<< 1) n ^^^ if poly.msb then step^[n] v else 0 := by
  induction n with
  | zero =>
    rw [evalTo_succ, evalTo, linear.zero, BitVec.msb_eq_getMsbD_zero]
    rfl
  | succ n ih =>
    have carried : step (if poly.msb then step^[n] v else 0) = if poly.msb then step^[n + 1] v else 0 := by
      cases poly.msb with
      | false => exact linear.zero
      | true => exact (Function.iterate_succ_apply' step n v).symm
    rw [evalTo_succ, ih, linear, carried, evalTo_succ, BitVec.getMsbD_shiftLeft]
    ac_rfl

/-- Multiplication by the indeterminate is one step. -/
theorem evalAt_shiftStep (linear : XorLinear step) (satisfies : Satisfies step v poly) (c : BitVec w) :
    evalAt step v (shiftStep poly c) = step (evalAt step v c) := by
  have beyond : c.getMsbD w = false := BitVec.getMsbD_of_ge c w (Nat.le_refl w)
  have moved := evalTo_shiftLeft linear v c w
  rw [evalTo_succ, beyond, if_neg Bool.false_ne_true, satisfies] at moved
  have stepped : step (evalAt step v c) = evalTo step v (c <<< 1) w ^^^ if c.msb then evalAt step v poly else 0 := by
    rw [← moved]
    exact BitVec.xor_zero.symm
  rw [stepped, shiftStep, feed, Bool.xor_false]
  cases c.msb with
  | false => exact BitVec.xor_zero.symm
  | true => exact evalTo_xor linear v (c <<< 1) poly w

theorem evalAt_one (linear : XorLinear step) (nonempty : 0 < w) (v : BitVec w) : evalAt step v 1 = v := by
  obtain ⟨m, rfl⟩ : ∃ m, w = m + 1 := ⟨w - 1, by omega⟩
  have clear : ∀ i < m, (1 : BitVec (m + 1)).getMsbD i = false := by
    intro i less
    simp [Nat.ne_of_lt less]
  have last : (1 : BitVec (m + 1)).getMsbD m = true := by simp
  rw [evalAt, evalTo_succ, evalTo_clear linear v clear, linear.zero, last]
  exact BitVec.zero_xor

theorem evalAt_iterate_shiftStep (linear : XorLinear step) (nonempty : 0 < w) (satisfies : Satisfies step v poly)
    (n : Nat) : evalAt step v ((shiftStep poly)^[n] 1) = step^[n] v := by
  induction n with
  | zero => exact evalAt_one linear nonempty v
  | succ n ih => rw [Function.iterate_succ_apply', evalAt_shiftStep linear satisfies, ih, ← Function.iterate_succ_apply' step]

/-- The polynomial of a square, where the step is multiplication by the indeterminate. -/
theorem evalAt_square (nonempty : 0 < w) (satisfies : Satisfies (shiftStep poly) 1 poly) (n : Nat) :
    evalAt (shiftStep poly) ((shiftStep poly)^[n] 1) ((shiftStep poly)^[n] 1) = (shiftStep poly)^[2 * n] 1 := by
  have linear := shiftStep_linear poly
  rw [evalAt, evalTo_iterate linear, ← evalAt, evalAt_iterate_shiftStep linear nonempty satisfies,
    ← Function.iterate_add_apply, Nat.two_mul]

theorem power_eq (nonempty : 0 < w) (satisfies : Satisfies (shiftStep poly) 1 poly) {fuel n : Nat}
    (short : n < 2 ^ fuel) : power poly fuel n = (shiftStep poly)^[n] 1 := by
  induction fuel generalizing n with
  | zero =>
    have zero : n = 0 := Nat.lt_one_iff.mp short
    rw [zero]
    rfl
  | succ fuel ih =>
    have half : n / 2 < 2 ^ fuel := by
      rw [Nat.pow_succ] at short
      omega
    simp only [power]
    rw [ih half, evalAt_square nonempty satisfies]
    by_cases odd : n % 2 = 1
    · have count : (2 * (n / 2)).succ = n := by omega
      rw [if_pos odd, ← Function.iterate_succ_apply' (shiftStep poly), count]
    · have count : 2 * (n / 2) = n := by omega
      rw [if_neg odd, count]

/-- The state after `n` steps without taking them one by one. -/
theorem iterate_eq_evalAt (linear : XorLinear step) (nonempty : 0 < w) (remainder : Satisfies (shiftStep poly) 1 poly)
    (satisfies : Satisfies step v poly) {fuel n : Nat} (short : n < 2 ^ fuel) :
    step^[n] v = evalAt step v (power poly fuel n) := by
  rw [power_eq nonempty remainder short, evalAt_iterate_shiftStep linear nonempty satisfies]

end

end Foundation
