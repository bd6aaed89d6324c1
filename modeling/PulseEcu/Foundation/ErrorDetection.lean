import Mathlib.Algebra.Ring.Parity
import PulseEcu.Foundation.BurstDetection
import PulseEcu.Foundation.FullPeriod
import PulseEcu.Foundation.StepPolynomial

open Function

namespace Foundation

variable {w : Nat} {poly : BitVec w}

def flips (left right : List Bool) : List Bool := List.zipWith xor left right

theorem flips_none {left right : List Bool} (length : left.length = right.length)
    (none : (flips left right).count true = 0) : left = right := by
  induction left generalizing right with
  | nil => exact (List.eq_nil_of_length_eq_zero length.symm).symm
  | cons bit left ih =>
    cases right with
    | nil => cases length
    | cons other right =>
      rw [flips, List.zipWith_cons_cons, List.count_cons] at none
      have rest := ih (Nat.succ.inj length) (by unfold flips; omega)
      cases bit <;> cases other <;> simp_all

/-- The first bit that is set, if one is. -/
theorem count_split {bits : List Bool} {n : Nat} (count : bits.count true = n + 1) :
    ∃ k rest, bits = List.replicate k false ++ true :: rest ∧ rest.count true = n := by
  induction bits with
  | nil => cases count
  | cons bit bits ih =>
    cases bit with
    | true =>
      rw [List.count_cons_self] at count
      exact ⟨0, bits, rfl, Nat.succ.inj count⟩
    | false =>
      rw [List.count_cons_of_ne (by decide)] at count
      obtain ⟨k, rest, rfl, left⟩ := ih count
      exact ⟨k + 1, rest, rfl, left⟩

theorem count_zero {bits : List Bool} (count : bits.count true = 0) : bits = List.replicate bits.length false := by
  apply List.eq_replicate_of_mem
  intro bit member
  cases bit with
  | false => rfl
  | true => exact absurd member (List.count_eq_zero.mp count)

theorem feed_split (poly register : BitVec w) (bit : Bool) :
    feed poly register bit = shiftStep poly register ^^^ if bit then poly else 0 := by
  have both := feed_xor poly register 0 false bit
  rw [Bool.false_xor, show register ^^^ 0 = register from BitVec.xor_zero] at both
  rw [both]
  cases bit <;> simp [feed, shiftStep]

/-- The division of a bit string shows how it differs from another one, whatever they have in common. -/
theorem foldl_feed_flips (poly : BitVec w) {left right : List Bool} (length : left.length = right.length)
    (x y : BitVec w) : left.foldl (feed poly) x ^^^ right.foldl (feed poly) y =
      (flips left right).foldl (feed poly) (x ^^^ y) := by
  induction left generalizing right x y with
  | nil =>
    rw [List.eq_nil_of_length_eq_zero length.symm]
    rfl
  | cons bit left ih =>
    cases right with
    | nil => cases length
    | cons other right =>
      have entered : flips (bit :: left) (other :: right) = (bit ^^ other) :: flips left right := rfl
      rw [List.foldl_cons, List.foldl_cons, ih (Nat.succ.inj length), entered, List.foldl_cons, feed_xor]

theorem foldl_feed_eq_iff (poly : BitVec w) {left right : List Bool} (length : left.length = right.length)
    (register : BitVec w) : left.foldl (feed poly) register = right.foldl (feed poly) register ↔
      (flips left right).foldl (feed poly) 0 = 0 := by
  have difference := foldl_feed_flips poly length register register
  rw [BitVec.xor_self] at difference
  rw [← BitVec.xor_eq_zero_iff, difference]
  rfl

theorem foldl_feed_zeros (poly register : BitVec w) (n : Nat) :
    (List.replicate n false).foldl (feed poly) register = (shiftStep poly)^[n] register := by
  induction n generalizing register with
  | zero => rfl
  | succ n ih =>
    rw [List.replicate_succ, List.foldl_cons, ih, iterate_succ_apply]
    rfl

section

variable (root : Satisfies id 1 poly)

include root

/-- A polynomial that vanishes at 1, its leading term counted, is a multiple of `x + 1`: the register keeps the
    parity of the bits that were fed to it. -/
theorem foldl_feed_parity (bits : List Bool) (register : BitVec w) :
    evalAt id 1 (bits.foldl (feed poly) register) =
      evalAt id 1 register ^^^ if bits.count true % 2 = 1 then 1 else 0 := by
  have linear : XorLinear (id : BitVec w → BitVec w) := fun _ _ => rfl
  have one : evalAt id 1 poly = 1 := by
    have same : id^[w] (1 : BitVec w) = evalAt id 1 poly := root
    rw [← same, iterate_id]
    rfl
  induction bits generalizing register with
  | nil => exact BitVec.xor_zero.symm
  | cons bit bits ih =>
    have stepped : evalAt id 1 (feed poly register bit) = evalAt id 1 register ^^^ if bit then 1 else 0 := by
      rw [feed_split, evalAt, evalTo_xor linear, ← evalAt, evalAt_shiftStep linear root]
      cases bit with
      | false => exact congrArg _ (evalTo_clear linear _ fun i _ => BitVec.getMsbD_zero)
      | true => exact congrArg _ one
    rw [List.foldl_cons, ih, stepped, BitVec.xor_assoc]
    congr 1
    cases bit with
    | false =>
      rw [List.count_cons_of_ne (by decide)]
      exact BitVec.zero_xor
    | true =>
      rw [List.count_cons_self]
      rcases Nat.mod_two_eq_zero_or_one (bits.count true) with even | odd
      · have next : (bits.count true + 1) % 2 = 1 := by omega
        rw [even, next]
        exact BitVec.xor_zero
      · have next : (bits.count true + 1) % 2 = 0 := by omega
        rw [odd, next]
        exact BitVec.xor_self

/-- An odd number of flipped bits shows. -/
theorem odd_detected (nonempty : 0 < w) {left right : List Bool} (length : left.length = right.length)
    (odd : (flips left right).count true % 2 = 1) (register : BitVec w) :
    left.foldl (feed poly) register ≠ right.foldl (feed poly) register := by
  intro same
  have zero := (foldl_feed_eq_iff poly length register).mp same
  have linear : XorLinear (id : BitVec w → BitVec w) := fun _ _ => rfl
  have clear : evalAt id 1 (0 : BitVec w) = 0 := evalTo_clear linear _ fun i _ => BitVec.getMsbD_zero
  have parity := foldl_feed_parity root (flips left right) 0
  rw [zero, clear, if_pos odd] at parity
  have one : (0 : BitVec w) = 1 := parity.trans BitVec.zero_xor
  have low := congrArg (BitVec.getLsbD · 0) one
  simp [nonempty] at low

end

/-- Two flipped bits go unnoticed exactly at multiples of the period of the polynomial. -/
theorem pair_unnoticed_iff (bottom : poly.getLsbD 0 = true) {left right : List Bool} (length : left.length = right.length)
    {before between after : Nat} (pair : flips left right = List.replicate before false ++ true ::
      (List.replicate between false ++ true :: List.replicate after false)) (register : BitVec w) :
    left.foldl (feed poly) register = right.foldl (feed poly) register ↔
      minimalPeriod (shiftStep poly) poly ∣ between + 1 := by
  have linear := shiftStep_linear poly
  have opened : feed poly 0 true = poly := by
    rw [feed_split, linear.zero]
    exact BitVec.zero_xor
  rw [foldl_feed_eq_iff poly length, pair, List.foldl_append, foldl_feed_zeros, (linear.iterate before).zero,
    List.foldl_cons, opened, List.foldl_append, foldl_feed_zeros, List.foldl_cons, foldl_feed_zeros, feed_split,
    if_pos rfl, ← iterate_succ_apply' (shiftStep poly), ← isPeriodicPt_iff_minimalPeriod_dvd]
  have injective := (shiftStep_injective bottom).iterate after
  rw [← (linear.iterate after).zero, injective.eq_iff]
  exact BitVec.xor_eq_zero_iff

/-- What the register holds, appended to the bits, leaves nothing in it, and no other bits of that number do. -/
theorem appended_cleared_iff (bottom : poly.getLsbD 0 = true) {register : BitVec w} {check bits : List Bool}
    (heads : Heads register check) (whole : check.length = w) (length : bits.length = w) :
    bits.foldl (feed poly) register = 0 ↔ bits = check := by
  have cleared : check.foldl (feed poly) register = 0 := by
    rw [foldl_feed poly heads, BitVec.xor_self]
    exact ((shiftStep_linear poly).iterate check.length).zero
  constructor
  · intro zero
    exact foldl_feed_window bottom (length.trans whole.symm) (Nat.le_of_eq length) register (zero.trans cleared.symm)
  · intro same
    rw [same]
    exact cleared

end Foundation
