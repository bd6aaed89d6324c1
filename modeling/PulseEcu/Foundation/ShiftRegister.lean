import Mathlib.Logic.Function.Iterate

namespace Foundation

variable {w : Nat}

theorem xor_xor_swap (a b c d : BitVec w) : (a ^^^ b) ^^^ (c ^^^ d) = (a ^^^ c) ^^^ (b ^^^ d) := by ac_rfl

theorem xor_xor_cancel (a b c : BitVec w) : (a ^^^ c) ^^^ (b ^^^ c) = a ^^^ b := by
  rw [xor_xor_swap, BitVec.xor_self, BitVec.xor_zero]

def XorLinear (step : BitVec w → BitVec w) : Prop := ∀ x y, step (x ^^^ y) = step x ^^^ step y

namespace XorLinear

variable {step : BitVec w → BitVec w}

theorem zero (linear : XorLinear step) : step 0 = 0 := by
  have twice := linear 0 0
  rw [BitVec.xor_self] at twice
  exact twice.trans BitVec.xor_self

theorem iterate (linear : XorLinear step) (n : Nat) : XorLinear step^[n] := by
  induction n with
  | zero => exact fun _ _ => rfl
  | succ n ih =>
    intro x y
    simp only [Function.iterate_succ_apply]
    rw [linear, ih]

theorem injective (linear : XorLinear step) (kernel : ∀ x, step x = 0 → x = 0) : step.Injective := by
  intro x y same
  apply BitVec.xor_eq_zero_iff.mp
  apply kernel
  rw [linear]
  exact BitVec.xor_eq_zero_iff.mpr same

end XorLinear

/-- One bit of a reflected division: the bit that leaves at the bottom feeds the polynomial back. -/
def bitStep (poly register : BitVec w) : BitVec w :=
  if register.getLsbD 0 then (register >>> 1) ^^^ poly else register >>> 1

theorem bitStep_linear (poly : BitVec w) : XorLinear (bitStep poly) := by
  intro x y
  unfold bitStep
  simp only [BitVec.getLsbD_xor, BitVec.ushiftRight_xor_distrib]
  cases x.getLsbD 0 with
  | false => cases y.getLsbD 0 <;> simp [BitVec.xor_assoc]
  | true =>
    cases y.getLsbD 0 with
    | false => simp [BitVec.xor_assoc, BitVec.xor_comm poly]
    | true => simp [xor_xor_cancel]

/-- With its top bit set, the polynomial shows at the top whether it was fed back. -/
theorem bitStep_injective {poly : BitVec w} (top : poly.msb = true) : (bitStep poly).Injective := by
  apply (bitStep_linear poly).injective
  intro x zero
  unfold bitStep at zero
  cases low : x.getLsbD 0 with
  | true =>
    rw [low, if_pos rfl] at zero
    have high := congrArg BitVec.msb zero
    simp [BitVec.msb_ushiftRight, top] at high
  | false =>
    rw [low, if_neg Bool.false_ne_true] at zero
    apply BitVec.eq_of_getLsbD_eq
    intro i _
    cases i with
    | zero => simpa using low
    | succ i =>
      have bit := congrArg (BitVec.getLsbD · i) zero
      simpa [Nat.add_comm 1 i] using bit

/-- As long as clear bits leave, the division only shifts. -/
theorem bitStep_clear (poly : BitVec w) {register : BitVec w} {n : Nat} (clear : ∀ i < n, register.getLsbD i = false) :
    (bitStep poly)^[n] register = register >>> n := by
  induction n with
  | zero => simp
  | succ n ih =>
    have low : (register >>> n).getLsbD 0 = false := by simpa using clear n (Nat.lt_succ_self n)
    rw [Function.iterate_succ_apply', ih fun i less => clear i (Nat.lt_succ_of_lt less), bitStep, low,
      if_neg Bool.false_ne_true, BitVec.shiftRight_add]

/-- The low bits are divided, the others move down. -/
theorem bitStep_split (poly register : BitVec w) (n : Nat) :
    (bitStep poly)^[n] register = (bitStep poly)^[n] ((register.setWidth n).setWidth w) ^^^ register >>> n := by
  generalize lows : (register.setWidth n).setWidth w = low
  have bits : ∀ i, low.getLsbD i = (decide (i < w) && (decide (i < n) && register.getLsbD i)) := by
    intro i
    rw [← lows, BitVec.getLsbD_setWidth, BitVec.getLsbD_setWidth]
  have clear : ∀ i < n, (low ^^^ register).getLsbD i = false := by
    intro i less
    by_cases inside : i < w
    · rw [BitVec.getLsbD_xor, bits, decide_eq_true inside, decide_eq_true less]
      simp
    · exact BitVec.getLsbD_of_ge _ _ (Nat.le_of_not_lt inside)
  have high : (low ^^^ register) >>> n = register >>> n := by
    apply BitVec.eq_of_getLsbD_eq
    intro i _
    have outside : ¬ n + i < n := by omega
    simp [bits, outside]
  calc (bitStep poly)^[n] register
    _ = (bitStep poly)^[n] (low ^^^ (low ^^^ register)) := by rw [← BitVec.xor_assoc, BitVec.xor_self, BitVec.zero_xor]
    _ = (bitStep poly)^[n] low ^^^ (bitStep poly)^[n] (low ^^^ register) := (bitStep_linear poly).iterate n ..
    _ = (bitStep poly)^[n] low ^^^ register >>> n := by rw [bitStep_clear poly clear, high]

/-- One bit of a division with the high bit first: the bit that leaves at the top and the next bit of the
    message feed the polynomial back. -/
def feed (poly register : BitVec w) (bit : Bool) : BitVec w :=
  if register.msb ^^ bit then (register <<< 1) ^^^ poly else register <<< 1

def shiftStep (poly register : BitVec w) : BitVec w := feed poly register false

theorem feed_xor (poly x y : BitVec w) (left right : Bool) :
    feed poly (x ^^^ y) (left ^^ right) = feed poly x left ^^^ feed poly y right := by
  have moved : (x <<< 1 ^^^ poly) ^^^ y <<< 1 = x <<< 1 ^^^ y <<< 1 ^^^ poly := by ac_rfl
  have split : ((x ^^^ y).msb ^^ (left ^^ right)) = ((x.msb ^^ left) ^^ (y.msb ^^ right)) := by
    rw [BitVec.msb_xor]
    cases x.msb <;> cases y.msb <;> cases left <;> cases right <;> rfl
  unfold feed
  rw [split, BitVec.shiftLeft_xor_distrib]
  cases (x.msb ^^ left) with
  | false => cases (y.msb ^^ right) <;> simp [BitVec.xor_assoc]
  | true => cases (y.msb ^^ right) <;> simp [xor_xor_cancel, moved]

theorem shiftStep_linear (poly : BitVec w) : XorLinear (shiftStep poly) := fun x y => feed_xor poly x y false false

/-- With its lowest bit set, the polynomial shows at the bottom whether it was fed back. -/
theorem shiftStep_injective {poly : BitVec w} (bottom : poly.getLsbD 0 = true) : (shiftStep poly).Injective := by
  apply (shiftStep_linear poly).injective
  intro x zero
  unfold shiftStep feed at zero
  rw [Bool.xor_false] at zero
  cases high : x.msb with
  | true =>
    rw [high, if_pos rfl] at zero
    have low := congrArg (BitVec.getLsbD · 0) zero
    simp [bottom] at low
  | false =>
    rw [high, if_neg Bool.false_ne_true] at zero
    apply BitVec.eq_of_getMsbD_eq
    intro i _
    cases i with
    | zero => simpa [BitVec.msb_eq_getMsbD_zero] using high
    | succ i =>
      have bit := congrArg (BitVec.getMsbD · i) zero
      by_cases inside : i < w
      · simpa [inside, Nat.add_comm] using bit
      · simp [BitVec.getMsbD_of_ge x (i + 1) (by omega)]

end Foundation
