import PulseEcu.Foundation.ShiftRegister

namespace Foundation

variable {w : Nat} {poly : BitVec w}

def Heads (x : BitVec w) (bits : List Bool) : Prop := ∀ i, x.getMsbD i = bits.getD i false

theorem exists_heads {bits : List Bool} (short : bits.length ≤ w) : ∃ x : BitVec w, Heads x bits := by
  exists (BitVec.ofBoolListBE bits).setWidth w <<< (w - bits.length)
  intro i
  have position : i + (w - bits.length) + bits.length - w = i := by omega
  simp [position]

theorem Heads.inj {x : BitVec w} {left right : List Bool} (ofLeft : Heads x left) (ofRight : Heads x right)
    (length : left.length = right.length) : left = right := by
  apply List.ext_getElem length
  intro i inLeft inRight
  have same := (ofLeft i).symm.trans (ofRight i)
  simpa [List.getD_eq_getElem?_getD, inLeft, inRight] using same

/-- A division of bits that are already in the register, and of bits that arrive one by one. -/
theorem foldl_feed (poly : BitVec w) {x : BitVec w} {bits : List Bool} (heads : Heads x bits) (register : BitVec w) :
    bits.foldl (feed poly) register = (shiftStep poly)^[bits.length] (register ^^^ x) := by
  induction bits generalizing x register with
  | nil =>
    have clear : x = 0 := BitVec.eq_of_getMsbD_eq fun i _ => by simpa using heads i
    simp [clear]
  | cons bit bits ih =>
    have first : x.msb = bit := by simpa [BitVec.msb_eq_getMsbD_zero] using heads 0
    have rest : Heads (x <<< 1) bits := by
      intro i
      rw [BitVec.getMsbD_shiftLeft]
      simpa using heads (i + 1)
    have entered : shiftStep poly (register ^^^ x) = feed poly register bit ^^^ x <<< 1 := by
      have both := feed_xor poly register x bit bit
      rw [Bool.xor_self] at both
      rw [shiftStep, both]
      simp [feed, first]
    rw [List.foldl_cons, ih rest, List.length_cons, Function.iterate_succ_apply, entered]

theorem feed_injective (bottom : poly.getLsbD 0 = true) (bit : Bool) : Function.Injective (feed poly · bit) := by
  intro x y same
  have difference : shiftStep poly (x ^^^ y) = 0 := by
    have both := feed_xor poly x y bit bit
    rw [Bool.xor_self] at both
    rw [shiftStep, both]
    exact BitVec.xor_eq_zero_iff.mpr same
  have kernel := shiftStep_injective bottom (difference.trans (shiftStep_linear poly).zero.symm)
  exact BitVec.xor_eq_zero_iff.mp kernel

theorem foldl_feed_injective (bottom : poly.getLsbD 0 = true) (bits : List Bool) :
    Function.Injective fun register => bits.foldl (feed poly) register := by
  induction bits with
  | nil => exact fun _ _ same => same
  | cons bit bits ih => exact ih.comp (feed_injective bottom bit)

/-- No two bit strings that fit into the register leave the same in it. -/
theorem foldl_feed_window (bottom : poly.getLsbD 0 = true) {left right : List Bool} (length : left.length = right.length)
    (short : left.length ≤ w) (register : BitVec w)
    (same : left.foldl (feed poly) register = right.foldl (feed poly) register) : left = right := by
  obtain ⟨x, ofLeft⟩ := exists_heads short
  obtain ⟨y, ofRight⟩ := exists_heads (length ▸ short)
  rw [foldl_feed poly ofLeft, foldl_feed poly ofRight, ← length] at same
  have words := (shiftStep_injective bottom).iterate left.length same
  rw [(BitVec.xor_right_inj register).mp words] at ofLeft
  exact ofLeft.inj ofRight length

/-- The division tells apart two bit strings that differ only inside a window as wide as the register. -/
theorem burst_detected (bottom : poly.getLsbD 0 = true) {left right : List Bool} (length : left.length = right.length)
    {start : Nat} (inside : ∀ i, left[i]? ≠ right[i]? → start ≤ i ∧ i < start + w) (differ : left ≠ right)
    (register : BitVec w) : left.foldl (feed poly) register ≠ right.foldl (feed poly) register := by
  intro same
  have before : left.take start = right.take start := by
    apply List.ext_getElem?
    intro i
    by_cases early : i < start
    · rw [List.getElem?_take_of_lt early, List.getElem?_take_of_lt early]
      exact Decidable.byContradiction fun other => absurd (inside i other).1 (Nat.not_le.mpr early)
    · have late := Nat.le_of_not_lt early
      rw [List.getElem?_take_eq_none late, List.getElem?_take_eq_none late]
  have after : (left.drop start).drop w = (right.drop start).drop w := by
    apply List.ext_getElem?
    intro i
    simp only [List.drop_drop, List.getElem?_drop]
    exact Decidable.byContradiction fun other => absurd (inside _ other).2 (by omega)
  rw [← List.take_append_drop start left, ← List.take_append_drop start right, before,
    ← List.take_append_drop w (left.drop start), ← List.take_append_drop w (right.drop start), after] at same
  simp only [List.foldl_append] at same
  have window := foldl_feed_window bottom (by simp [length]) (List.length_take_le w _) _
    (foldl_feed_injective bottom _ same)
  apply differ
  rw [← List.take_append_drop start left, ← List.take_append_drop start right, before,
    ← List.take_append_drop w (left.drop start), ← List.take_append_drop w (right.drop start), after, window]

end Foundation
