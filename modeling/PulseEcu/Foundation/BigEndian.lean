import Mathlib.Algebra.Group.Nat.Defs

namespace Foundation

def bigEndian (bytes : List (BitVec 8)) : Nat := bytes.foldl (fun value b => 256 * value + b.toNat) 0

/-- The loop `value = (value << 8) | byte` over bytes, in an unsigned type of `w` bits. -/
def shiftIn (w : Nat) (bytes : List (BitVec 8)) : BitVec w :=
  bytes.foldl (fun value b => (value <<< 8) ||| b.setWidth w) 0

theorem shift_or_toNat {w : Nat} (wide : 8 ≤ w) (value : BitVec w) (b : BitVec 8) :
    ((value <<< 8) ||| b.setWidth w).toNat = (256 * value.toNat + b.toNat) % 2 ^ w := by
  have byte := b.isLt
  have limit : 2 ^ 8 ≤ 2 ^ w := Nat.pow_le_pow_right (by decide) wide
  have small : b.toNat % 2 ^ w = b.toNat := Nat.mod_eq_of_lt (Nat.lt_of_lt_of_le byte limit)
  have split : 2 ^ w = 2 ^ 8 * 2 ^ (w - 8) := by
    rw [← Nat.pow_add]
    congr 1
    omega
  have shifted : value.toNat * 2 ^ 8 % 2 ^ w = 2 ^ 8 * (value.toNat % 2 ^ (w - 8)) := by
    rw [split, Nat.mul_comm, Nat.mul_mod_mul_left]
  rw [BitVec.toNat_or, BitVec.toNat_shiftLeft, BitVec.toNat_setWidth, small, Nat.shiftLeft_eq, shifted,
    ← Nat.two_pow_add_eq_or_of_lt byte]
  have below : 2 ^ 8 * (value.toNat % 2 ^ (w - 8)) + b.toNat < 2 ^ w := by
    have high := Nat.mod_lt value.toNat (Nat.two_pow_pos (w - 8))
    rw [split]
    calc 2 ^ 8 * (value.toNat % 2 ^ (w - 8)) + b.toNat
        < 2 ^ 8 * (value.toNat % 2 ^ (w - 8)) + 2 ^ 8 := Nat.add_lt_add_left byte _
      _ = 2 ^ 8 * (value.toNat % 2 ^ (w - 8) + 1) := (Nat.mul_succ ..).symm
      _ ≤ 2 ^ 8 * 2 ^ (w - 8) := Nat.mul_le_mul_left _ high
  have eight : (2 : Nat) ^ 8 = 256 := by decide
  rw [← Nat.mod_eq_of_lt below, ← shifted, Nat.mod_add_mod, Nat.mul_comm, eight]

theorem shiftIn_toNat {w : Nat} (wide : 8 ≤ w) (bytes : List (BitVec 8)) :
    (shiftIn w bytes).toNat = bigEndian bytes % 2 ^ w := by
  suffices general : ∀ (value : BitVec w) (start : Nat), value.toNat = start % 2 ^ w →
      (bytes.foldl (fun (value : BitVec w) b => (value <<< 8) ||| b.setWidth w) value).toNat =
        bytes.foldl (fun value b => 256 * value + b.toNat) start % 2 ^ w from
    general 0 0 (by rw [Nat.zero_mod]; exact BitVec.toNat_zero)
  induction bytes with
  | nil => exact fun _ _ same => same
  | cons b bytes ih =>
    intro value start same
    apply ih
    rw [shift_or_toNat wide, same, Nat.add_mod, Nat.mul_mod, Nat.mod_mod, ← Nat.mul_mod, ← Nat.add_mod]

def bytesOf : Nat → Nat → List (BitVec 8)
  | 0, _ => []
  | count + 1, n => bytesOf count (n / 256) ++ [BitVec.ofNat 8 n]

@[simp] theorem bytesOf_length (count n : Nat) : (bytesOf count n).length = count := by
  induction count generalizing n with
  | zero => rfl
  | succ count ih => rw [bytesOf, List.length_append, ih, List.length_singleton]

theorem bigEndian_snoc (bytes : List (BitVec 8)) (b : BitVec 8) :
    bigEndian (bytes ++ [b]) = 256 * bigEndian bytes + b.toNat := by
  rw [bigEndian, List.foldl_append]
  rfl

theorem bigEndian_bytesOf (count n : Nat) : bigEndian (bytesOf count n) = n % 256 ^ count := by
  induction count generalizing n with
  | zero => rw [Nat.pow_zero, Nat.mod_one]; rfl
  | succ count ih =>
    have byte : (BitVec.ofNat 8 n).toNat = n % 256 := BitVec.toNat_ofNat n 8
    rw [bytesOf, bigEndian_snoc, ih, byte, Nat.pow_succ, Nat.mul_comm (256 ^ count), Nat.mod_mul, Nat.add_comm]

end Foundation
