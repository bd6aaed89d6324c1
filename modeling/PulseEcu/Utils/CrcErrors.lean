import Mathlib.Data.List.GetD
import Mathlib.Tactic.NormNum.Prime
import PulseEcu.Foundation.ErrorDetection
import PulseEcu.Utils.Crc

open Foundation Function

namespace Uds.Utils

def errors (data other : List Byte) : List Bool := flips (bits data) (bits other)

def crc16Poly : BitVec 16 := 0x1021

/-- The polynomial has `x + 1` as a factor. -/
theorem crc16Poly_root : Satisfies id 1 crc16Poly := by decide

theorem crc16Poly_remainder : Satisfies (shiftStep crc16Poly) 1 crc16Poly := by decide +kernel

theorem crc16Poly_self : Satisfies (shiftStep crc16Poly) crc16Poly crc16Poly := by decide +kernel

theorem crc16_iterate {n : Nat} (short : n < 2 ^ 15) : (shiftStep crc16Poly)^[n] crc16Poly =
    evalAt (shiftStep crc16Poly) crc16Poly (power crc16Poly 15 n) :=
  iterate_eq_evalAt (shiftStep_linear crc16Poly) (by decide) crc16Poly_remainder crc16Poly_self short

/-- The other factor, of degree 15, is primitive. -/
theorem crc16_period : minimalPeriod (shiftStep crc16Poly) crc16Poly = 32767 := by
  apply minimalPeriod_eq_of_div_prime
  · rw [IsPeriodicPt, IsFixedPt, crc16_iterate (by decide)]
    decide +kernel
  · intro p prime divides
    have factors : 32767 = 7 * (31 * 151) := rfl
    have single : ∀ {q : Nat}, q.Prime → p ∣ q → p = q := fun other => (Nat.prime_dvd_prime_iff_eq prime other).mp
    rw [factors, prime.dvd_mul, prime.dvd_mul] at divides
    rw [IsPeriodicPt, IsFixedPt]
    rcases divides with seven | middle | largest
    · rw [single (by norm_num) seven, crc16_iterate (by decide)]
      decide +kernel
    · rw [single (by norm_num) middle, crc16_iterate (by decide)]
      decide +kernel
    · rw [single (by norm_num) largest, crc16_iterate (by decide)]
      decide +kernel

section

variable {data other : List Byte} (length : data.length = other.length)

include length

theorem bits_same_length : (bits data).length = (bits other).length := by rw [bits_length, bits_length, length]

theorem crc16Ccitt_odd (odd : (errors data other).count true % 2 = 1) (crcInit : BitVec 16) :
    crc16Ccitt data crcInit ≠ crc16Ccitt other crcInit := by
  rw [crc16Ccitt_eq, crc16Ccitt_eq]
  exact odd_detected crc16Poly_root (by decide) (bits_same_length length) odd crcInit

theorem crc16Ccitt_pair {before between after : Nat} (pair : errors data other = List.replicate before false ++
    true :: (List.replicate between false ++ true :: List.replicate after false)) (crcInit : BitVec 16) :
    crc16Ccitt data crcInit = crc16Ccitt other crcInit ↔ 32767 ∣ between + 1 := by
  rw [crc16Ccitt_eq, crc16Ccitt_eq, ← crc16_period]
  exact pair_unnoticed_iff (by decide) (bits_same_length length) pair crcInit

theorem errors_length : (errors data other).length = 8 * data.length := by
  rw [errors, flips, List.length_zipWith, ← bits_same_length length, Nat.min_self, bits_length]

/-- Up to the length of the period no change of fewer than four bits goes unnoticed. -/
theorem crc16Ccitt_four (differ : data ≠ other) (short : data.length ≤ 4095) {crcInit : BitVec 16}
    (same : crc16Ccitt data crcInit = crc16Ccitt other crcInit) : 4 ≤ (errors data other).count true := by
  have even : ¬ (errors data other).count true % 2 = 1 := fun odd => crc16Ccitt_odd length odd crcInit same
  have some : (errors data other).count true ≠ 0 := by
    intro none
    exact differ (bits_inj length (flips_none (bits_same_length length) none))
  have notTwo : (errors data other).count true ≠ 2 := by
    intro two
    obtain ⟨before, rest, first, left⟩ := count_split two
    obtain ⟨between, last, second, none⟩ := count_split left
    rw [second, count_zero none] at first
    have divides := (crc16Ccitt_pair length first crcInit).mp same
    have total := errors_length length
    rw [first, List.length_append, List.length_cons, List.length_append, List.length_cons, List.length_replicate,
      List.length_replicate, List.length_replicate] at total
    have bound := Nat.le_of_dvd (Nat.succ_pos between) divides
    omega
  omega

end

/-- The CRC-16 tells apart any two messages of one length that differ in an odd number of bits, and of
    those that differ in two exactly the ones in which these are not a multiple of 32767 bits apart; so
    up to 4095 bytes no change of fewer than four bits goes unnoticed. -/
theorem crc16Ccitt_distance :
    (∀ data other : List Byte, data.length = other.length → (errors data other).count true % 2 = 1 →
      ∀ crcInit, crc16Ccitt data crcInit ≠ crc16Ccitt other crcInit) ∧
    (∀ (data other : List Byte) (before between after : Nat), data.length = other.length →
      errors data other = List.replicate before false ++ true ::
        (List.replicate between false ++ true :: List.replicate after false) →
      ∀ crcInit, crc16Ccitt data crcInit = crc16Ccitt other crcInit ↔ 32767 ∣ between + 1) ∧
    ∀ data other : List Byte, data.length = other.length → data.length ≤ 4095 → data ≠ other →
      ∀ crcInit, crc16Ccitt data crcInit = crc16Ccitt other crcInit → 4 ≤ (errors data other).count true :=
  ⟨fun _ _ length odd => crc16Ccitt_odd length odd,
    fun _ _ _ _ _ length pair => crc16Ccitt_pair length pair,
    fun _ _ length short differ _ same => crc16Ccitt_four length differ short same⟩

/-- Three flipped bits, two flipped bits, and a change of four bits that leaves the CRC alone. -/
theorem crc16Ccitt_distance_small :
    crc16Ccitt [0x07] 0xFFFF ≠ crc16Ccitt [0x00] 0xFFFF ∧
      (crc16Ccitt [0x21] 0xFFFF = crc16Ccitt [0x00] 0xFFFF ↔ 32767 ∣ 4 + 1) ∧
      4 ≤ (errors [0x01, 0x10, 0x21] [0x00, 0x00, 0x00]).count true :=
  ⟨crc16Ccitt_distance.1 [0x07] [0x00] rfl (by decide) 0xFFFF,
    crc16Ccitt_distance.2.1 [0x21] [0x00] 2 4 0 rfl (by decide) 0xFFFF,
    crc16Ccitt_distance.2.2 [0x01, 0x10, 0x21] [0x00, 0x00, 0x00] rfl (by decide) (by decide) 0xFFFF
      (by decide +kernel)⟩

theorem bitsOf_getD (byte : Byte) (i : Nat) : (bitsOf byte).getD i false = byte.getMsbD i := by
  by_cases inside : i < 8
  · simp [bitsOf, inside]
  · simp [bitsOf, inside, BitVec.getMsbD_of_ge byte i (Nat.le_of_not_lt inside)]

theorem heads_word (register : BitVec 16) :
    Heads register (bits [(register >>> 8).setWidth 8, register.setWidth 8]) := by
  intro i
  have both : bits [(register >>> 8).setWidth 8, register.setWidth 8] =
      bitsOf ((register >>> 8).setWidth 8) ++ bitsOf (register.setWidth 8) := rfl
  rw [both]
  by_cases high : i < 8
  · have position : 8 + (7 - i) = 15 - i := by omega
    have inside : i < 16 ∧ 7 - i < 8 := by omega
    rw [List.getD_append _ _ _ _ (by rwa [bitsOf_length]), bitsOf_getD]
    simp [BitVec.getMsbD, high, inside, position]
  · rw [List.getD_append_right _ _ _ _ (by rw [bitsOf_length]; omega), bitsOf_length, bitsOf_getD]
    by_cases inside : i < 16
    · have position : 7 - (i - 8) = 15 - i := by omega
      have second : i - 8 < 8 ∧ 15 - i < 8 := by omega
      simp [BitVec.getMsbD, inside, second, position]
    · rw [BitVec.getMsbD_of_ge _ _ (Nat.le_of_not_lt inside), BitVec.getMsbD_of_ge _ _ (by omega)]

/-- A message with its CRC appended, the high byte first, leaves 0 behind, and with other two bytes does not. -/
theorem crc16Ccitt_trailer (data : List Byte) (high low : Byte) (crcInit : BitVec 16) :
    crc16Ccitt (data ++ [high, low]) crcInit = 0 ↔
      high = (crc16Ccitt data crcInit >>> 8).setWidth 8 ∧ low = (crc16Ccitt data crcInit).setWidth 8 := by
  have split : crc16Ccitt (data ++ [high, low]) crcInit = crc16Ccitt [high, low] (crc16Ccitt data crcInit) :=
    List.foldl_append
  rw [split, crc16Ccitt_eq]
  rw [appended_cleared_iff (by decide) (heads_word (crc16Ccitt data crcInit)) rfl rfl]
  constructor
  · intro same
    have bytes : [high, low] = [(crc16Ccitt data crcInit >>> 8).setWidth 8, (crc16Ccitt data crcInit).setWidth 8] :=
      bits_inj rfl same
    obtain ⟨first, second⟩ := List.cons.inj bytes
    exact ⟨first, List.head_eq_of_cons_eq second⟩
  · intro same
    rw [same.1, same.2]

end Uds.Utils
