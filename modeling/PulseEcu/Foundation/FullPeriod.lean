import Mathlib.Data.Finset.Card
import Mathlib.Data.List.Iterate
import Mathlib.Data.Nat.Prime.Basic
import Mathlib.Dynamics.PeriodicPts.Defs
import Mathlib.Order.Interval.Finset.Nat

open Function

namespace Foundation

section

variable {α : Type} {f : α → α} {x : α} {n : Nat}

/-- The orbit closes after `n` steps and, for no prime divisor, after that fraction of them. -/
theorem minimalPeriod_eq_of_div_prime (returns : IsPeriodicPt f n x)
    (misses : ∀ p, p.Prime → p ∣ n → ¬ IsPeriodicPt f (n / p) x) : minimalPeriod f x = n := by
  obtain ⟨a, split⟩ := returns.minimalPeriod_dvd
  by_cases one : a = 1
  · rw [split, one, Nat.mul_one]
  · obtain ⟨b, factor⟩ := a.minFac_dvd
    have regrouped : n = a.minFac * (minimalPeriod f x * b) := by
      rw [split, Nat.mul_left_comm, ← factor]
    have quotient : n / a.minFac = minimalPeriod f x * b := Nat.div_eq_of_eq_mul_right a.minFac_pos regrouped
    have early : IsPeriodicPt f (n / a.minFac) x := by
      rw [quotient]
      exact (isPeriodicPt_minimalPeriod f x).mul_const b
    exact absurd early (misses a.minFac (Nat.minFac_prime one) ⟨_, regrouped⟩)

theorem nodup_iterate (short : n ≤ minimalPeriod f x) : (List.iterate f x n).Nodup := by
  rw [← List.range_map_iterate]
  apply List.Nodup.map_on _ List.nodup_range
  intro i left j right same
  have first := Nat.lt_of_lt_of_le (List.mem_range.mp left) short
  have second := Nat.lt_of_lt_of_le (List.mem_range.mp right) short
  exact (iterate_eq_iterate_iff_of_lt_minimalPeriod first second).mp same

theorem iterate_infix {past window later : List α} (split : List.iterate f x n = past ++ window ++ later) :
    window = List.iterate f (f^[past.length] x) window.length := by
  have count : n = past.length + window.length + later.length := by
    have lengths := congrArg List.length split
    rw [List.length_iterate, List.length_append, List.length_append] at lengths
    exact lengths
  rw [count, List.iterate_add, List.iterate_add] at split
  have front := (List.append_inj split (by simp)).1
  exact (List.append_inj front (by simp)).2.symm

end

section

variable {w : Nat} {f : BitVec w → BitVec w} {start x : BitVec w}

/-- A step that keeps words from becoming zero and has the longest orbit from one word meets all the others on it. -/
theorem exists_iterate (keeps : ∀ x, x ≠ 0 → f x ≠ 0) (running : start ≠ 0) (full : minimalPeriod f start = 2 ^ w - 1)
    (nonzero : x ≠ 0) : ∃ n < 2 ^ w - 1, f^[n] start = x := by
  have values : ∀ y : BitVec w, y ≠ 0 → y.toNat ∈ Finset.Ico 1 (2 ^ w) := by
    intro y other
    have positive : y.toNat ≠ 0 := fun zero => other (BitVec.eq_of_toNat_eq zero)
    exact Finset.mem_Ico.mpr ⟨Nat.one_le_iff_ne_zero.mpr positive, y.isLt⟩
  have orbit : ∀ n, f^[n] start ≠ 0 := by
    intro n
    induction n with
    | zero => exact running
    | succ n ih =>
      rw [iterate_succ_apply']
      exact keeps _ ih
  have inside : (Finset.range (2 ^ w - 1)).image (fun n => (f^[n] start).toNat) ⊆ Finset.Ico 1 (2 ^ w) := by
    intro value member
    obtain ⟨n, _, rfl⟩ := Finset.mem_image.mp member
    exact values _ (orbit n)
  have card : ((Finset.range (2 ^ w - 1)).image fun n => (f^[n] start).toNat).card = 2 ^ w - 1 := by
    rw [Finset.card_image_of_injOn, Finset.card_range]
    intro i left j right same
    rw [Finset.coe_range, Set.mem_Iio, ← full] at left right
    exact (iterate_eq_iterate_iff_of_lt_minimalPeriod left right).mp (BitVec.eq_of_toNat_eq same)
  have all := Finset.eq_of_subset_of_card_le inside (by rw [card, Nat.card_Ico])
  have member := values x nonzero
  rw [← all] at member
  obtain ⟨n, less, same⟩ := Finset.mem_image.mp member
  exact ⟨n, Finset.mem_range.mp less, BitVec.eq_of_toNat_eq same⟩

theorem minimalPeriod_of_nonzero (keeps : ∀ x, x ≠ 0 → f x ≠ 0) (running : start ≠ 0)
    (full : minimalPeriod f start = 2 ^ w - 1) (nonzero : x ≠ 0) : minimalPeriod f x = 2 ^ w - 1 := by
  obtain ⟨n, less, rfl⟩ := exists_iterate keeps running full nonzero
  have periodic : start ∈ periodicPts f := by
    apply minimalPeriod_pos_iff_mem_periodicPts.mp
    rw [full]
    exact Nat.zero_lt_of_lt less
  rw [minimalPeriod_apply_iterate periodic, full]

end

end Foundation
