import Mathlib.Tactic.NormNum.Prime
import PulseEcu.Foundation.FullPeriod
import PulseEcu.Foundation.Run
import PulseEcu.Foundation.StepPolynomial
import PulseEcu.Security.SeedKey

open Foundation Function

namespace Uds.Security

def xorshiftPoly : Word := 0x3EC241

theorem xorshiftPoly_remainder : Satisfies (shiftStep xorshiftPoly) 1 xorshiftPoly := by decide +kernel

theorem xorshiftPoly_start : Satisfies xorshift kSeedStart xorshiftPoly := by decide +kernel

theorem iterate_start {n : Nat} (short : n < 2 ^ 32) :
    xorshift^[n] kSeedStart = evalAt xorshift kSeedStart (power xorshiftPoly 32 n) :=
  iterate_eq_evalAt xorshift_linear (by decide) xorshiftPoly_remainder xorshiftPoly_start short

theorem prime_divisor {p : Nat} (prime : p.Prime) (divides : p ∣ 2 ^ 32 - 1) :
    p = 3 ∨ p = 5 ∨ p = 17 ∨ p = 257 ∨ p = 65537 := by
  have factors : 2 ^ 32 - 1 = 3 * (5 * (17 * (257 * 65537))) := by decide
  have single : ∀ {q : Nat}, q.Prime → p ∣ q → p = q := fun other => (Nat.prime_dvd_prime_iff_eq prime other).mp
  rw [factors, prime.dvd_mul, prime.dvd_mul, prime.dvd_mul, prime.dvd_mul] at divides
  rcases divides with three | five | seventeen | fermat | largest
  · exact Or.inl (single (by norm_num) three)
  · exact Or.inr (Or.inl (single (by norm_num) five))
  · exact Or.inr (Or.inr (Or.inl (single (by norm_num) seventeen)))
  · exact Or.inr (Or.inr (Or.inr (Or.inl (single (by norm_num) fermat))))
  · exact Or.inr (Or.inr (Or.inr (Or.inr (single (by norm_num) largest))))

theorem start_period : minimalPeriod xorshift kSeedStart = 2 ^ 32 - 1 := by
  apply minimalPeriod_eq_of_div_prime
  · rw [IsPeriodicPt, IsFixedPt, iterate_start (by decide)]
    decide +kernel
  · intro p prime divides
    rw [IsPeriodicPt, IsFixedPt]
    rcases prime_divisor prime divides with rfl | rfl | rfl | rfl | rfl
    all_goals
      rw [iterate_start (by decide)]
      decide +kernel

/-- The shifts 13, 17 and 5 give the full period on the words that are not zero. -/
theorem xorshift_period {lfsr : Word} (running : lfsr ≠ 0) : minimalPeriod xorshift lfsr = 2 ^ 32 - 1 :=
  minimalPeriod_of_nonzero (fun _ => xorshift_ne_zero) (by decide) start_period running

/-- The calls of `generate_seed` since start-up, each with the memory from `buf` on and `max`; shown are the bytes
    that the returned length covers. -/
def seedSource : Machine Word (Region Byte × Nat) (List Byte) where
  step lfsr call :=
    let generated := XorAlgorithm.generateSeed call.1 call.2 lfsr
    (generated.2, generated.1.1.load 0 generated.1.2)

def seedsFrom (lfsr : Word) (calls : List (Region Byte × Nat)) : List (List Byte) :=
  ((seedSource.trace lfsr calls).filter fun entry => 4 ≤ entry.event.2).map fun entry => entry.output

def seeds (calls : List (Region Byte × Nat)) : List (List Byte) := seedsFrom kSeedStart calls

section

variable (lfsr : Word) (calls : List (Region Byte × Nat)) {call : Region Byte × Nat}

theorem seedsFrom_enough (enough : 4 ≤ call.2) :
    seedsFrom lfsr (call :: calls) = seedBytes (xorshift lfsr) :: seedsFrom (xorshift lfsr) calls := by
  have generated := XorAlgorithm.generateSeed_enough call.1 lfsr enough
  have next : seedSource.next lfsr call = xorshift lfsr := congrArg Prod.snd generated
  have output : seedSource.output lfsr call = seedBytes (xorshift lfsr) := by
    simp only [Machine.output, seedSource, generated]
    exact call.1.load_store 0 (seedBytes (xorshift lfsr))
  have room : decide (4 ≤ (seedSource.entry lfsr call).event.2) = true := decide_eq_true enough
  rw [seedsFrom, Machine.trace, List.filter_cons, if_pos room, List.map_cons, next, Machine.entry, output]
  rfl

theorem seedsFrom_short (short : call.2 < 4) : seedsFrom lfsr (call :: calls) = seedsFrom lfsr calls := by
  have next : seedSource.next lfsr call = lfsr := congrArg Prod.snd (XorAlgorithm.generateSeed_short call.1 lfsr short)
  have noRoom : ¬ decide (4 ≤ (seedSource.entry lfsr call).event.2) = true := by
    rw [decide_eq_true_eq]
    exact Nat.not_le.mpr short
  rw [seedsFrom, Machine.trace, List.filter_cons, if_neg noRoom, next]
  rfl

theorem seedsFrom_eq : seedsFrom lfsr calls =
    (List.iterate xorshift (xorshift lfsr) (calls.countP fun call => 4 ≤ call.2)).map seedBytes := by
  induction calls generalizing lfsr with
  | nil => rfl
  | cons call calls ih =>
    by_cases enough : 4 ≤ call.2
    · have room : decide (4 ≤ call.2) = true := decide_eq_true enough
      rw [seedsFrom_enough lfsr calls enough, ih, List.countP_cons, if_pos room, List.iterate, List.map_cons]
    · have noRoom : ¬ decide (4 ≤ call.2) = true := by rwa [decide_eq_true_eq]
      rw [seedsFrom_short lfsr calls (Nat.lt_of_not_le enough), ih, List.countP_cons, if_neg noRoom, Nat.add_zero]

end

/-- Seeds one after the other are the words of the orbit one after the other. -/
theorem seeds_window {calls : List (Region Byte × Nat)} {past window later : List (List Byte)}
    (split : seeds calls = past ++ window ++ later) :
    ∃ lfsr, lfsr ≠ 0 ∧ window = (List.iterate xorshift lfsr window.length).map seedBytes := by
  rw [seeds, seedsFrom_eq] at split
  obtain ⟨front, back, joined, first, _⟩ := List.map_eq_append_iff.mp split
  obtain ⟨before, words, parted, _, rfl⟩ := List.map_eq_append_iff.mp first
  rw [parted] at joined
  have orbit := iterate_infix joined
  have running : ∀ n, xorshift^[n] (xorshift kSeedStart) ≠ 0 := by
    intro n
    induction n with
    | zero => exact xorshift_ne_zero (by decide)
    | succ n ih =>
      rw [iterate_succ_apply']
      exact xorshift_ne_zero ih
  refine ⟨_, running before.length, ?_⟩
  rw [List.length_map, ← orbit]

/-- Up to the number of words that are not zero, consecutive seeds are different, and that many are all of them. -/
theorem seeds_do_not_repeat (calls : List (Region Byte × Nat)) :
    (∀ past window later, seeds calls = past ++ window ++ later →
      (window.length ≤ 2 ^ 32 - 1 → window.Nodup) ∧
        (window.length = 2 ^ 32 - 1 → ∀ lfsr, lfsr ≠ 0 → seedBytes lfsr ∈ window)) ∧
      ∀ lfsr, lfsr ≠ 0 → minimalPeriod xorshift lfsr = 2 ^ 32 - 1 := by
  refine ⟨fun past window later split => ?_, fun _ running => xorshift_period running⟩
  obtain ⟨start, running, orbit⟩ := seeds_window split
  have period := xorshift_period running
  rw [orbit, List.length_map, List.length_iterate]
  constructor
  · intro short
    rw [← period] at short
    exact (nodup_iterate short).map seedBytes_injective
  · intro full lfsr nonzero
    obtain ⟨n, less, same⟩ := exists_iterate (fun _ => xorshift_ne_zero) running period nonzero
    rw [← full] at less
    exact List.mem_map.mpr ⟨lfsr, List.mem_iterate.mpr ⟨n, less, same.symm⟩, rfl⟩

theorem seeds_replicate_length (buf : Region Byte) (n : Nat) : (seeds (List.replicate n (buf, 4))).length = n := by
  have room : decide (4 ≤ (buf, 4).2) = true := rfl
  rw [seeds, seedsFrom_eq, List.length_map, List.length_iterate, List.countP_replicate, if_pos room]

/-- A whole period of calls with room for four bytes. -/
theorem seeds_do_not_repeat_period :
    (seeds (List.replicate (2 ^ 32 - 1) (Region.fill 0, 4))).Nodup ∧
      seedBytes 1 ∈ seeds (List.replicate (2 ^ 32 - 1) (Region.fill 0, 4)) ∧
      minimalPeriod xorshift kSeedStart = 2 ^ 32 - 1 := by
  have whole : ∀ all : List (List Byte), all = [] ++ all ++ [] := fun all => (List.append_nil all).symm
  obtain ⟨windows, periods⟩ := seeds_do_not_repeat (List.replicate (2 ^ 32 - 1) (Region.fill 0, 4))
  obtain ⟨different, all⟩ := windows [] _ [] (whole _)
  have length := seeds_replicate_length (Region.fill 0) (2 ^ 32 - 1)
  exact ⟨different (Nat.le_of_eq length), all length 1 (by decide), periods kSeedStart (by decide)⟩

end Uds.Security
