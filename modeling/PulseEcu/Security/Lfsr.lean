import PulseEcu.Security.SeedPeriod

open Foundation Function

namespace Uds.Security

structure LfsrGenerator where
  state : Word

namespace LfsrGenerator

def create (seed : Word) : LfsrGenerator := ⟨if seed ≠ 0 then seed else 1⟩

def next (g : LfsrGenerator) : Word × LfsrGenerator :=
  let lsb := g.state &&& 1
  let state := g.state >>> 1
  let state := if lsb ≠ 0 then state ^^^ 0xB4BCD35C else state
  (state, ⟨state⟩)

def put (len : Nat) (cells : Region Byte × Nat) (byte : Byte) : Region Byte × Nat :=
  if cells.2 < len then (cells.1.store cells.2 [byte], cells.2 + 1) else cells

theorem put_le (len : Nat) (cells : Region Byte × Nat) (byte : Byte) : cells.2 ≤ (put len cells byte).2 := by
  unfold put
  split
  · exact Nat.le_succ _
  · exact Nat.le_refl _

def fillRound (len : Nat) (buf : Region Byte) (i : Nat) (word : Word) : Region Byte × Nat :=
  let cells := (buf.store i [(word >>> 24).setWidth 8], i + 1)
  let cells := put len cells ((word >>> 16).setWidth 8)
  let cells := put len cells ((word >>> 8).setWidth 8)
  put len cells (word.setWidth 8)

theorem fillRound_lt (len : Nat) (buf : Region Byte) (i : Nat) (word : Word) : i < (fillRound len buf i word).2 := by
  have second := put_le len (buf.store i [(word >>> 24).setWidth 8], i + 1) ((word >>> 16).setWidth 8)
  exact Nat.le_trans (Nat.le_trans second (put_le len _ ((word >>> 8).setWidth 8))) (put_le len _ (word.setWidth 8))

def fillFrom (len : Nat) (buf : Region Byte) (i : Nat) (g : LfsrGenerator) : Region Byte × LfsrGenerator :=
  if i < len then
    let drawn := g.next
    let cells := fillRound len buf i drawn.1
    fillFrom len cells.1 cells.2 drawn.2
  else (buf, g)
termination_by len - i
decreasing_by
  have further := fillRound_lt len buf i g.next.1
  omega

def fill (buf : Region Byte) (len : Nat) (g : LfsrGenerator) : Region Byte × LfsrGenerator := fillFrom len buf 0 g

end LfsrGenerator

def lfsrStep : Word → Word := bitStep 0xB4BCD35C

def lfsrPoly : Word := 0x3ACB3D2D

theorem next_eq (g : LfsrGenerator) : g.next = (lfsrStep g.state, ⟨lfsrStep g.state⟩) := by
  have low : (g.state &&& 1 ≠ 0) ↔ g.state.getLsbD 0 = true := by
    have twoPow : g.state &&& 1 = if g.state.getLsbD 0 then 1 else 0 := BitVec.and_twoPow g.state 0
    rw [twoPow]
    cases g.state.getLsbD 0 with
    | false => simp
    | true => simp
  unfold LfsrGenerator.next lfsrStep bitStep
  by_cases bit : g.state.getLsbD 0 = true
  · simp only [if_pos bit, if_pos (low.mpr bit)]
  · simp only [if_neg bit, if_neg (fun odd => bit (low.mp odd))]

theorem lfsrStep_linear : XorLinear lfsrStep := bitStep_linear _

theorem lfsrStep_ne_zero {state : Word} (running : state ≠ 0) : lfsrStep state ≠ 0 := by
  intro stuck
  rw [← lfsrStep_linear.zero] at stuck
  have injective : lfsrStep.Injective := bitStep_injective (by decide)
  exact running (injective stuck)

theorem lfsrPoly_remainder : Satisfies (shiftStep lfsrPoly) 1 lfsrPoly := by decide +kernel

theorem lfsrPoly_one : Satisfies lfsrStep 1 lfsrPoly := by decide +kernel

theorem lfsr_iterate {n : Nat} (short : n < 2 ^ 32) : lfsrStep^[n] 1 = evalAt lfsrStep 1 (power lfsrPoly 32 n) :=
  iterate_eq_evalAt lfsrStep_linear (by decide) lfsrPoly_remainder lfsrPoly_one short

theorem lfsr_one_period : minimalPeriod lfsrStep 1 = 2 ^ 32 - 1 := by
  apply minimalPeriod_eq_of_div_prime
  · rw [IsPeriodicPt, IsFixedPt, lfsr_iterate (by decide)]
    decide +kernel
  · intro p prime divides
    rw [IsPeriodicPt, IsFixedPt]
    rcases prime_divisor prime divides with rfl | rfl | rfl | rfl | rfl
    all_goals
      rw [lfsr_iterate (by decide)]
      decide +kernel

/-- The feedback polynomial is primitive. -/
theorem lfsr_period {state : Word} (running : state ≠ 0) : minimalPeriod lfsrStep state = 2 ^ 32 - 1 :=
  minimalPeriod_of_nonzero (fun _ => lfsrStep_ne_zero) (by decide) lfsr_one_period running

namespace LfsrGenerator

theorem create_ne_zero (seed : Word) : (create seed).state ≠ 0 := by
  unfold create
  by_cases zero : seed ≠ 0
  · rw [if_pos zero]
    exact zero
  · rw [if_neg zero]
    decide

section

variable {len i : Nat} (buf : Region Byte)

/-- Bytes that are put one after the other land in the buffer as far as it goes. -/
theorem put_bytes (bytes : List Byte) (inside : i ≤ len) : bytes.foldl (put len) (buf, i) =
    (buf.store i (bytes.take (len - i)), i + min bytes.length (len - i)) := by
  induction bytes generalizing buf i with
  | nil =>
    rw [List.foldl_nil, List.take_nil, Region.store_nil, List.length_nil, Nat.zero_min, Nat.add_zero]
  | cons byte bytes ih =>
    rw [List.foldl_cons, put]
    by_cases room : i < len
    · have left : len - i = (len - (i + 1)) + 1 := by omega
      have joined := Region.store_append buf i [byte] (bytes.take (len - (i + 1)))
      rw [if_pos room, ih _ room, left, List.take_succ_cons, List.length_cons]
      refine Prod.ext joined.symm ?_
      show i + 1 + min bytes.length (len - (i + 1)) = i + min (bytes.length + 1) (len - (i + 1) + 1)
      omega
    · have none : len - i = 0 := by omega
      rw [if_neg room, ih buf inside, none, List.take_zero, List.take_zero, Nat.min_zero, Nat.min_zero]

theorem fillRound_eq (word : Word) (inside : i < len) : fillRound len buf i word =
    (buf.store i ((seedBytes word).take (len - i)), i + min 4 (len - i)) := by
  have all := put_bytes buf (seedBytes word) (Nat.le_of_lt inside)
  have first : put len (buf, i) ((word >>> 24).setWidth 8) = (buf.store i [(word >>> 24).setWidth 8], i + 1) :=
    if_pos inside
  simp only [seedBytes, List.foldl_cons, List.foldl_nil, first] at all
  exact all

/-- A buffer takes the bytes of a new word for every four of its places, and for the rest of them. -/
theorem fillFrom_eq (count : Nat) (g : LfsrGenerator) (inside : i + count = len) : fillFrom len buf i g =
    (buf.store i (((List.iterate lfsrStep (lfsrStep g.state) ((count + 3) / 4)).flatMap seedBytes).take count),
      ⟨lfsrStep^[(count + 3) / 4] g.state⟩) := by
  induction count using Nat.strongRecOn generalizing buf i g with
  | ind count ih =>
    rw [fillFrom]
    by_cases room : i < len
    · have words : (count + 3) / 4 = (count - 4 + 3) / 4 + 1 := by omega
      have rest := ih (count - 4) (by omega) (buf.store i ((seedBytes g.next.1).take count)) g.next.2
        (show i + min 4 count + (count - 4) = len by omega)
      have length : ((seedBytes (lfsrStep g.state)).take count).length = min 4 count := by
        rw [List.length_take, Nat.min_comm]
        rfl
      have left : len - i = count := by omega
      rw [if_pos room]
      dsimp only
      rw [fillRound_eq buf g.next.1 room, left, rest, next_eq, words, List.iterate, List.flatMap_cons,
        List.take_append, ← length, ← Region.store_append, iterate_succ_apply]
      rfl
    · have none : count = 0 := by omega
      rw [if_neg room, none, List.take_zero, Region.store_nil]
      rfl

theorem fill_eq (len : Nat) (g : LfsrGenerator) : fill buf len g =
    (buf.store 0 (((List.iterate lfsrStep (lfsrStep g.state) ((len + 3) / 4)).flatMap seedBytes).take len),
      ⟨lfsrStep^[(len + 3) / 4] g.state⟩) := fillFrom_eq buf len g (Nat.zero_add len)

end

end LfsrGenerator

inductive Draw where
  | next
  | fill (buf : Region Byte) (len : Nat)

/-- The calls of a generator; shown are the bytes of the word, or those filled in. -/
def lfsrSource : Machine LfsrGenerator Draw (List Byte) where
  step g
    | .next => (g.next.2, seedBytes g.next.1)
    | .fill buf len =>
      let filled := g.fill buf len
      (filled.2, filled.1.load 0 len)

namespace Draw

def words : Draw → Nat
  | next => 1
  | fill _ len => (len + 3) / 4

def bytes : Draw → Nat
  | next => 4
  | fill _ len => len

def cut : List Draw → List Word → List (List Byte)
  | [], _ => []
  | call :: calls, words =>
    ((words.take call.words).flatMap seedBytes).take call.bytes :: cut calls (words.drop call.words)

end Draw

theorem lfsr_step (g : LfsrGenerator) (call : Draw) : lfsrSource.step g call =
    (⟨lfsrStep^[call.words] g.state⟩,
      ((List.iterate lfsrStep (lfsrStep g.state) call.words).flatMap seedBytes).take call.bytes) := by
  cases call with
  | next =>
    simp only [lfsrSource, next_eq]
    rfl
  | fill buf len =>
    simp only [lfsrSource, LfsrGenerator.fill_eq]
    have length : (((List.iterate lfsrStep (lfsrStep g.state) ((len + 3) / 4)).flatMap seedBytes).take len).length =
        len := by
      have four : ((fun word : Word => (seedBytes word).length)) = fun _ => 4 := rfl
      rw [List.length_take, List.length_flatMap, four, List.map_const', List.sum_replicate, List.length_iterate,
        smul_eq_mul]
      omega
    have loaded := buf.load_store 0
      (((List.iterate lfsrStep (lfsrStep g.state) ((len + 3) / 4)).flatMap seedBytes).take len)
    rw [length] at loaded
    rw [loaded]
    rfl

theorem lfsr_outputs (g : LfsrGenerator) (calls : List Draw) : (lfsrSource.trace g calls).map Machine.Entry.output =
    Draw.cut calls (List.iterate lfsrStep (lfsrStep g.state) (calls.map Draw.words).sum) := by
  induction calls generalizing g with
  | nil => rfl
  | cons call calls ih =>
    have step := lfsr_step g call
    have next : lfsrSource.next g call = ⟨lfsrStep^[call.words] g.state⟩ := congrArg Prod.fst step
    have output : lfsrSource.output g call = _ := congrArg Prod.snd step
    have taken : (List.iterate lfsrStep (lfsrStep g.state) call.words).length = call.words := List.length_iterate ..
    rw [Machine.trace, List.map_cons, ih, next, List.map_cons, List.sum_cons, List.iterate_add, Draw.cut,
      List.take_append_of_le_length (Nat.le_of_eq taken.symm), List.take_of_length_le (Nat.le_of_eq taken),
      List.drop_append_of_le_length (Nat.le_of_eq taken.symm), List.drop_of_length_le (Nat.le_of_eq taken),
      List.nil_append, ← iterate_succ_apply, iterate_succ_apply']
    exact congrArg (· :: _) output

theorem lfsr_running {state : Word} (running : state ≠ 0) (n : Nat) : lfsrStep^[n] state ≠ 0 := by
  induction n with
  | zero => exact running
  | succ n ih =>
    rw [iterate_succ_apply']
    exact lfsrStep_ne_zero ih

/-- Whatever the seed and however the calls cut it up, a generator hands out one stream of words: none
    is zero, and 2³² - 1 words in a row are all the others, once each. -/
theorem lfsr_stream (seed : Word) (calls : List Draw) :
    ∃ words : List Word, words.length = (calls.map Draw.words).sum ∧
      (lfsrSource.trace (.create seed) calls).map Machine.Entry.output = Draw.cut calls words ∧ 0 ∉ words ∧
      ∀ past window later, words = past ++ window ++ later → (window.length ≤ 2 ^ 32 - 1 → window.Nodup) ∧
        (window.length = 2 ^ 32 - 1 → ∀ word, word ≠ 0 → word ∈ window) := by
  have start := lfsrStep_ne_zero (LfsrGenerator.create_ne_zero seed)
  refine ⟨_, List.length_iterate .., lfsr_outputs (.create seed) calls, fun zero => ?_, fun past window later split => ?_⟩
  · obtain ⟨n, _, same⟩ := List.mem_iterate.mp zero
    exact lfsr_running start n same.symm
  · have orbit := iterate_infix split
    have running := lfsr_running start past.length
    have period := lfsr_period running
    constructor
    · intro short
      rw [orbit]
      rw [← period] at short
      exact nodup_iterate short
    · intro full word nonzero
      obtain ⟨n, less, same⟩ := exists_iterate (fun _ => lfsrStep_ne_zero) running period nonzero
      rw [orbit]
      rw [← full] at less
      exact List.mem_iterate.mpr ⟨n, less, same.symm⟩

end Uds.Security
