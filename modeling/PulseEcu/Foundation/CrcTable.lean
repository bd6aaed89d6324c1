import PulseEcu.Foundation.ShiftRegister

namespace Foundation

variable {w : Nat}

def byteStep (poly register : BitVec w) (byte : BitVec 8) : BitVec w :=
  (bitStep poly)^[8] (register ^^^ byte.setWidth w)

def remainder (poly : BitVec w) (index : BitVec 8) : BitVec w := (bitStep poly)^[8] (index.setWidth w)

def tableIndex (register : BitVec w) (byte : BitVec 8) : BitVec 8 := (register ^^^ byte.setWidth w).setWidth 8

def tableStep (table : BitVec 8 → BitVec w) (register : BitVec w) (byte : BitVec 8) : BitVec w :=
  table (tableIndex register byte) ^^^ register >>> 8

def flaw (table : BitVec 8 → BitVec w) (poly : BitVec w) (index : BitVec 8) : BitVec w :=
  table index ^^^ remainder poly index

/-- The entries that the bytes select, in order, from registers that go on by `step`. -/
def lookups (step : BitVec w → BitVec 8 → BitVec w) : BitVec w → List (BitVec 8) → List (BitVec 8)
  | _, [] => []
  | register, byte :: bytes => tableIndex register byte :: lookups step (step register byte) bytes

/-- The errors of the selected entries together, each divided on through the bytes after it. -/
def carried (table : BitVec 8 → BitVec w) (poly : BitVec w) : BitVec w → List (BitVec 8) → BitVec w :=
  List.foldl fun error index => (bitStep poly)^[8] error ^^^ flaw table poly index

theorem byteStep_lookup (poly register : BitVec w) (byte : BitVec 8) :
    byteStep poly register byte = remainder poly (tableIndex register byte) ^^^ register >>> 8 := by
  have high : (register ^^^ byte.setWidth w) >>> 8 = register >>> 8 := by
    apply BitVec.eq_of_getLsbD_eq
    intro i _
    simp
  rw [byteStep, bitStep_split, high]
  rfl

/-- With a flawed entry, a lookup adds the error of the entry. -/
theorem tableStep_flaw (table : BitVec 8 → BitVec w) (poly register : BitVec w) (byte : BitVec 8) :
    tableStep table register byte = byteStep poly register byte ^^^ flaw table poly (tableIndex register byte) := by
  rw [byteStep_lookup, tableStep, flaw, BitVec.xor_comm (table _) (remainder _ _), ← BitVec.xor_assoc,
    BitVec.xor_assoc (remainder _ _), BitVec.xor_comm (register >>> 8), ← BitVec.xor_assoc, BitVec.xor_self,
    BitVec.zero_xor, BitVec.xor_comm]

theorem byteStep_xor (poly register error : BitVec w) (byte : BitVec 8) :
    byteStep poly (register ^^^ error) byte = byteStep poly register byte ^^^ (bitStep poly)^[8] error := by
  have moved : (register ^^^ error) ^^^ byte.setWidth w = (register ^^^ byte.setWidth w) ^^^ error := by
    rw [BitVec.xor_assoc, BitVec.xor_comm error, ← BitVec.xor_assoc]
  rw [byteStep, moved, (bitStep_linear poly).iterate 8]
  rfl

/-- The registers differ by the errors of the entries that were looked up. -/
theorem foldl_tableStep (table : BitVec 8 → BitVec w) (poly register error : BitVec w) (bytes : List (BitVec 8)) :
    bytes.foldl (tableStep table) (register ^^^ error) =
      bytes.foldl (byteStep poly) register ^^^ carried table poly error (lookups (tableStep table) (register ^^^ error) bytes) := by
  induction bytes generalizing register error with
  | nil => rfl
  | cons byte bytes ih =>
    have stepped : tableStep table (register ^^^ error) byte = byteStep poly register byte ^^^
        ((bitStep poly)^[8] error ^^^ flaw table poly (tableIndex (register ^^^ error) byte)) := by
      rw [tableStep_flaw table poly, byteStep_xor, BitVec.xor_assoc]
    rw [List.foldl_cons, lookups, stepped, ih]
    rfl

theorem foldl_tableStep_eq_iff (table : BitVec 8 → BitVec w) (poly register : BitVec w) (bytes : List (BitVec 8)) :
    bytes.foldl (tableStep table) register = bytes.foldl (byteStep poly) register ↔
      carried table poly 0 (lookups (tableStep table) register bytes) = 0 := by
  have differ := foldl_tableStep table poly register 0 bytes
  rw [show register ^^^ 0 = register from BitVec.xor_zero] at differ
  rw [differ]
  constructor
  · intro same
    have zero := BitVec.xor_eq_zero_iff.mpr same
    rwa [BitVec.xor_comm, ← BitVec.xor_assoc, BitVec.xor_self, BitVec.zero_xor] at zero
  · intro zero
    rw [zero]
    exact BitVec.xor_zero

/-- Up to the first wrong entry the bytes select the entries that they select without a table. -/
theorem lookups_flawless_iff (table : BitVec 8 → BitVec w) (poly register : BitVec w) (bytes : List (BitVec 8)) :
    (∀ index ∈ lookups (tableStep table) register bytes, flaw table poly index = 0) ↔
      ∀ index ∈ lookups (byteStep poly) register bytes, flaw table poly index = 0 := by
  induction bytes generalizing register with
  | nil => exact Iff.rfl
  | cons byte bytes ih =>
    simp only [lookups, List.forall_mem_cons]
    by_cases right : flaw table poly (tableIndex register byte) = 0
    · have same : tableStep table register byte = byteStep poly register byte := by
        rw [tableStep_flaw table poly, right]
        exact BitVec.xor_zero
      rw [same, ih]
    · exact iff_of_false (fun all => right all.1) (fun all => right all.1)

theorem carried_append (table : BitVec 8 → BitVec w) (poly error : BitVec w) (first second : List (BitVec 8)) :
    carried table poly error (first ++ second) = carried table poly (carried table poly error first) second :=
  List.foldl_append

/-- Through entries without an error, an error is only divided on. -/
theorem carried_flawless {table : BitVec 8 → BitVec w} {poly : BitVec w} {indices : List (BitVec 8)}
    (right : ∀ index ∈ indices, flaw table poly index = 0) (error : BitVec w) :
    carried table poly error indices = ((bitStep poly)^[8])^[indices.length] error := by
  induction indices generalizing error with
  | nil => rfl
  | cons index indices ih =>
    have here := right index List.mem_cons_self
    have later := ih (fun other member => right other (List.mem_cons_of_mem index member)) ((bitStep poly)^[8] error)
    rw [List.length_cons, Function.iterate_succ_apply, ← later]
    show carried table poly ((bitStep poly)^[8] error ^^^ flaw table poly index) indices = _
    simp [here]

/-- One error alone stays. -/
theorem carried_one {table : BitVec 8 → BitVec w} {poly : BitVec w} (top : poly.msb = true)
    {first second : List (BitVec 8)} {index : BitVec 8} (flawed : flaw table poly index ≠ 0)
    (before : ∀ other ∈ first, flaw table poly other = 0) (after : ∀ other ∈ second, flaw table poly other = 0) :
    carried table poly 0 (first ++ index :: second) ≠ 0 := by
  have eight := (bitStep_linear poly).iterate 8
  have carry : ((bitStep poly)^[8])^[first.length] 0 = 0 := (eight.iterate first.length).zero
  have injective := ((bitStep_injective top).iterate 8).iterate second.length
  rw [carried_append, carried_flawless before, carry]
  show carried table poly ((bitStep poly)^[8] 0 ^^^ flaw table poly index) second ≠ 0
  rw [carried_flawless after, eight.zero, show (0 : BitVec w) ^^^ flaw table poly index = _ from BitVec.zero_xor]
  intro vanished
  exact flawed (injective (vanished.trans (eight.iterate second.length).zero.symm))

end Foundation
