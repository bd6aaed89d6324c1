import PulseEcu.Foundation.Region

namespace Foundation

namespace Region

variable {α : Type}

def Agree (n : Nat) (one other : Region α) : Prop := ∀ i, i < n → one i = other i

variable {n k : Nat} {one other rest more : Region α}

theorem Agree.none (one other : Region α) : Agree 0 one other := fun _ bound => absurd bound (Nat.not_lt_zero _)

theorem Agree.mono (agree : Agree n one other) (fewer : k ≤ n) : Agree k one other :=
  fun i bound => agree i (Nat.lt_of_lt_of_le bound fewer)

theorem Agree.load (agree : Agree n one other) {offset count : Nat} (inside : offset + count ≤ n) :
    one.load offset count = other.load offset count := by
  apply load_congr
  intro i bound
  exact agree (offset + i) (by omega)

theorem Agree.of_load (same : one.load 0 n = other.load 0 n) : Agree n one other := by
  intro i bound
  have left : i < (one.load 0 n).length := by rwa [load_length]
  have right : i < (other.load 0 n).length := by rwa [load_length]
  have cell : (one.load 0 n)[i] = (other.load 0 n)[i] := by simp only [same]
  rwa [load_getElem, load_getElem, Nat.zero_add] at cell

theorem Agree.advance (agree : Agree n one other) (offset : Nat) :
    Agree (n - offset) (one.advance offset) (other.advance offset) := by
  intro i bound
  exact agree (offset + i) (by omega)

/-- What is written behind the cells that agree makes more cells agree. -/
theorem Agree.store (agree : Agree n one other) (bytes : List α) :
    Agree (n + bytes.length) (one.store n bytes) (other.store n bytes) := by
  intro i bound
  rcases Nat.lt_or_ge i n with before | after
  · rw [store_before _ _ _ _ before, store_before _ _ _ _ before]
    exact agree i before
  · obtain ⟨j, rfl⟩ := Nat.exists_eq_add_of_le after
    have inside : j < bytes.length := by omega
    rw [store_inside _ _ _ _ inside, store_inside _ _ _ _ inside]

theorem Agree.written (one other : Region α) (bytes : List α) :
    Agree bytes.length (one.store 0 bytes) (other.store 0 bytes) := by
  have written := (Agree.none one other).store bytes
  rwa [Nat.zero_add] at written

theorem Agree.graft (agree : Agree n one other) (behind : Agree k rest more) :
    Agree (n + k) (one.graft n rest) (other.graft n more) := by
  intro i bound
  rcases Nat.lt_or_ge i n with before | after
  · rw [graft_before _ _ _ _ before, graft_before _ _ _ _ before]
    exact agree i before
  · simp only [Region.graft, if_pos after]
    exact behind (i - n) (by omega)

end Region

end Foundation
