namespace Foundation

/-- The cells behind a base pointer, addressed by offset. An access outside the
    object the pointer was taken from is a cell of its own, so it stays visible. -/
def Region (α : Type) := Nat → α

namespace Region

variable {α : Type}

def fill (value : α) : Region α := fun _ => value

def store (cells : Region α) (offset : Nat) (source : List α) : Region α :=
  fun i => if offset ≤ i then (source[i - offset]?).getD (cells i) else cells i

def load (cells : Region α) (offset count : Nat) : List α :=
  (List.range count).map fun i => cells (offset + i)

def advance (cells : Region α) (offset : Nat) : Region α := fun i => cells (offset + i)

def graft (cells : Region α) (offset : Nat) (rest : Region α) : Region α :=
  fun i => if offset ≤ i then rest (i - offset) else cells i

@[simp] theorem load_length (cells : Region α) (offset count : Nat) :
    (cells.load offset count).length = count := by simp [load]

theorem load_getElem (cells : Region α) (offset count i : Nat) (bound : i < (cells.load offset count).length) :
    (cells.load offset count)[i] = cells (offset + i) := by simp [load]

theorem load_congr {left right : Region α} {leftOffset rightOffset count : Nat}
    (same : ∀ i, i < count → left (leftOffset + i) = right (rightOffset + i)) :
    left.load leftOffset count = right.load rightOffset count := by
  apply List.ext_getElem (by simp)
  intro i leftBound rightBound
  rw [load_getElem, load_getElem]
  exact same i (by simpa using leftBound)

theorem load_add (cells : Region α) (offset first second : Nat) :
    cells.load offset (first + second) = cells.load offset first ++ cells.load (offset + first) second := by
  apply List.ext_getElem (by simp)
  intro i leftBound rightBound
  rw [load_getElem, List.getElem_append]
  split
  · rw [load_getElem]
  · rename_i beyond
    rw [load_getElem]
    congr 1
    simp only [load_length] at beyond ⊢
    omega

theorem load_take (cells : Region α) (offset count n : Nat) :
    (cells.load offset count).take n = cells.load offset (min n count) := by
  apply List.ext_getElem (by simp)
  intro i leftBound rightBound
  rw [List.getElem_take, load_getElem, load_getElem]

theorem load_drop (cells : Region α) (offset count n : Nat) :
    (cells.load offset count).drop n = cells.load (offset + n) (count - n) := by
  apply List.ext_getElem (by simp)
  intro i leftBound rightBound
  rw [List.getElem_drop, load_getElem, load_getElem, Nat.add_assoc]

theorem store_before (cells : Region α) (offset i : Nat) (source : List α) (before : i < offset) :
    cells.store offset source i = cells i := by
  simp [store, Nat.not_le.mpr before]

theorem store_inside (cells : Region α) (offset i : Nat) (source : List α) (bound : i < source.length) :
    cells.store offset source (offset + i) = source[i] := by
  simp [store, List.getElem?_eq_getElem bound]

@[simp] theorem load_store (cells : Region α) (offset : Nat) (source : List α) :
    (cells.store offset source).load offset source.length = source := by
  apply List.ext_getElem (by simp)
  intro i leftBound rightBound
  rw [load_getElem, store_inside _ _ _ _ rightBound]

theorem load_store_drop (cells : Region α) (source : List α) (n : Nat) :
    (cells.store 0 source).load n (source.length - n) = source.drop n := by
  have whole := congrArg (List.drop n) (load_store cells 0 source)
  rwa [load_drop, Nat.zero_add] at whole

theorem load_store_before (cells : Region α) (offset start count : Nat) (source : List α)
    (before : start + count ≤ offset) :
    (cells.store offset source).load start count = cells.load start count := by
  apply load_congr
  intro i bound
  exact store_before _ _ _ _ (by omega)

theorem load_store_append (cells : Region α) (count : Nat) (source : List α) :
    (cells.store count source).load 0 (count + source.length) = cells.load 0 count ++ source := by
  rw [load_add, load_store_before _ _ _ _ _ (by omega), Nat.zero_add, load_store]

theorem store_beyond (cells : Region α) (offset i : Nat) (source : List α) (beyond : offset + source.length ≤ i) :
    cells.store offset source i = cells i := by
  have outside : source.length ≤ i - offset := by omega
  simp [store, List.getElem?_eq_none outside]

theorem store_append (cells : Region α) (offset : Nat) (first second : List α) :
    cells.store offset (first ++ second) = (cells.store offset first).store (offset + first.length) second := by
  funext i
  rcases Nat.lt_or_ge i (offset + first.length) with before | behind
  · rw [store_before _ _ _ _ before]
    rcases Nat.lt_or_ge i offset with outside | inside
    · rw [store_before _ _ _ _ outside, store_before _ _ _ _ outside]
    · obtain ⟨j, rfl⟩ := Nat.exists_eq_add_of_le inside
      have bound : j < first.length := by omega
      have more : j < (first ++ second).length := by rw [List.length_append]; omega
      rw [store_inside _ _ _ _ bound, store_inside _ _ _ _ more, List.getElem_append_left bound]
  · obtain ⟨j, rfl⟩ := Nat.exists_eq_add_of_le behind
    rcases Nat.lt_or_ge j second.length with bound | beyond
    · have more : first.length + j < (first ++ second).length := by rw [List.length_append]; omega
      rw [store_inside _ _ _ _ bound, Nat.add_assoc, store_inside _ _ _ _ more,
        List.getElem_append_right (Nat.le_add_right _ _)]
      simp only [Nat.add_sub_cancel_left]
    · rw [store_beyond _ _ _ _ (by rw [List.length_append]; omega), store_beyond _ _ _ _ (by omega),
        store_beyond _ _ _ _ (by omega)]

theorem advance_load (cells : Region α) (offset start count : Nat) :
    (cells.advance offset).load start count = cells.load (offset + start) count := by
  apply load_congr
  intro i _
  rw [advance, Nat.add_assoc]

theorem load_middle {cells : Region α} {before middle after : List α}
    (whole : cells.load 0 (before ++ middle ++ after).length = before ++ middle ++ after) :
    cells.load before.length middle.length = middle := by
  rw [List.length_append, List.length_append, load_add, load_add, Nat.zero_add, Nat.zero_add] at whole
  obtain ⟨front, _⟩ := List.append_inj whole (by simp)
  exact (List.append_inj front (by simp)).2

theorem store_nil (cells : Region α) (offset : Nat) : cells.store offset [] = cells := by
  funext i
  rcases Nat.lt_or_ge i offset with before | after
  · exact store_before _ _ _ _ before
  · exact store_beyond _ _ _ _ (by rw [List.length_nil]; omega)

def KeptFrom (n : Nat) (before after : Region α) : Prop := ∀ i, n ≤ i → after i = before i

variable {n : Nat} {before between after : Region α}

theorem KeptFrom.refl (n : Nat) (cells : Region α) : KeptFrom n cells cells := fun _ _ => rfl

theorem KeptFrom.trans (first : KeptFrom n before between) (second : KeptFrom n between after) :
    KeptFrom n before after := fun i beyond => (second i beyond).trans (first i beyond)

theorem KeptFrom.store (kept : KeptFrom n before after) {offset : Nat} {source : List α}
    (inside : offset + source.length ≤ n) : KeptFrom n before (after.store offset source) := by
  intro i beyond
  rw [store_beyond after offset i source (Nat.le_trans inside beyond)]
  exact kept i beyond

theorem KeptFrom.graft (kept : KeptFrom n before after) {offset room : Nat} {rest : Region α}
    (inside : offset + room ≤ n) (callee : KeptFrom room (after.advance offset) rest) :
    KeptFrom n before (after.graft offset rest) := by
  intro i beyond
  have place : offset + (i - offset) = i := by omega
  have cell := callee (i - offset) (by omega)
  rw [advance, place] at cell
  rw [Region.graft, if_pos (by omega), cell]
  exact kept i beyond

theorem graft_before (cells rest : Region α) (offset i : Nat) (before : i < offset) :
    cells.graft offset rest i = cells i := by
  simp [graft, Nat.not_le.mpr before]

theorem load_graft_append (cells rest : Region α) (count more : Nat) :
    (cells.graft count rest).load 0 (count + more) = cells.load 0 count ++ rest.load 0 more := by
  rw [load_add]
  congr 1
  · apply load_congr
    intro i bound
    exact graft_before _ _ _ _ (by omega)
  · apply load_congr
    intro i _
    rw [graft, if_pos (by omega)]
    congr 1
    omega

end Region

end Foundation
