namespace Foundation

variable {α β : Type} {p q : α → Bool} {f : α → α}

/-- What a scan that stops at the first match finds, after a write through the pointer that such
    a scan returned. -/
theorem find?_modify_same (keeps : ∀ a, p (f a) = p a) (l : List α) :
    (l.modify (l.findIdx p) f).find? p = (l.find? p).map f := by
  induction l with
  | nil => simp
  | cons a l ih =>
    cases fits : p a with
    | true => simp [List.findIdx_cons, fits, keeps]
    | false => simp [List.findIdx_cons, fits, ih]

theorem find?_modify_other (keeps : ∀ a, q (f a) = q a) (apart : ∀ a, p a = true → q a = false) (l : List α) :
    (l.modify (l.findIdx p) f).find? q = l.find? q := by
  induction l with
  | nil => simp
  | cons a l ih =>
    cases fits : p a with
    | true => simp [List.findIdx_cons, fits, keeps, apart]
    | false => simp [List.findIdx_cons, fits, ih, List.find?_cons]

theorem map_modify {k : α → β} (keeps : ∀ a, k (f a) = k a) (l : List α) (i : Nat) :
    (l.modify i f).map k = l.map k := by
  apply List.ext_getElem?
  intro j
  rw [List.getElem?_map, List.getElem?_modify, List.getElem?_map]
  cases l[j]? with
  | none => rfl
  | some a =>
    by_cases here : i = j
    · simp [here, keeps]
    · simp [here]

theorem getElem?_modify_apart {l : List α} {i : Nat} {a : α} (stored : l[i]? = some a) (other : p a = false) :
    (l.modify (l.findIdx p) f)[i]? = some a := by
  have elsewhere : l.findIdx p ≠ i := by
    intro here
    rw [← here] at stored
    have fits := List.findIdx_of_getElem?_eq_some stored
    exact Bool.noConfusion (other.symm.trans fits)
  rw [List.getElem?_modify_ne f l elsewhere, stored]

/-- The first `k` matches reach an element when fewer than `k` matches stand before it. -/
theorem mem_take_filter {before after : List α} {a : α} (fits : p a = true) (new : a ∉ before) (k : Nat) :
    a ∈ ((before ++ a :: after).filter p).take k ↔ before.countP p < k := by
  rw [List.filter_append, List.filter_cons_of_pos fits, List.countP_eq_length_filter]
  by_cases reached : (before.filter p).length < k
  · obtain ⟨rest, rfl⟩ := Nat.exists_eq_add_of_lt reached
    rw [Nat.add_assoc, List.take_length_add_append]
    exact iff_of_true (List.mem_append_right _ List.mem_cons_self) (by omega)
  · rw [List.take_append_of_le_length (Nat.le_of_not_lt reached)]
    exact iff_of_false (fun member => new (List.mem_filter.mp (List.mem_of_mem_take member)).1) reached

/-- A scan for the key of an element that has it alone finds the element, if it is there. -/
theorem find?_key [DecidableEq β] {key : α → β} {l : List α} {a : α} (alone : ∀ b ∈ l, key b = key a → b = a) :
    (a ∈ l → l.find? (fun b => key b = key a) = some a) ∧ (a ∉ l → l.find? (fun b => key b = key a) = none) := by
  cases found : l.find? (fun b => key b = key a) with
  | none =>
    have never := List.find?_eq_none.mp found
    exact ⟨fun member => absurd (decide_eq_true rfl) (never a member), fun _ => rfl⟩
  | some b =>
    have same := alone b (List.mem_of_find?_eq_some found) (by simpa using List.find?_some found)
    rw [same] at found ⊢
    exact ⟨fun _ => rfl, fun absent => absurd (List.mem_of_find?_eq_some found) absent⟩

end Foundation
