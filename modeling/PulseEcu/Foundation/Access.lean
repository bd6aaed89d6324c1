import PulseEcu.Foundation.Region

namespace Foundation

/-- A computation that knows a region only through the cells that it reads. -/
inductive Access (α β : Type) where
  | done (result : β)
  | read (offset : Nat) (next : α → Access α β)

namespace Access

variable {α β γ : Type}

def bind : Access α β → (β → Access α γ) → Access α γ
  | done result, next => next result
  | read offset rest, next => read offset fun value => (rest value).bind next

instance : Monad (Access α) where
  pure := done
  bind := bind

def cell (offset : Nat) : Access α α := read offset done

def load (offset : Nat) : Nat → Access α (List α)
  | 0 => done []
  | count + 1 => read offset fun value => (load (offset + 1) count).bind fun values => done (value :: values)

def run (cells : Region α) : Access α β → β
  | done result => result
  | read offset next => (next (cells offset)).run cells

def touched (cells : Region α) : Access α β → List Nat
  | done _ => []
  | read offset next => offset :: (next (cells offset)).touched cells

@[simp] theorem run_pure (cells : Region α) (result : β) : (pure result : Access α β).run cells = result := rfl

@[simp] theorem touched_pure (cells : Region α) (result : β) : (pure result : Access α β).touched cells = [] := rfl

@[simp] theorem run_bind (cells : Region α) (access : Access α β) (next : β → Access α γ) :
    (access >>= next).run cells = (next (access.run cells)).run cells := by
  show (access.bind next).run cells = _
  induction access with
  | done result => rfl
  | read offset rest ih => exact ih (cells offset)

@[simp] theorem touched_bind (cells : Region α) (access : Access α β) (next : β → Access α γ) :
    (access >>= next).touched cells = access.touched cells ++ (next (access.run cells)).touched cells := by
  show (access.bind next).touched cells = _
  induction access with
  | done result => rfl
  | read offset rest ih => exact congrArg (offset :: ·) (ih (cells offset))

@[simp] theorem run_cell (cells : Region α) (offset : Nat) : (cell offset).run cells = cells offset := rfl

@[simp] theorem touched_cell (cells : Region α) (offset : Nat) : (cell offset).touched cells = [offset] := rfl

@[simp] theorem run_load (cells : Region α) (offset count : Nat) : (load offset count).run cells = cells.load offset count := by
  induction count generalizing offset with
  | zero => rfl
  | succ count ih =>
    have first : (load offset (count + 1)).run cells =
        ((load (offset + 1) count >>= fun values => pure (cells offset :: values)) : Access α (List α)).run cells := rfl
    rw [first, run_bind, ih, run_pure, Nat.add_comm count 1, Region.load_add]
    rfl

@[simp] theorem touched_load (cells : Region α) (offset count : Nat) :
    (load offset count).touched cells = List.range' offset count := by
  induction count generalizing offset with
  | zero => rfl
  | succ count ih =>
    have first : (load offset (count + 1)).touched cells = offset ::
        ((load (offset + 1) count >>= fun values => pure (cells offset :: values)) : Access α (List α)).touched cells := rfl
    rw [first, touched_bind, ih, touched_pure, List.append_nil, List.range'_succ]

def Within (cells : Region α) (limit : Nat) (access : Access α β) : Prop :=
  ∀ offset ∈ access.touched cells, offset < limit

section

variable (cells : Region α) (limit : Nat)

@[simp] theorem within_pure (result : β) : (pure result : Access α β).Within cells limit := by
  intro offset member
  exact absurd member List.not_mem_nil

@[simp] theorem within_bind (access : Access α β) (next : β → Access α γ) : (access >>= next).Within cells limit ↔
    access.Within cells limit ∧ (next (access.run cells)).Within cells limit := by
  unfold Within
  rw [touched_bind]
  exact List.forall_mem_append

@[simp] theorem within_ite (condition : Prop) [Decidable condition] (left right : Access α β) :
    (if condition then left else right).Within cells limit ↔
      (condition → left.Within cells limit) ∧ (¬condition → right.Within cells limit) := by
  by_cases holds : condition
  · simp [holds]
  · simp [holds]

@[simp] theorem within_cell (offset : Nat) : (cell offset).Within cells limit ↔ offset < limit := by
  unfold Within
  rw [touched_cell]
  exact List.forall_mem_singleton

@[simp] theorem within_load (offset count : Nat) :
    (load offset count).Within cells limit ↔ count = 0 ∨ offset + count ≤ limit := by
  unfold Within
  simp only [touched_load, List.mem_range'_1]
  by_cases empty : count = 0
  · constructor
    · intro _
      exact Or.inl empty
    · intro _ other inside
      omega
  · constructor
    · intro below
      have last := below (offset + count - 1) (by omega)
      omega
    · intro enough other inside
      omega

end

/-- A computation gives the same on any region that agrees on the cells that it reads. -/
theorem run_congr {left right : Region α} (access : Access α β)
    (same : ∀ offset ∈ access.touched left, right offset = left offset) : access.run right = access.run left := by
  induction access with
  | done result => rfl
  | read offset next ih =>
    have here : right offset = left offset := same offset List.mem_cons_self
    have later := ih (left offset) fun other member => same other (List.mem_cons_of_mem offset member)
    show (next (right offset)).run right = (next (left offset)).run left
    rw [here, later]

end Access

end Foundation
