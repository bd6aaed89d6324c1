import PulseEcu.Foundation.Region
import PulseEcu.Foundation.Run

namespace Foundation

structure RingBuffer (α : Type) where
  buf : Region α
  head : Nat
  tail : Nat

namespace RingBuffer

variable {α μ : Type} {size : Nat}

/-- How far the reader is in taking an item: what its local variables hold. -/
inductive Progress (α : Type) where
  | idle
  | loaded (tail : Nat)
  | compared (tail : Nat)
  | copied (tail : Nat) (item : α)
  | advanced (item : α)

structure Shared (α : Type) extends RingBuffer α where
  progress : Progress α

inductive Event (μ : Type) where
  | read
  | interrupt (message : Option μ)

inductive Shown (α : Type) where
  | nothing
  | stored (item : α)
  | dropped (item : α)
  | returned (item : α)
  | empty

def write (size : Nat) (s : Shared α) (item : α) : Shared α × Shown α :=
  let next := (s.head + 1) % size
  if next ≠ s.tail then ({ s with buf := s.buf.store s.head [item], head := next }, .stored item)
  else (s, .dropped item)

def read (size : Nat) (s : Shared α) : Shared α × Shown α :=
  match s.progress with
  | .idle => ({ s with progress := .loaded s.tail }, .nothing)
  | .loaded tail =>
    if s.head = tail then ({ s with progress := .idle }, .empty) else ({ s with progress := .compared tail }, .nothing)
  | .compared tail => ({ s with progress := .copied tail (s.buf tail) }, .nothing)
  | .copied tail item => ({ s with tail := (tail + 1) % size, progress := .advanced item }, .nothing)
  | .advanced item => ({ s with progress := .idle }, .returned item)

def machine (size : Nat) (make : μ → α) : Machine (Shared α) (Event μ) (Shown α) where
  step s
    | .read => read size s
    | .interrupt none => (s, .nothing)
    | .interrupt (some message) => write size s (make message)

abbrev Entry (μ α : Type) := Machine.Entry (Shared α) (Event μ) (Shown α)

def Shown.inward : Shown α → List α
  | .stored item => [item]
  | _ => []

def Shown.outward : Shown α → List α
  | .returned item => [item]
  | _ => []

def stored (past : List (Entry μ α)) : List α := past.flatMap fun entry => entry.output.inward

def returned (past : List (Entry μ α)) : List α := past.flatMap fun entry => entry.output.outward

def held (s : Shared α) : List α :=
  match s.progress with
  | .advanced item => [item]
  | _ => []

def waiting (past : List (Entry μ α)) (s : Shared α) : List α :=
  (stored past).drop ((returned past).length + (held s).length)

/-- What the ring promises of a run: items come out in the order in which they went in, none is
    dropped while there is room, none waits when the reader is told so, and what the reader copies
    is the whole item that waited longest. -/
structure Fifo (size : Nat) (past : List (Entry μ α)) (s : Shared α) : Prop where
  inOrder : returned past <+: stored past
  dropped : ∀ earlier entry later, past = earlier ++ entry :: later → ∀ item, entry.output = .dropped item →
    (waiting earlier entry.before).length = size - 1
  refused : ∀ earlier entry later, past = earlier ++ entry :: later → entry.output = .empty →
    waiting earlier entry.before = []
  untorn : ∀ tail, s.progress = .compared tail → (waiting past s).head? = some (s.buf tail)
  kept : ∀ tail item, s.progress = .copied tail item → (waiting past s).head? = some item ∧ s.buf tail = item

structure Holds (size : Nat) (ring : RingBuffer α) (contents : List α) : Prop where
  tail : ring.tail < size
  room : contents.length < size
  head : ring.head = (ring.tail + contents.length) % size
  cells : ∀ (i : Nat) (bound : i < contents.length), ring.buf ((ring.tail + i) % size) = contents[i]

theorem wrap {a b : Nat} (inside : a < size) (once : b ≤ size) :
    (a + b) % size = if a + b < size then a + b else a + b - size := by
  split
  · rename_i short
    exact Nat.mod_eq_of_lt short
  · rename_i long
    rw [Nat.mod_eq_sub_mod (Nat.le_of_not_lt long)]
    exact Nat.mod_eq_of_lt (by omega)

section

variable {ring : RingBuffer α} {contents : List α} {item : α}

theorem Holds.next (holds : Holds size ring contents) :
    (ring.head + 1) % size = (ring.tail + (contents.length + 1)) % size := by
  rw [holds.head, Nat.mod_add_mod, Nat.add_assoc]

theorem Holds.full_iff (holds : Holds size ring contents) :
    (ring.head + 1) % size = ring.tail ↔ contents.length = size - 1 := by
  have inside := holds.tail
  have room := holds.room
  rw [holds.next, wrap inside room]
  split <;> omega

theorem Holds.empty_iff (holds : Holds size ring contents) : ring.head = ring.tail ↔ contents = [] := by
  have inside := holds.tail
  have room := holds.room
  rw [holds.head, wrap inside (Nat.le_of_lt room), ← List.length_eq_zero_iff]
  split <;> omega

theorem Holds.push (holds : Holds size ring contents) (space : (ring.head + 1) % size ≠ ring.tail) :
    Holds size { ring with buf := ring.buf.store ring.head [item], head := (ring.head + 1) % size }
      (contents ++ [item]) := by
  have inside := holds.tail
  have room := holds.room
  have more := mt holds.full_iff.mpr space
  refine ⟨inside, ?_, ?_, fun i bound => ?_⟩
  · rw [List.length_append, List.length_singleton]
    omega
  · rw [List.length_append, List.length_singleton]
    exact holds.next
  · have bound : i < contents.length + 1 := by simpa using bound
    show ring.buf.store ring.head [item] ((ring.tail + i) % size) = (contents ++ [item])[i]
    by_cases last : i = contents.length
    · subst last
      rw [← holds.head, List.getElem_append_right (Nat.le_refl _)]
      have here := Region.store_inside ring.buf ring.head 0 [item] Nat.one_pos
      simpa using here
    · have before : i < contents.length := by omega
      have other : (ring.tail + i) % size ≠ ring.head := by
        rw [holds.head, wrap inside (by omega), wrap inside (by omega)]
        split <;> split <;> omega
      have elsewhere :
          ring.buf.store ring.head [item] ((ring.tail + i) % size) = ring.buf ((ring.tail + i) % size) := by
        rcases Nat.lt_or_gt_of_ne other with below | above
        · exact Region.store_before _ _ _ _ below
        · exact Region.store_beyond _ _ _ _ above
      rw [elsewhere, holds.cells i before, List.getElem_append_left before]

theorem Holds.first (holds : Holds size ring (item :: contents)) : ring.buf ring.tail = item := by
  have cell := holds.cells 0 (Nat.succ_pos _)
  rwa [Nat.add_zero, Nat.mod_eq_of_lt holds.tail] at cell

theorem Holds.pop (holds : Holds size ring (item :: contents)) :
    Holds size { ring with tail := (ring.tail + 1) % size } contents := by
  have inside := holds.tail
  have room : contents.length + 1 < size := holds.room
  refine ⟨Nat.mod_lt _ (by omega), by omega, ?_, fun i bound => ?_⟩
  · have head : ring.head = (ring.tail + (contents.length + 1)) % size := holds.head
    show ring.head = ((ring.tail + 1) % size + contents.length) % size
    rw [head, Nat.mod_add_mod, Nat.add_assoc, Nat.add_comm 1]
  · have cell := holds.cells (i + 1) (Nat.succ_lt_succ bound)
    show ring.buf (((ring.tail + 1) % size + i) % size) = contents[i]
    rw [Nat.mod_add_mod, Nat.add_assoc, Nat.add_comm 1]
    exact cell

end

def Knows (s : Shared α) (contents : List α) : Prop :=
  match s.progress with
  | .idle => True
  | .loaded tail => tail = s.tail
  | .compared tail => tail = s.tail ∧ contents ≠ []
  | .copied tail item => tail = s.tail ∧ contents.head? = some item
  | .advanced _ => True

structure Follows (size : Nat) (past : List (Entry μ α)) (s : Shared α) (contents : List α) : Prop where
  holds : Holds size s.toRingBuffer contents
  account : stored past = returned past ++ held s ++ contents
  knows : Knows s contents

section

variable {past : List (Entry μ α)} {s : Shared α} {contents : List α} {make : μ → α}

theorem Knows.grow (knows : Knows s contents) (buf : Region α) (head : Nat) (item : α) :
    Knows { s with buf := buf, head := head } (contents ++ [item]) := by
  unfold Knows at knows ⊢
  dsimp only
  cases known : s.progress with
  | idle => trivial
  | loaded tail => simpa only [known] using knows
  | compared tail =>
    simp only [known] at knows
    exact ⟨knows.1, List.append_ne_nil_of_left_ne_nil knows.2 [item]⟩
  | copied tail first =>
    simp only [known] at knows
    exact ⟨knows.1, by rw [List.head?_append, knows.2, Option.some_or]⟩
  | advanced _ => trivial

theorem Follows.loaded (follows : Follows size past s contents) {tail : Nat} (known : s.progress = .loaded tail) :
    tail = s.tail := by
  have knows := follows.knows
  rwa [Knows, known] at knows

theorem Follows.compared (follows : Follows size past s contents) {tail : Nat} (known : s.progress = .compared tail) :
    tail = s.tail ∧ ∃ first rest, contents = first :: rest := by
  have knows := follows.knows
  rw [Knows, known] at knows
  exact ⟨knows.1, List.exists_cons_of_ne_nil knows.2⟩

theorem Follows.copied (follows : Follows size past s contents) {tail : Nat} {item : α}
    (known : s.progress = .copied tail item) : tail = s.tail ∧ ∃ rest, contents = item :: rest := by
  have knows := follows.knows
  rw [Knows, known] at knows
  exact ⟨knows.1, List.head?_eq_some_iff.mp knows.2⟩

theorem Follows.waiting (follows : Follows size past s contents) : waiting past s = contents := by
  rw [RingBuffer.waiting, follows.account, ← List.length_append, List.drop_left]

/-- A step accounts for every item: what the reader held and the ring contained, with what went
    in, is what was returned, with what is held and contained now. -/
theorem Follows.step (follows : Follows size past s contents) (event : Event μ) {after : Shared α} {shown : Shown α}
    {rest : List α} (stepped : (machine size make).step s event = (after, shown))
    (holds : Holds size after.toRingBuffer rest)
    (moved : held s ++ contents ++ shown.inward = shown.outward ++ held after ++ rest) (knows : Knows after rest) :
    Follows size (past ++ [(machine size make).entry s event]) ((machine size make).next s event) rest := by
  have now : (machine size make).next s event = after := congrArg Prod.fst stepped
  have output : (machine size make).output s event = shown := congrArg Prod.snd stepped
  have incoming : stored (past ++ [(machine size make).entry s event]) = stored past ++ shown.inward := by
    simp [stored, Machine.entry, output]
  have outgoing : returned (past ++ [(machine size make).entry s event]) = returned past ++ shown.outward := by
    simp [returned, Machine.entry, output]
  rw [now]
  refine ⟨holds, ?_, knows⟩
  rw [incoming, outgoing, follows.account]
  simp only [List.append_assoc] at moved ⊢
  rw [moved]

theorem Follows.read (follows : Follows size past s contents) : ∃ contents,
    Follows size (past ++ [(machine size make).entry s .read]) ((machine size make).next s .read) contents := by
  have holds := follows.holds
  cases known : s.progress with
  | idle =>
    have stepped : RingBuffer.read size s = ({ s with progress := .loaded s.tail }, .nothing) := by
      rw [RingBuffer.read, known]
    refine ⟨contents, follows.step .read stepped holds ?_ rfl⟩
    simp [held, known, Shown.inward, Shown.outward]
  | loaded tail =>
    by_cases equal : s.head = tail
    · have stepped : RingBuffer.read size s = ({ s with progress := .idle }, .empty) := by
        simp only [RingBuffer.read, known, if_pos equal]
      refine ⟨contents, follows.step .read stepped holds ?_ trivial⟩
      simp [held, known, Shown.inward, Shown.outward]
    · have stepped : RingBuffer.read size s = ({ s with progress := .compared tail }, .nothing) := by
        simp only [RingBuffer.read, known, if_neg equal]
      have same := follows.loaded known
      have filled : contents ≠ [] := fun none => equal ((holds.empty_iff.mpr none).trans same.symm)
      refine ⟨contents, follows.step .read stepped holds ?_ ⟨same, filled⟩⟩
      simp [held, known, Shown.inward, Shown.outward]
  | compared tail =>
    have stepped : RingBuffer.read size s = ({ s with progress := .copied tail (s.buf tail) }, .nothing) := by
      rw [RingBuffer.read, known]
    obtain ⟨same, first, rest, rfl⟩ := follows.compared known
    have copy : s.buf tail = first := by rw [same, holds.first]
    refine ⟨first :: rest, follows.step .read stepped holds ?_ ⟨same, by rw [copy]; rfl⟩⟩
    simp [held, known, Shown.inward, Shown.outward]
  | copied tail item =>
    have stepped : RingBuffer.read size s =
        ({ s with tail := (tail + 1) % size, progress := .advanced item }, .nothing) := by rw [RingBuffer.read, known]
    obtain ⟨same, rest, rfl⟩ := follows.copied known
    refine ⟨rest, follows.step .read stepped ?_ ?_ trivial⟩
    · rw [same]
      exact holds.pop
    · simp [held, known, Shown.inward, Shown.outward]
  | advanced item =>
    have stepped : RingBuffer.read size s = ({ s with progress := .idle }, .returned item) := by
      rw [RingBuffer.read, known]
    refine ⟨contents, follows.step .read stepped holds ?_ trivial⟩
    simp [held, known, Shown.inward, Shown.outward]

theorem Follows.write (follows : Follows size past s contents) (message : μ) :
    ∃ contents, Follows size (past ++ [(machine size make).entry s (.interrupt (some message))])
      ((machine size make).next s (.interrupt (some message))) contents := by
  have holds := follows.holds
  by_cases space : (s.head + 1) % size ≠ s.tail
  · have stepped : RingBuffer.write size s (make message) =
        ({ s with buf := s.buf.store s.head [make message], head := (s.head + 1) % size }, .stored (make message)) :=
      if_pos space
    refine ⟨contents ++ [make message], follows.step _ stepped (holds.push space) ?_ (follows.knows.grow _ _ _)⟩
    simp [held, Shown.inward, Shown.outward]
  · have stepped : RingBuffer.write size s (make message) = (s, .dropped (make message)) := if_neg space
    refine ⟨contents, follows.step _ stepped holds ?_ follows.knows⟩
    simp [Shown.inward, Shown.outward]

theorem Follows.next (follows : Follows size past s contents) (event : Event μ) : ∃ contents,
    Follows size (past ++ [(machine size make).entry s event]) ((machine size make).next s event) contents := by
  cases event with
  | read => exact follows.read
  | interrupt message =>
    cases message with
    | none =>
      refine ⟨contents, follows.step (.interrupt none) rfl follows.holds ?_ follows.knows⟩
      simp [Shown.inward, Shown.outward]
    | some message => exact follows.write message

theorem Follows.drop (follows : Follows size past s contents) (event : Event μ) (item : α)
    (dropped : (machine size make).output s event = .dropped item) :
    (RingBuffer.waiting past s).length = size - 1 := by
  rw [follows.waiting]
  cases event with
  | read =>
    have dropped : (RingBuffer.read size s).2 = .dropped item := dropped
    unfold RingBuffer.read at dropped
    split at dropped
    · cases dropped
    · split at dropped <;> cases dropped
    · cases dropped
    · cases dropped
    · cases dropped
  | interrupt message =>
    cases message with
    | none => cases dropped
    | some message =>
      have dropped : (RingBuffer.write size s (make message)).2 = .dropped item := dropped
      by_cases space : (s.head + 1) % size ≠ s.tail
      · rw [RingBuffer.write, if_pos space] at dropped
        cases dropped
      · exact follows.holds.full_iff.mp (Decidable.not_not.mp space)

theorem Follows.refuse (follows : Follows size past s contents) (event : Event μ)
    (refused : (machine size make).output s event = .empty) : RingBuffer.waiting past s = [] := by
  rw [follows.waiting]
  cases event with
  | read =>
    have refused : (RingBuffer.read size s).2 = .empty := refused
    cases known : s.progress with
    | loaded tail =>
      by_cases equal : s.head = tail
      · exact follows.holds.empty_iff.mp (equal.trans (follows.loaded known))
      · simp only [RingBuffer.read, known, if_neg equal] at refused
        cases refused
    | _ =>
      rw [RingBuffer.read, known] at refused
      cases refused
  | interrupt message =>
    cases message with
    | none => cases refused
    | some message =>
      have refused : (RingBuffer.write size s (make message)).2 = .empty := refused
      unfold RingBuffer.write at refused
      dsimp only at refused
      split at refused <;> cases refused

structure Sound (size : Nat) (past : List (Entry μ α)) (s : Shared α) : Prop where
  follows : ∃ contents, Follows size past s contents
  dropped : ∀ earlier entry later, past = earlier ++ entry :: later → ∀ item, entry.output = .dropped item →
    (waiting earlier entry.before).length = size - 1
  refused : ∀ earlier entry later, past = earlier ++ entry :: later → entry.output = .empty →
    waiting earlier entry.before = []

theorem Sound.next (sound : Sound size past s) (event : Event μ) :
    Sound size (past ++ [(machine size make).entry s event]) ((machine size make).next s event) := by
  obtain ⟨contents, follows⟩ := sound.follows
  refine ⟨follows.next event, fun earlier entry later split item output => ?_,
    fun earlier entry later split output => ?_⟩
  · rcases Machine.split_snoc split with ⟨rfl, rfl, _⟩ | ⟨rest, rfl, joined⟩
    · exact follows.drop event item output
    · exact sound.dropped earlier entry rest joined item output
  · rcases Machine.split_snoc split with ⟨rfl, rfl, _⟩ | ⟨rest, rfl, joined⟩
    · exact follows.refuse event output
    · exact sound.refused earlier entry rest joined output

theorem Sound.fifo (sound : Sound size past s) : Fifo size past s := by
  obtain ⟨contents, follows⟩ := sound.follows
  refine ⟨?_, sound.dropped, sound.refused, fun tail compared => ?_, fun tail item copied => ?_⟩
  · rw [follows.account, List.append_assoc]
    exact List.prefix_append _ _
  · obtain ⟨same, first, rest, rfl⟩ := follows.compared compared
    rw [follows.waiting, same, follows.holds.first]
    rfl
  · obtain ⟨same, rest, rfl⟩ := follows.copied copied
    exact ⟨by rw [follows.waiting]; rfl, by rw [same]; exact follows.holds.first⟩

end

theorem empty_holds (positive : 0 < size) (buf : Region α) : Holds size ⟨buf, 0, 0⟩ [] :=
  ⟨positive, positive, (Nat.zero_mod size).symm, fun _ bound => absurd bound (Nat.not_lt_zero _)⟩

/-- The ring is first in, first out in every run, wherever the interrupts fall. -/
theorem fifo (make : μ → α) (positive : 0 < size) (buf : Region α) (events : List (Event μ)) :
    Fifo size ((machine size make).trace ⟨⟨buf, 0, 0⟩, .idle⟩ events)
      ((machine size make).run ⟨⟨buf, 0, 0⟩, .idle⟩ events) := by
  have initial : Sound size ([] : List (Entry μ α)) ⟨⟨buf, 0, 0⟩, .idle⟩ := by
    refine ⟨⟨[], empty_holds positive buf, rfl, trivial⟩, ?_, ?_⟩
    · intro earlier entry later split
      cases earlier <;> cases split
    · intro earlier entry later split
      cases earlier <;> cases split
  have sound := (machine size make).trace_invariant_all
    (fun past s event (sound : Sound size past s) => sound.next event) _ events initial
  exact sound.fifo

end RingBuffer

end Foundation
