import Mathlib.Data.List.Induction
import PulseEcu.Foundation.Run

namespace Foundation

variable {α κ β : Type}

def lastWrite (writes : α → κ → Option β) (entries : List α) (k : κ) : Option β :=
  entries.foldl (fun last entry => (writes entry k).or last) none

def stored (writes : α → κ → Option β) (initial : κ → β) (entries : List α) (k : κ) : β :=
  (lastWrite writes entries k).getD (initial k)

theorem stored_snoc (writes : α → κ → Option β) (initial : κ → β) (entries : List α) (last : α) (k : κ) :
    stored writes initial (entries ++ [last]) k = (writes last k).getD (stored writes initial entries k) := by
  have final : lastWrite writes (entries ++ [last]) k = (writes last k).or (lastWrite writes entries k) := by
    rw [lastWrite, List.foldl_append]
    rfl
  rw [stored, stored, final]
  cases writes last k with
  | none => rfl
  | some value => rfl

namespace Machine

variable {State Event Output : Type} (machine : Machine State Event Output) (look : State → κ → β)
  (writes : Entry State Event Output → κ → Option β)

/-- Where each step writes what its entry says, and nothing else, a key holds the last value written to it. -/
theorem look_run (state : State) (events : List Event)
    (kept : ∀ entry ∈ machine.trace state events, ∀ k, look entry.after k = (writes entry k).getD (look entry.before k)) :
    look (machine.run state events) = stored writes (look state) (machine.trace state events) := by
  induction events using List.reverseRecOn with
  | nil => rfl
  | append_singleton events event ih =>
    rw [trace_snoc] at kept
    obtain ⟨before, last⟩ := List.forall_mem_append.mp kept
    funext k
    rw [run_snoc, trace_snoc, stored_snoc, ← ih before]
    exact last _ (List.mem_singleton_self _) k

/-- What every step from a good state shows of what its state holds, it shows of what was last written. -/
theorem shows_stored (Shows : (κ → β) → Entry State Event Output → Prop) {Good : State → Prop}
    (good : ∀ state event, Good state → Good (machine.next state event))
    (shows : ∀ state event, Good state → Shows (look state) (machine.entry state event))
    {state : State} {events : List Event} (initial : Good state)
    (kept : ∀ entry ∈ machine.trace state events, Good entry.before →
      ∀ k, look entry.after k = (writes entry k).getD (look entry.before k))
    {past later : List (Entry State Event Output)} {entry : Entry State Event Output}
    (split : machine.trace state events = past ++ entry :: later) : Shows (stored writes (look state) past) entry := by
  have before : ∀ entry ∈ machine.trace state events, Good entry.before :=
    machine.trace_shows good (fun _ _ holds => holds) state events initial
  obtain ⟨first, event, rest, joined, rfl, rfl, _⟩ := machine.trace_split split
  have reached := before _ (mem_of_split split)
  rw [← machine.look_run look writes state first fun entry member => ?_]
  · exact shows _ event reached
  · have part : entry ∈ machine.trace state events := by
      rw [split]
      exact List.mem_append_left _ member
    exact kept entry part (before entry part)

end Machine

end Foundation
