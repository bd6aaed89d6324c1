import Mathlib.Algebra.GroupWithZero.Nat

namespace Foundation

/-- A deterministic machine: what one event does to the state, and what it shows. -/
structure Machine (State Event Output : Type) where
  step : State → Event → State × Output

namespace Machine

variable {State Event Output : Type} (machine : Machine State Event Output)

def next (state : State) (event : Event) : State := (machine.step state event).1

def output (state : State) (event : Event) : Output := (machine.step state event).2

def run (state : State) (events : List Event) : State := events.foldl machine.next state

structure Entry (State Event Output : Type) where
  before : State
  event : Event
  after : State
  output : Output

def entry (state : State) (event : Event) : Entry State Event Output :=
  ⟨state, event, machine.next state event, machine.output state event⟩

def trace (state : State) : List Event → List (Entry State Event Output)
  | [] => []
  | event :: events => machine.entry state event :: trace (machine.next state event) events

@[simp] theorem run_nil (state : State) : machine.run state [] = state := rfl

@[simp] theorem run_cons (state : State) (event : Event) (events : List Event) :
    machine.run state (event :: events) = machine.run (machine.next state event) events := rfl

theorem run_append (state : State) (first second : List Event) :
    machine.run state (first ++ second) = machine.run (machine.run state first) second := List.foldl_append

theorem run_snoc (state : State) (events : List Event) (event : Event) :
    machine.run state (events ++ [event]) = machine.next (machine.run state events) event :=
  machine.run_append state events [event]

theorem trace_append (state : State) (first second : List Event) :
    machine.trace state (first ++ second) =
      machine.trace state first ++ machine.trace (machine.run state first) second := by
  induction first generalizing state with
  | nil => rfl
  | cons event events ih => simp only [List.cons_append, trace, run_cons, ih]

theorem trace_snoc (state : State) (events : List Event) (event : Event) :
    machine.trace state (events ++ [event]) =
      machine.trace state events ++ [machine.entry (machine.run state events) event] := by
  rw [trace_append]
  rfl

theorem trace_cut {state : State} {events : List Event} {first second : List (Entry State Event Output)}
    (split : machine.trace state events = first ++ second) :
    ∃ begun rest, events = begun ++ rest ∧ first = machine.trace state begun ∧
      second = machine.trace (machine.run state begun) rest := by
  induction first generalizing state events with
  | nil => exact ⟨[], events, rfl, rfl, split.symm⟩
  | cons head first ih =>
    cases events with
    | nil => cases split
    | cons event events =>
      simp only [trace, List.cons_append, List.cons.injEq] at split
      obtain ⟨begun, rest, joined, before, after⟩ := ih split.2
      refine ⟨event :: begun, rest, by rw [joined]; rfl, ?_, after⟩
      rw [before, ← split.1]
      rfl

theorem trace_split {state : State} {events : List Event} {past later : List (Entry State Event Output)}
    {entry : Entry State Event Output} (split : machine.trace state events = past ++ entry :: later) :
    ∃ first event rest, events = first ++ event :: rest ∧ past = machine.trace state first ∧
      entry = machine.entry (machine.run state first) event ∧
      later = machine.trace (machine.next (machine.run state first) event) rest := by
  obtain ⟨first, second, joined, before, after⟩ := machine.trace_cut split
  cases second with
  | nil => cases after
  | cons event rest =>
    obtain ⟨same, others⟩ := List.cons.inj after
    exact ⟨first, event, rest, joined, before, same, others⟩

theorem forall_mem_snoc {α : Type} {P : α → Prop} {entries : List α} {last : α} (all : ∀ entry ∈ entries, P entry)
    (holds : P last) : ∀ entry ∈ entries ++ [last], P entry :=
  List.forall_mem_append.mpr ⟨all, List.forall_mem_singleton.mpr holds⟩

theorem mem_of_split {α : Type} {record past later : List α} {entry : α} (split : record = past ++ entry :: later) :
    entry ∈ record := by
  rw [split]
  exact List.mem_append_right past List.mem_cons_self

theorem split_snoc {α : Type} {past earlier later : List α} {last entry : α}
    (split : past ++ [last] = earlier ++ entry :: later) :
    (earlier = past ∧ entry = last ∧ later = []) ∨ ∃ rest, later = rest ++ [last] ∧ past = earlier ++ entry :: rest := by
  rcases List.eq_nil_or_concat later with rfl | ⟨rest, final, rfl⟩
  · obtain ⟨same, ends⟩ := List.append_inj' split rfl
    exact Or.inl ⟨same.symm, (List.cons.inj ends).1.symm, rfl⟩
  · have regrouped : past ++ [last] = (earlier ++ entry :: rest) ++ [final] := by rw [split]; simp
    obtain ⟨same, ends⟩ := List.append_inj' regrouped rfl
    exact Or.inr ⟨rest, by rw [(List.cons.inj ends).1]; simp, same⟩

/-- Two events of one record: the second comes before the first, is it, or comes after it. -/
theorem split_split {α : Type} {past later earlier rest : List α} {one other : α}
    (split : past ++ one :: later = earlier ++ other :: rest) :
    (∃ between, past = earlier ++ other :: between ∧ rest = between ++ one :: later) ∨
      (earlier = past ∧ other = one ∧ rest = later) ∨
        ∃ between, earlier = past ++ one :: between ∧ later = between ++ other :: rest := by
  rcases List.append_eq_append_iff.mp split with ⟨middle, begun, ended⟩ | ⟨middle, begun, ended⟩
  · cases middle with
    | nil =>
      obtain ⟨same, others⟩ := List.cons.inj ended
      rw [List.append_nil] at begun
      exact Or.inr (Or.inl ⟨begun, same.symm, others.symm⟩)
    | cons head middle =>
      obtain ⟨rfl, others⟩ := List.cons.inj ended
      exact Or.inr (Or.inr ⟨middle, begun, others⟩)
  · cases middle with
    | nil =>
      obtain ⟨same, others⟩ := List.cons.inj ended
      rw [List.append_nil] at begun
      exact Or.inr (Or.inl ⟨begun.symm, same, others⟩)
    | cons head middle =>
      obtain ⟨rfl, others⟩ := List.cons.inj ended
      exact Or.inl ⟨middle, begun, others⟩

theorem event_of_mem_trace {state : State} {events : List Event} {entry : Entry State Event Output}
    (member : entry ∈ machine.trace state events) : entry.event ∈ events := by
  obtain ⟨past, later, split⟩ := List.append_of_mem member
  obtain ⟨first, event, rest, joined, _, rfl, _⟩ := machine.trace_split split
  rw [joined]
  exact List.mem_append_right first List.mem_cons_self

theorem entry_of_mem_trace {state : State} {events : List Event} {entry : Entry State Event Output}
    (member : entry ∈ machine.trace state events) : ∃ before event, entry = machine.entry before event := by
  obtain ⟨past, later, split⟩ := List.append_of_mem member
  obtain ⟨first, event, rest, _, _, same, _⟩ := machine.trace_split split
  exact ⟨machine.run state first, event, same⟩

theorem run_invariant {Good : State → Prop} {Allowed : State → Event → Prop}
    (kept : ∀ state event, Good state → Allowed state event → Good (machine.next state event))
    (state : State) (events : List Event) (initial : Good state)
    (allowed : ∀ entry ∈ machine.trace state events, Allowed entry.before entry.event) :
    Good (machine.run state events) := by
  induction events generalizing state with
  | nil => exact initial
  | cons event events ih =>
    simp only [trace, List.mem_cons, forall_eq_or_imp] at allowed
    exact ih (machine.next state event) (kept state event initial allowed.1) allowed.2

theorem run_invariant_all {Good : State → Prop}
    (kept : ∀ state event, Good state → Good (machine.next state event))
    (state : State) (events : List Event) (initial : Good state) : Good (machine.run state events) :=
  @run_invariant State Event Output machine Good (fun _ _ => True) (fun state event good _ => kept state event good)
    state events initial fun _ _ => trivial

/-- What every step from a good state shows is shown at every step of a run. -/
theorem trace_shows {Good : State → Prop} {Shows : Entry State Event Output → Prop}
    (kept : ∀ state event, Good state → Good (machine.next state event))
    (shows : ∀ state event, Good state → Shows (machine.entry state event))
    (state : State) (events : List Event) (initial : Good state) : ∀ entry ∈ machine.trace state events, Shows entry := by
  induction events generalizing state with
  | nil => exact List.forall_mem_nil _
  | cons event events ih =>
    exact List.forall_mem_cons.mpr
      ⟨shows state event initial, ih (machine.next state event) (kept state event initial)⟩

/-- An invariant that speaks of the record of the run as well as of the state. -/
theorem trace_invariant {Good : List (Entry State Event Output) → State → Prop} {Allowed : State → Event → Prop}
    (kept : ∀ past current event, Good past current → Allowed current event →
      Good (past ++ [machine.entry current event]) (machine.next current event))
    (state : State) (events : List Event) (initial : Good [] state)
    (allowed : ∀ entry ∈ machine.trace state events, Allowed entry.before entry.event) :
    Good (machine.trace state events) (machine.run state events) := by
  suffices general : ∀ events past current, Good past current →
      (∀ entry ∈ machine.trace current events, Allowed entry.before entry.event) →
      Good (past ++ machine.trace current events) (machine.run current events) from
    general events [] state initial allowed
  intro events
  induction events with
  | nil =>
    intro past current good _
    simpa [trace] using good
  | cons event events ih =>
    intro past current good allowed
    simp only [trace, List.mem_cons, forall_eq_or_imp] at allowed
    have step := ih _ _ (kept past current event good allowed.1) allowed.2
    simpa only [trace, run_cons, List.append_assoc, List.singleton_append] using step

theorem trace_invariant_all {Good : List (Entry State Event Output) → State → Prop}
    (kept : ∀ past current event, Good past current →
      Good (past ++ [machine.entry current event]) (machine.next current event))
    (state : State) (events : List Event) (initial : Good [] state) :
    Good (machine.trace state events) (machine.run state events) :=
  @trace_invariant State Event Output machine Good (fun _ _ => True)
    (fun past current event good _ => kept past current event good) state events initial fun _ _ => trivial

/-- Over an invariant, a property of record and state that a step keeps exactly when it is a fine one
    holds at every point of a run exactly when all steps of the run are fine. -/
theorem prefixes_iff {Sound Good : List (Entry State Event Output) → State → Prop}
    {Fine : Entry State Event Output → Prop}
    (sound : ∀ past current event, Sound past current →
      Sound (past ++ [machine.entry current event]) (machine.next current event))
    (step : ∀ past current event, Sound past current → Good past current →
      (Good (past ++ [machine.entry current event]) (machine.next current event) ↔ Fine (machine.entry current event)))
    (state : State) (events : List Event) (initial : Sound [] state) (good : Good [] state) :
    (∀ first rest, events = first ++ rest → Good (machine.trace state first) (machine.run state first)) ↔
      ∀ entry ∈ machine.trace state events, Fine entry := by
  constructor
  · intro goods entry member
    obtain ⟨past, later, split⟩ := List.append_of_mem member
    obtain ⟨first, event, rest, joined, _, rfl, _⟩ := machine.trace_split split
    have before := goods first (event :: rest) joined
    have after := goods (first ++ [event]) rest (by rw [joined]; simp)
    rw [trace_snoc, run_snoc] at after
    exact (step _ _ event (machine.trace_invariant_all sound state first initial) before).mp after
  · intro fine first rest joined
    rw [joined, trace_append] at fine
    have both := machine.trace_invariant
      (fun past current event (holds : Sound past current ∧ Good past current)
          (fine : Fine (machine.entry current event)) =>
        ⟨sound past current event holds.1, (step past current event holds.1 holds.2).mpr fine⟩)
      state first ⟨initial, good⟩ fun entry member => by
        obtain ⟨before, event, rfl⟩ := machine.entry_of_mem_trace member
        exact fine _ (List.mem_append_left _ member)
    exact both.2

/-- The potential method: where every step pays for what it costs out of what it is credited and of
    what it takes from a store, a run costs no more than it was credited and the store held. -/
theorem run_budget {Good : State → Prop} (potential : State → Nat) (cost credit : Entry State Event Output → Nat)
    (kept : ∀ state event, Good state → Good (machine.next state event))
    (pays : ∀ state event, Good state → cost (machine.entry state event) + potential (machine.next state event) ≤
      potential state + credit (machine.entry state event))
    (state : State) (events : List Event) (initial : Good state) :
    ((machine.trace state events).map cost).sum + potential (machine.run state events) ≤
      potential state + ((machine.trace state events).map credit).sum := by
  induction events generalizing state with
  | nil => simp [trace]
  | cons event events ih =>
    have now := pays state event initial
    have rest := ih (machine.next state event) (kept state event initial)
    simp only [trace, List.map_cons, List.sum_cons, run_cons]
    omega

end Machine

section

variable {α : Type} {Ends : α → Prop} {Holds : List α → α → Prop} {past : List α} {last : α}

/-- Some event of the past is such that `Holds`, seen from the events before it, and no event
    after it `Ends` this. -/
def Since (Ends : α → Prop) (Holds : List α → α → Prop) (past : List α) : Prop :=
  ∃ earlier event later, past = earlier ++ event :: later ∧ Holds earlier event ∧ ∀ other ∈ later, ¬ Ends other

def SinceLast (Ends Happens : α → Prop) (past : List α) : Prop := Since Ends (fun _ event => Happens event) past

@[simp] theorem since_snoc : Since Ends Holds (past ++ [last]) ↔ Holds past last ∨ ¬ Ends last ∧ Since Ends Holds past := by
  constructor
  · intro since
    obtain ⟨earlier, event, later, split, holds, none⟩ := since
    rcases Machine.split_snoc split with ⟨rfl, rfl, _⟩ | ⟨rest, rfl, joined⟩
    · exact Or.inl holds
    · refine Or.inr ⟨none last (List.mem_append_right rest List.mem_cons_self), ?_⟩
      exact ⟨earlier, event, rest, joined, holds, fun other member => none other (List.mem_append_left _ member)⟩
  · intro either
    rcases either with now | ⟨lasting, earlier, event, later, rfl, holds, none⟩
    · exact ⟨past, last, [], rfl, now, List.forall_mem_nil _⟩
    · refine ⟨earlier, event, later ++ [last], by simp, holds, ?_⟩
      exact Machine.forall_mem_snoc none lasting

@[simp] theorem sinceLast_snoc {Happens : α → Prop} :
    SinceLast Ends Happens (past ++ [last]) ↔ Happens last ∨ ¬ Ends last ∧ SinceLast Ends Happens past :=
  since_snoc

end

end Foundation
