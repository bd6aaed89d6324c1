import PulseEcu.Foundation.Run

namespace Foundation

namespace Machine

variable {State Event Output AbstractState AbstractEvent : Type}

/-- A machine followed by a more abstract one along a relation of their states: what an event means to
    the abstract machine it does there, showing the same; an event that means nothing leaves it alone. -/
structure Simulates (machine : Machine State Event Output) (abstract : Machine AbstractState AbstractEvent Output)
    (related : State → AbstractState → Prop) (meaning : Event → Option AbstractEvent)
    (Allowed : State → AbstractState → Event → Prop) : Prop where
  acts : ∀ {s a event means}, related s a → Allowed s a event → meaning event = some means →
    related (machine.next s event) (abstract.next a means) ∧ machine.output s event = abstract.output a means
  rests : ∀ {s a event}, related s a → Allowed s a event → meaning event = none → related (machine.next s event) a

def shown (meaning : Event → Option AbstractEvent) (entries : List (Entry State Event Output)) : List Output :=
  entries.filterMap fun entry => (meaning entry.event).map fun _ => entry.output

section

variable {machine : Machine State Event Output} {abstract : Machine AbstractState AbstractEvent Output}
  {related : State → AbstractState → Prop} {meaning : Event → Option AbstractEvent}
  {Allowed : State → AbstractState → Event → Prop}

theorem shown_cons_some (entry : Entry State Event Output) (entries : List (Entry State Event Output))
    {means : AbstractEvent} (something : meaning entry.event = some means) :
    shown meaning (entry :: entries) = entry.output :: shown meaning entries := by
  simp only [shown, List.filterMap_cons, something, Option.map_some]

theorem shown_cons_none (entry : Entry State Event Output) (entries : List (Entry State Event Output))
    (nothing : meaning entry.event = none) : shown meaning (entry :: entries) = shown meaning entries := by
  simp only [shown, List.filterMap_cons, nothing, Option.map_none]

theorem shown_all (entries : List (Entry State Event Output)) :
    shown (some : Event → Option Event) entries = entries.map Entry.output := by
  induction entries with
  | nil => rfl
  | cons entry entries ih => rw [shown_cons_some entry entries rfl, ih, List.map_cons]

/-- Along a run the states stay related, and what the run shows is what the abstract run shows. -/
theorem Simulates.run (simulates : machine.Simulates abstract related meaning Allowed) {s : State} {a : AbstractState}
    (initial : related s a) (events : List Event)
    (allowed : ∀ past event later, events = past ++ event :: later →
      Allowed (machine.run s past) (abstract.run a (past.filterMap meaning)) event) :
    related (machine.run s events) (abstract.run a (events.filterMap meaning)) ∧
      shown meaning (machine.trace s events) =
        (abstract.trace a (events.filterMap meaning)).map Entry.output := by
  induction events generalizing s a with
  | nil => exact ⟨initial, rfl⟩
  | cons event events ih =>
    have now : Allowed s a event := allowed [] event events rfl
    have rest : ∀ past other later, events = past ++ other :: later →
        Allowed (machine.run (machine.next s event) past)
          (abstract.run a ((event :: past).filterMap meaning)) other := by
      intro past other later split
      exact allowed (event :: past) other later (by rw [split]; rfl)
    cases means : meaning event with
    | none =>
      have after := simulates.rests initial now means
      simp only [List.filterMap_cons, means] at rest ⊢
      rw [run_cons, trace, shown_cons_none _ _ means]
      exact ih after rest
    | some meant =>
      obtain ⟨after, same⟩ := simulates.acts initial now means
      simp only [List.filterMap_cons, means, run_cons] at rest ⊢
      obtain ⟨ends, shows⟩ := ih after rest
      refine ⟨ends, ?_⟩
      rw [trace, shown_cons_some _ _ means, shows, trace, List.map_cons]
      exact congrArg (· :: _) same

/-- Without a restriction on the events, every run is followed. -/
theorem Simulates.run_all (simulates : machine.Simulates abstract related meaning fun _ _ _ => True) {s : State}
    {a : AbstractState} (initial : related s a) (events : List Event) :
    related (machine.run s events) (abstract.run a (events.filterMap meaning)) ∧
      shown meaning (machine.trace s events) =
        (abstract.trace a (events.filterMap meaning)).map Entry.output :=
  simulates.run initial events fun _ _ _ _ => trivial

end

end Machine

end Foundation
