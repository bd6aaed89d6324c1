import PulseEcu.Foundation.Run

namespace Foundation

/-! A clock of `w` bits. A deadline is the tick at which it was set and a span, added up modulo `2 ^ w`. -/

variable {w : Nat} {set due span now : BitVec w}

/-- Since `set` the clock passed `2 ^ w` before both of `due` and `now`, or before neither. -/
def SameLap (set due now : BitVec w) : Prop := set ≤ due ↔ set ≤ now

instance (set due now : BitVec w) : Decidable (SameLap set due now) := inferInstanceAs (Decidable (_ ↔ _))

/-- A deadline that was set `span` before `due`, where 0 stands for no deadline: `now` is on the lap of
    `due`, or `due` came to 0 and is still to come. -/
def Timely (span due now : BitVec w) : Prop :=
  if due = 0 then now - (due - span) < span else SameLap (due - span) due now

instance (span due now : BitVec w) : Decidable (Timely span due now) := inferInstanceAs (Decidable (ite ..))

theorem add_toNat_cases (x c : BitVec w) :
    (x + c).toNat = x.toNat + c.toNat ∨ (x + c).toNat + 2 ^ w = x.toNat + c.toNat := by
  have left := x.isLt
  have right := c.isLt
  rw [BitVec.toNat_add]
  by_cases fits : x.toNat + c.toNat < 2 ^ w
  · exact Or.inl (Nat.mod_eq_of_lt fits)
  · have reduced : (x.toNat + c.toNat) % 2 ^ w = x.toNat + c.toNat - 2 ^ w := by
      rw [Nat.mod_eq_sub_mod (by omega), Nat.mod_eq_of_lt (by omega)]
    rw [reduced]
    omega

/-- On one lap, and there only, comparing ticks is comparing spans. -/
theorem sameLap_iff : SameLap set (set + span) now ↔ (now ≥ set + span ↔ now - set ≥ span) := by
  have ahead := add_toNat_cases set span
  have elapsed := add_toNat_cases set (now - set)
  rw [BitVec.add_comm set (now - set), BitVec.sub_add_cancel] at elapsed
  have bounds := set.isLt
  have limit := now.isLt
  have small := span.isLt
  have passed := (now - set).isLt
  rw [SameLap, BitVec.le_def, BitVec.le_def, ge_iff_le, ge_iff_le, BitVec.le_def, BitVec.le_def]
  rcases ahead with ahead | ahead
  · rcases elapsed with elapsed | elapsed
    · omega
    · omega
  · rcases elapsed with elapsed | elapsed
    · omega
    · omega

theorem sameLap_sub_iff : SameLap (due - span) due now ↔ (now ≥ due ↔ now - (due - span) ≥ span) := by
  have lap := @sameLap_iff w (due - span) span now
  rw [BitVec.sub_add_cancel] at lap
  exact lap

theorem timely_iff : Timely span due now ↔ (due ≠ 0 ∧ now ≥ due ↔ now - (due - span) ≥ span) := by
  rw [Timely]
  by_cases none : due = 0
  · rw [if_pos none]
    constructor
    · intro early
      exact iff_of_false (fun past => past.1 none) (BitVec.not_le.mpr early)
    · intro same
      exact BitVec.not_le.mp fun late => (same.mpr late).1 none
  · rw [if_neg none, sameLap_sub_iff]
    exact iff_congr (and_iff_right none).symm Iff.rfl

theorem span_shift (c start now : BitVec w) : now + c - (start + c) = now - start := by
  rw [BitVec.sub_eq_add_neg, BitVec.neg_add, BitVec.sub_eq_add_neg, BitVec.sub_eq_add_neg]
  rw [BitVec.add_comm (-start) (-c), ← BitVec.add_assoc, BitVec.add_assoc now c, BitVec.add_right_neg, BitVec.add_zero]

theorem sub_right_shift (c x span : BitVec w) : x + c - span = x - span + c := by
  rw [BitVec.sub_eq_add_neg, BitVec.sub_eq_add_neg, BitVec.add_assoc, BitVec.add_comm c, ← BitVec.add_assoc]

theorem add_right_swap (tick span c : BitVec w) : tick + span + c = tick + c + span := by
  rw [BitVec.add_assoc, BitVec.add_comm span c, ← BitVec.add_assoc]

/-- Two clocks `c` apart agree on whether a deadline is over, as long as both are on its lap. -/
theorem Timely.over_shift {c : BitVec w} (first : Timely span due now) (second : Timely span (due + c) (now + c)) :
    due + c ≠ 0 ∧ now + c ≥ due + c ↔ due ≠ 0 ∧ now ≥ due := by
  rw [timely_iff.mp first, timely_iff.mp second, sub_right_shift c due, span_shift]

theorem SameLap.reached_shift {c : BitVec w} (first : SameLap (due - span) due now)
    (second : SameLap (due + c - span) (due + c) (now + c)) : now + c ≥ due + c ↔ now ≥ due := by
  rw [sameLap_sub_iff.mp first, sameLap_sub_iff.mp second, sub_right_shift c due, span_shift]

theorem pos_iff_ne_zero (x : BitVec w) : x > 0 ↔ x ≠ 0 := by
  have none : (0 : BitVec w).toNat = 0 := by simp
  constructor
  · intro positive zero
    rw [zero] at positive
    exact absurd (BitVec.lt_def.mp positive) (Nat.lt_irrefl _)
  · intro armed
    apply BitVec.lt_def.mpr
    rw [none]
    exact Nat.pos_of_ne_zero fun zero => armed (BitVec.eq_of_toNat_eq (zero.trans none.symm))

namespace Machine

variable {State Event Output : Type} (machine : Machine State Event Output)

def AllSteps (Allowed : State → Event → Prop) (start : State) (events : List Event) : Prop :=
  ∀ entry ∈ machine.trace start events, Allowed entry.before entry.event

instance {Allowed : State → Event → Prop} [∀ state event, Decidable (Allowed state event)] (start : State)
    (events : List Event) : Decidable (machine.AllSteps Allowed start events) :=
  inferInstanceAs (Decidable (∀ entry ∈ machine.trace start events, Allowed entry.before entry.event))

variable {machine} in
theorem allSteps_cons {Allowed : State → Event → Prop} {start : State} {event : Event} {events : List Event} :
    machine.AllSteps Allowed start (event :: events) ↔
      Allowed start event ∧ machine.AllSteps Allowed (machine.next start event) events := by
  simp only [AllSteps, trace, List.mem_cons, forall_eq_or_imp]
  rfl

/-- Two runs whose states stay related show the same, as long as both make allowed steps only. -/
theorem related_runs {shift : Event → Event} {Related : State → State → Prop} {Allowed Allowed' : State → Event → Prop}
    (step : ∀ s t event, Related s t → Allowed s event → Allowed' t (shift event) →
      machine.output s event = machine.output t (shift event) ∧
        Related (machine.next s event) (machine.next t (shift event)))
    (s t : State) (events : List Event) (related : Related s t)
    (allowed : machine.AllSteps Allowed s events) (allowed' : machine.AllSteps Allowed' t (events.map shift)) :
    (machine.trace s events).map Entry.output = (machine.trace t (events.map shift)).map Entry.output ∧
      Related (machine.run s events) (machine.run t (events.map shift)) := by
  induction events generalizing s t with
  | nil => exact ⟨rfl, related⟩
  | cons event events ih =>
    have allowed := allSteps_cons.mp allowed
    have allowed' := allSteps_cons.mp allowed'
    have here := step s t event related allowed.1 allowed'.1
    have rest := ih _ _ here.2 allowed.2 allowed'.2
    simp only [trace, List.map_cons, run_cons]
    exact ⟨congr (congrArg List.cons here.1) rest.1, rest.2⟩

/-- The machine with a note of its run, which each step brings up to date and nothing reads. -/
def noting {Note : Type} (note : State → Event → Note → Note) : Machine (State × Note) Event Output where
  step state event := ((machine.next state.1 event, note state.1 event state.2), machine.output state.1 event)

theorem noting_run {Note : Type} (note : State → Event → Note → Note) (state : State) (noted : Note)
    (events : List Event) : ((machine.noting note).run (state, noted) events).1 = machine.run state events := by
  induction events generalizing state noted with
  | nil => rfl
  | cons event events ih => exact ih (machine.next state event) (note state event noted)

theorem noting_trace {Note : Type} (note : State → Event → Note → Note) (state : State) (noted : Note)
    (events : List Event) : ((machine.noting note).trace (state, noted) events).map Entry.output =
      (machine.trace state events).map Entry.output := by
  induction events generalizing state noted with
  | nil => rfl
  | cons event events ih =>
    have rest := ih (machine.next state event) (note state event noted)
    exact congrArg (machine.output state event :: ·) rest

/-- Reading every tick `c` later changes nothing that a run shows, and of its last state only what
    `timeless` leaves out. -/
def Translates {Tick View : Type} (shift : Tick → Event → Event) (timeless : State → View) (start : State) (c : Tick)
    (events : List Event) : Prop :=
  (machine.trace start events).map Entry.output = (machine.trace start (events.map (shift c))).map Entry.output ∧
    timeless (machine.run start events) = timeless (machine.run start (events.map (shift c)))

end Machine

end Foundation
