import Mathlib.Algebra.GroupWithZero.Nat
import PulseEcu.Foundation.Run
import PulseEcu.Session

open Foundation

namespace Uds

inductive SessionCall where
  | transition (newSession : SessionType)
  | reset
  | update (tickMs : Word)
  | keepAlive (tickMs : Word)
  deriving DecidableEq

structure SessionReply where
  returned : Option Bool
  callbacks : Nat
  deriving DecidableEq

def udsSession : Machine UdsSession SessionCall SessionReply where
  step s
    | .transition newSession => ((s.transition newSession).2, ⟨some (s.transition newSession).1, 0⟩)
    | .reset => (s.reset, ⟨none, 0⟩)
    | .update tickMs => ((s.update tickMs).1, ⟨none, if (s.update tickMs).2 then 1 else 0⟩)
    | .keepAlive tickMs => (s.keepAlive tickMs, ⟨none, 0⟩)

namespace UdsSession

abbrev Step := Machine.Entry UdsSession SessionCall SessionReply

def FallsBack (step : Step) : Prop :=
  ∃ tickMs, step.event = .update tickMs ∧ step.before.session ≠ .default ∧ step.after.session = .default

def fallsBack (step : Step) : Bool :=
  match step.event with
  | .update _ => step.before.session ≠ .default ∧ step.after.session = .default
  | _ => false

theorem fallsBack_iff (step : Step) : fallsBack step = true ↔ FallsBack step := by
  unfold fallsBack FallsBack
  cases event : step.event with
  | update tickMs => simp
  | transition newSession => simp
  | reset => simp
  | keepAlive tickMs => simp

def StaysOut (step : Step) : Prop := step.before.session ≠ .default ∧ step.after.session ≠ .default

def EnteredFromDefault (record : List Step) : Prop :=
  ∃ earlier entering since, record = earlier ++ entering :: since ∧
    entering.event = .transition .programming ∧ entering.output.returned = some true ∧
    entering.before.session = .default ∧ entering.after.session = .programming ∧
    ∀ step ∈ since, step.before.session = .programming ∧ step.after.session = .programming

def ArmedBy (record : List Step) (deadline s3 : Word) : Prop :=
  ∃ earlier arming since tickMs, record = earlier ++ arming :: since ∧
    arming.event = .keepAlive tickMs ∧ StaysOut arming ∧ deadline = tickMs + s3 ∧
    ∀ step ∈ since, StaysOut step ∧ ∀ other, step.event ≠ .keepAlive other

structure Lawful (timing : TimingConfig) (record : List Step) (s : UdsSession) : Prop where
  config : s.timing = timing
  programming : s.session = .programming → EnteredFromDefault record
  disarmed : s.session = .default → s.s3Deadline = 0
  armed : s.s3Deadline ≠ 0 → ArmedBy record s.s3Deadline (timing.s3Ms.setWidth 32)
  timedOut : s.timedOut = true → s.session = .default

variable {record : List Step} {s : UdsSession} {timing : TimingConfig}

theorem EnteredFromDefault.enter (step : Step) (event : step.event = .transition .programming)
    (accepted : step.output.returned = some true) (found : step.before.session = .default)
    (entered : step.after.session = .programming) : EnteredFromDefault (record ++ [step]) := by
  refine ⟨record, step, [], rfl, event, accepted, found, entered, ?_⟩
  intro other member
  cases member

theorem EnteredFromDefault.snoc {step : Step} (entered : EnteredFromDefault record)
    (stays : step.before.session = .programming ∧ step.after.session = .programming) :
    EnteredFromDefault (record ++ [step]) := by
  obtain ⟨earlier, entering, since, split, event, accepted, found, enters, kept⟩ := entered
  exact ⟨earlier, entering, since ++ [step], by rw [split]; simp, event, accepted, found, enters,
    Machine.forall_mem_snoc kept stays⟩

theorem ArmedBy.arm {step : Step} {tickMs deadline s3 : Word} (event : step.event = .keepAlive tickMs)
    (stays : StaysOut step) (set : deadline = tickMs + s3) : ArmedBy (record ++ [step]) deadline s3 := by
  refine ⟨record, step, [], tickMs, rfl, event, stays, set, ?_⟩
  intro other member
  cases member

theorem ArmedBy.snoc {step : Step} {deadline s3 : Word} (armed : ArmedBy record deadline s3)
    (stays : StaysOut step) (quiet : ∀ other, step.event ≠ .keepAlive other) :
    ArmedBy (record ++ [step]) deadline s3 := by
  obtain ⟨earlier, arming, since, tickMs, split, event, out, set, kept⟩ := armed
  exact ⟨earlier, arming, since ++ [step], tickMs, by rw [split]; simp, event, out, set,
    Machine.forall_mem_snoc kept ⟨stays, quiet⟩⟩

/-- Three outcomes of a transition: Default, a refusal that changes nothing, or another session. -/
theorem transition_cases (s : UdsSession) (new : SessionType) :
    new = .default ∧ s.transition new = (true, s.reset) ∨
      new = .programming ∧ s.session ≠ .default ∧ s.transition new = (false, s) ∨
      new ≠ .default ∧ (new = .programming → s.session = .default) ∧
        s.transition new = (true, { s with session := new, timedOut := false }) := by
  by_cases toDefault : new = .default
  · exact Or.inl ⟨toDefault, by rw [transition, if_pos toDefault]⟩
  · by_cases refused : new = .programming ∧ s.session ≠ .default
    · exact Or.inr (Or.inl ⟨refused.1, refused.2, by rw [transition, if_neg toDefault, if_pos refused]⟩)
    · refine Or.inr (Or.inr ⟨toDefault, ?_, by rw [transition, if_neg toDefault, if_neg refused]⟩)
      intro programming
      by_cases session : s.session = .default
      · exact session
      · exact absurd ⟨programming, session⟩ refused

theorem Lawful.create (timing : TimingConfig) : Lawful timing [] (create timing) where
  config := rfl
  programming := fun programming => nomatch programming
  disarmed := fun _ => rfl
  armed := fun armed => absurd rfl armed
  timedOut := fun timedOut => nomatch timedOut

theorem Lawful.fallen {t : UdsSession} (same : t.timing = timing) (session : t.session = .default)
    (off : t.s3Deadline = 0) : Lawful timing record t where
  config := same
  programming := fun programming => nomatch session.symm.trans programming
  disarmed := fun _ => off
  armed := fun armed => absurd off armed
  timedOut := fun _ => session

theorem Lawful.transition (lawful : Lawful timing record s) (new : SessionType) :
    Lawful timing (record ++ [udsSession.entry s (.transition new)]) (s.transition new).2 := by
  have quiet : ∀ other, (udsSession.entry s (.transition new)).event ≠ .keepAlive other := nofun
  rcases transition_cases s new with ⟨_, same⟩ | ⟨_, left, same⟩ | ⟨left, fromDefault, same⟩
  · rw [same]
    exact Lawful.fallen lawful.config rfl rfl
  · have after : (udsSession.entry s (.transition new)).after = s := congrArg Prod.snd same
    have stays : StaysOut (udsSession.entry s (.transition new)) := ⟨left, by rw [after]; exact left⟩
    rw [same]
    constructor
    · exact lawful.config
    · intro programming
      exact (lawful.programming programming).snoc ⟨programming, by rw [after]; exact programming⟩
    · exact lawful.disarmed
    · intro armed
      exact (lawful.armed armed).snoc stays quiet
    · exact lawful.timedOut
  · have after : (udsSession.entry s (.transition new)).after.session = new :=
      congrArg (fun result : Bool × UdsSession => result.2.session) same
    have accepted : (udsSession.entry s (.transition new)).output.returned = some true :=
      congrArg (fun result : Bool × UdsSession => some result.1) same
    rw [same]
    constructor
    · exact lawful.config
    · intro programming
      have programming : new = .programming := programming
      apply EnteredFromDefault.enter
      · rw [programming]
        rfl
      · exact accepted
      · exact fromDefault programming
      · rw [after, programming]
    · intro session
      exact absurd session left
    · intro armed
      have before : s.session ≠ .default := fun session => armed (lawful.disarmed session)
      exact (lawful.armed armed).snoc ⟨before, by rw [after]; exact left⟩ quiet
    · intro timedOut
      cases timedOut

theorem Lawful.update (lawful : Lawful timing record s) (tickMs : Word) :
    Lawful timing (record ++ [udsSession.entry s (.update tickMs)]) (s.update tickMs).1 := by
  rcases update_cases s tickMs with ⟨session, off⟩ | ⟨left, same, _⟩
  · exact Lawful.fallen ((update_timing s tickMs).trans lawful.config) session off
  · have stays : StaysOut (udsSession.entry s (.update tickMs)) := ⟨left, fun session => left (same ▸ session)⟩
    have quiet : ∀ other, (udsSession.entry s (.update tickMs)).event ≠ .keepAlive other := nofun
    have after : (udsSession.entry s (.update tickMs)).after = s := same
    rw [same]
    constructor
    · exact lawful.config
    · intro programming
      exact (lawful.programming programming).snoc ⟨programming, by rw [after]; exact programming⟩
    · exact lawful.disarmed
    · intro armed
      exact (lawful.armed armed).snoc stays quiet
    · exact lawful.timedOut

theorem Lawful.keepAlive (lawful : Lawful timing record s) (tickMs : Word) :
    Lawful timing (record ++ [udsSession.entry s (.keepAlive tickMs)]) (s.keepAlive tickMs) := by
  have kept := keepAlive_session s tickMs
  have after : (udsSession.entry s (.keepAlive tickMs)).after.session = s.session := kept
  constructor
  · exact (keepAlive_timing s tickMs).trans lawful.config
  · intro programming
    have before := kept.symm.trans programming
    exact (lawful.programming before).snoc ⟨before, after.trans before⟩
  · intro session
    have before := kept.symm.trans session
    rw [keepAlive_deadline_default s tickMs before]
    exact lawful.disarmed before
  · intro armed
    by_cases before : s.session = .default
    · rw [keepAlive_deadline_default s tickMs before] at armed
      exact absurd (lawful.disarmed before) armed
    · apply ArmedBy.arm rfl
      · exact ⟨before, by rw [after]; exact before⟩
      · rw [keepAlive_deadline s tickMs before, lawful.config]
  · intro timedOut
    unfold UdsSession.keepAlive at timedOut
    split at timedOut
    · cases timedOut
    · cases timedOut

theorem Lawful.next (lawful : Lawful timing record s) (call : SessionCall) :
    Lawful timing (record ++ [udsSession.entry s call]) (udsSession.next s call) := by
  cases call with
  | transition new => exact lawful.transition new
  | reset => exact Lawful.fallen lawful.config rfl rfl
  | update tickMs => exact lawful.update tickMs
  | keepAlive tickMs => exact lawful.keepAlive tickMs

theorem entry_callbacks (s : UdsSession) (call : SessionCall) :
    (udsSession.entry s call).output.callbacks = if fallsBack (udsSession.entry s call) then 1 else 0 := by
  cases call with
  | transition new => rfl
  | reset => rfl
  | keepAlive tickMs => rfl
  | update tickMs =>
    show (if (s.update tickMs).2 then 1 else 0) =
      if decide (s.session ≠ .default ∧ (s.update tickMs).1.session = .default) then 1 else 0
    unfold update
    split
    · rename_i session
      simp [session]
    · rename_i left
      split
      · simp [left]
      · simp [left]

theorem entry_refused (s : UdsSession) (call : SessionCall)
    (refused : (udsSession.entry s call).output.returned = some false) :
    (udsSession.entry s call).after = (udsSession.entry s call).before := by
  cases call with
  | transition new =>
    have returned : (s.transition new).1 = false := Option.some.inj refused
    rcases transition_cases s new with ⟨_, same⟩ | ⟨_, _, same⟩ | ⟨_, _, same⟩
    · rw [same] at returned
      cases returned
    · exact congrArg Prod.snd same
    · rw [same] at returned
      cases returned
  | reset => cases refused
  | update tickMs => cases refused
  | keepAlive tickMs => cases refused

/-- The law of a run, call by call: what a refused transition does and when the callback runs. -/
structure CallsLawful (record : List Step) : Prop where
  refused : ∀ step ∈ record, step.output.returned = some false → step.after = step.before
  called : ∀ step ∈ record, (FallsBack step → step.output.callbacks = 1) ∧
    (¬ FallsBack step → step.output.callbacks = 0)
  total : (record.map fun step => step.output.callbacks).sum = record.countP fallsBack

theorem trace_callbacks (s : UdsSession) (calls : List SessionCall) :
    ((udsSession.trace s calls).map fun step => step.output.callbacks).sum =
      (udsSession.trace s calls).countP fallsBack := by
  induction calls generalizing s with
  | nil => rfl
  | cons call calls ih =>
    simp only [Machine.trace, List.map_cons, List.sum_cons, List.countP_cons, ih, entry_callbacks]
    omega

theorem callsLawful (s : UdsSession) (calls : List SessionCall) : CallsLawful (udsSession.trace s calls) where
  refused step member := by
    obtain ⟨before, call, rfl⟩ := udsSession.entry_of_mem_trace member
    exact entry_refused before call
  called step member := by
    obtain ⟨before, call, rfl⟩ := udsSession.entry_of_mem_trace member
    rw [entry_callbacks, ← fallsBack_iff]
    constructor
    · intro falls
      rw [if_pos falls]
    · intro stays
      rw [if_neg stays]
  total := trace_callbacks s calls

/-- Every run of the four calls from the constructor keeps the session law. -/
theorem session_state_machine (timing : TimingConfig) (calls : List SessionCall) :
    Lawful timing (udsSession.trace (create timing) calls) (udsSession.run (create timing) calls) ∧
      CallsLawful (udsSession.trace (create timing) calls) := by
  constructor
  · exact udsSession.trace_invariant_all (fun _ _ call lawful => lawful.next call) _ calls (Lawful.create timing)
  · exact callsLawful (create timing) calls

end UdsSession

end Uds
