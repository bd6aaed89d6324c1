import PulseEcu.Foundation.Clock
import PulseEcu.SessionMachine

open Foundation

namespace Uds

def SessionCall.shift (c : Word) : SessionCall → SessionCall
  | transition newSession => .transition newSession
  | reset => .reset
  | update tickMs => .update (tickMs + c)
  | keepAlive tickMs => .keepAlive (tickMs + c)

namespace UdsSession

def timeless (s : UdsSession) : SessionType × TimingConfig × Bool := (s.session, s.timing, s.timedOut)

def s3Span (s : UdsSession) : Word := s.timing.s3Ms.setWidth 32

/-- The tick at which the S3 deadline was set, if Default was not passed since. -/
def noteSet (s : UdsSession) (call : SessionCall) (set : Option Word) : Option Word :=
  if (udsSession.next s call).session = .default then none
  else
    match call with
    | .keepAlive tickMs => some tickMs
    | .transition _ | .reset | .update _ => set

/-- An S3 deadline that was set at some tick, also one that came to 0, is compared on its lap. -/
def Steady (noted : UdsSession × Option Word) : SessionCall → Prop
  | .update tickMs => ∀ set ∈ noted.2, Timely noted.1.s3Span (set + noted.1.s3Span) tickMs
  | _ => True

instance (noted : UdsSession × Option Word) (call : SessionCall) : Decidable (Steady noted call) :=
  match noted, call with
  | (_, none), .update _ => isTrue fun _ known => nomatch known
  | (s, some set), .update tickMs => decidable_of_iff (Timely s.s3Span (set + s.s3Span) tickMs)
      ⟨fun timely _ known => Option.some.inj known ▸ timely, fun all => all set rfl⟩
  | _, .transition _ | _, .reset | _, .keepAlive _ => isTrue True.intro

def deadlineSet (s : UdsSession) (set : Option Word) : Word := (set.map (· + s.s3Span)).getD 0

def later (c : Word) (s : UdsSession) (set : Option Word) : UdsSession :=
  { s with s3Deadline := s.deadlineSet (set.map (· + c)) }

structure Noted (pair : UdsSession × Option Word) : Prop where
  deadline : pair.1.s3Deadline = pair.1.deadlineSet pair.2
  off : pair.1.session = .default → pair.2 = none

structure Later (c : Word) (pair pair' : UdsSession × Option Word) : Prop where
  noted : Noted pair
  same : pair' = (pair.1.later c pair.2, pair.2.map (· + c))

variable {c : Word} {s : UdsSession} {set : Option Word}

theorem Noted.fallen (deadline : s.s3Deadline = 0) : Noted (s, none) :=
  ⟨deadline, fun _ => rfl⟩

theorem over_later (deadline : s.s3Deadline = s.deadlineSet set) (tickMs : Word)
    (first : Steady (s, set) (.update tickMs))
    (second : Steady (s.later c set, set.map (· + c)) (.update (tickMs + c))) :
    (s.later c set).s3Deadline ≠ 0 ∧ tickMs + c ≥ (s.later c set).s3Deadline ↔
      s.s3Deadline ≠ 0 ∧ tickMs ≥ s.s3Deadline := by
  rw [deadline]
  cases set with
  | none => exact iff_of_false (fun past => past.1 rfl) (fun past => past.1 rfl)
  | some tick =>
    have second := second (tick + c) rfl
    have swap : tick + c + (s.later c (some tick)).s3Span = tick + s.s3Span + c := (add_right_swap tick s.s3Span c).symm
    have due : (s.later c (some tick)).s3Deadline = tick + s.s3Span + c := swap
    rw [swap] at second
    rw [due]
    exact (first tick rfl).over_shift second

theorem transition_later (noted : Noted (s, set)) (new : SessionType) :
    (s.later c set).transition new =
        ((s.transition new).1, (s.transition new).2.later c (noteSet s (.transition new) set)) ∧
      Noted ((s.transition new).2, noteSet s (.transition new) set) := by
  rcases transition_cases s new with ⟨rfl, same⟩ | ⟨rfl, left, same⟩ | ⟨other, allowed, same⟩
  · have session : (udsSession.next s (.transition .default)).session = .default :=
      congrArg (fun result : Bool × UdsSession => result.2.session) same
    rw [noteSet, if_pos session, same, transition, if_pos rfl]
    exact ⟨rfl, .fallen rfl⟩
  · have session : (udsSession.next s (.transition .programming)).session ≠ .default := by
      show (s.transition .programming).2.session ≠ .default
      rw [same]
      exact left
    have refused : .programming = SessionType.programming ∧ (s.later c set).session ≠ .default := ⟨rfl, left⟩
    rw [noteSet, if_neg session, same, transition, if_neg (by decide), if_pos refused]
    exact ⟨rfl, noted⟩
  · have session : (udsSession.next s (.transition new)).session ≠ .default := by
      show (s.transition new).2.session ≠ .default
      rw [same]
      exact other
    have accepted : ¬ (new = .programming ∧ (s.later c set).session ≠ .default) := fun both => both.2 (allowed both.1)
    rw [noteSet, if_neg session, same, transition, if_neg other, if_neg accepted]
    exact ⟨rfl, noted.deadline, fun default => absurd default other⟩

theorem update_later (noted : Noted (s, set)) (tickMs : Word) (first : Steady (s, set) (.update tickMs))
    (second : Steady (s.later c set, set.map (· + c)) (.update (tickMs + c))) :
    (s.later c set).update (tickMs + c) =
        ((s.update tickMs).1.later c (noteSet s (.update tickMs) set), (s.update tickMs).2) ∧
      Noted ((s.update tickMs).1, noteSet s (.update tickMs) set) := by
  have same := over_later noted.deadline tickMs first second
  by_cases session : s.session = .default
  · have session' : (s.later c set).session = .default := session
    have after : (udsSession.next s (.update tickMs)).session = .default := by
      show (s.update tickMs).1.session = .default
      rw [update, if_pos session]
      exact session
    rw [noteSet, if_pos after, update, if_pos session', update, if_pos session]
    exact ⟨rfl, .fallen rfl⟩
  · have session' : (s.later c set).session ≠ .default := session
    by_cases expired : s.s3Deadline ≠ 0 ∧ tickMs ≥ s.s3Deadline
    · have after : (udsSession.next s (.update tickMs)).session = .default := by
        show (s.update tickMs).1.session = .default
        rw [update, if_neg session, if_pos expired]
      rw [noteSet, if_pos after, update, if_neg session', if_pos (same.mpr expired), update, if_neg session,
        if_pos expired]
      exact ⟨rfl, .fallen rfl⟩
    · have kept : s.update tickMs = (s, false) := by rw [update, if_neg session, if_neg expired]
      have after : (udsSession.next s (.update tickMs)).session ≠ .default := by
        show (s.update tickMs).1.session ≠ .default
        rw [kept]
        exact session
      rw [noteSet, if_neg after, kept, update, if_neg session', if_neg (mt same.mp expired)]
      exact ⟨rfl, noted⟩

theorem keepAlive_later (noted : Noted (s, set)) (tickMs : Word) :
    (s.later c set).keepAlive (tickMs + c) = (s.keepAlive tickMs).later c (noteSet s (.keepAlive tickMs) set) ∧
      Noted (s.keepAlive tickMs, noteSet s (.keepAlive tickMs) set) := by
  have kept : (udsSession.next s (.keepAlive tickMs)).session = s.session := keepAlive_session s tickMs
  by_cases session : s.session = .default
  · have session' : (s.later c set).session = .default := session
    have off : set = none := noted.off session
    have deadline := noted.deadline
    subst off
    rw [noteSet, if_pos (kept.trans session), keepAlive, if_neg (not_not_intro session'), keepAlive,
      if_neg (not_not_intro session)]
    exact ⟨rfl, deadline, fun _ => rfl⟩
  · have session' : (s.later c set).session ≠ .default := session
    have left : (udsSession.next s (.keepAlive tickMs)).session ≠ .default := by
      rw [kept]
      exact session
    rw [noteSet, if_neg left, keepAlive, if_pos session', keepAlive, if_pos session]
    exact ⟨rfl, rfl, fun default => absurd default session⟩

theorem noteSet_later (call : SessionCall) (session : (udsSession.next (s.later c set) (call.shift c)).session =
    (udsSession.next s call).session) :
    noteSet (s.later c set) (call.shift c) (set.map (· + c)) = (noteSet s call set).map (· + c) := by
  unfold noteSet
  rw [session]
  split
  · rfl
  · cases call <;> rfl

theorem Later.step {pair pair' : UdsSession × Option Word} (related : Later c pair pair') (call : SessionCall)
    (first : Steady pair call) (second : Steady pair' (call.shift c)) :
    (udsSession.noting noteSet).output pair call = (udsSession.noting noteSet).output pair' (call.shift c) ∧
      Later c ((udsSession.noting noteSet).next pair call) ((udsSession.noting noteSet).next pair' (call.shift c)) := by
  obtain ⟨s, set⟩ := pair
  obtain ⟨known, rfl⟩ := related
  suffices goes : udsSession.output s call = udsSession.output (s.later c set) (call.shift c) ∧
      udsSession.next (s.later c set) (call.shift c) = (udsSession.next s call).later c (noteSet s call set) ∧
        Noted (udsSession.next s call, noteSet s call set) by
    obtain ⟨output, next, noted⟩ := goes
    have session : (udsSession.next (s.later c set) (call.shift c)).session = (udsSession.next s call).session := by
      rw [next]
      rfl
    have notes := noteSet_later call session
    exact ⟨output, noted, Prod.ext next notes⟩
  cases call with
  | transition new =>
    obtain ⟨same, noted⟩ := transition_later (c := c) known new
    refine ⟨?_, congrArg Prod.snd same, noted⟩
    show SessionReply.mk (some (s.transition new).1) 0 = ⟨some ((s.later c set).transition new).1, 0⟩
    rw [same]
  | reset => exact ⟨rfl, rfl, .fallen rfl⟩
  | update tickMs =>
    obtain ⟨same, noted⟩ := update_later known tickMs first second
    refine ⟨?_, congrArg Prod.fst same, noted⟩
    show SessionReply.mk none (if (s.update tickMs).2 then 1 else 0) =
      ⟨none, if ((s.later c set).update (tickMs + c)).2 then 1 else 0⟩
    rw [same]
  | keepAlive tickMs =>
    obtain ⟨same, noted⟩ := keepAlive_later (c := c) known tickMs
    exact ⟨rfl, same, noted⟩

theorem translates (timing : TimingConfig) (c : Word) (calls : List SessionCall)
    (steady : (udsSession.noting noteSet).AllSteps Steady (create timing, none) calls)
    (steady' : (udsSession.noting noteSet).AllSteps Steady (create timing, none) (calls.map (SessionCall.shift c))) :
    udsSession.Translates SessionCall.shift timeless (create timing) c calls := by
  have initial : Later c (create timing, none) (create timing, none) := ⟨.fallen rfl, rfl⟩
  have runs := (udsSession.noting noteSet).related_runs
    (fun _ _ call related first second => Later.step related call first second) _ _ calls initial steady steady'
  rw [udsSession.noting_trace, udsSession.noting_trace] at runs
  refine ⟨runs.1, ?_⟩
  have final := congrArg Prod.fst runs.2.same
  rw [udsSession.noting_run, udsSession.noting_run] at final
  rw [final]
  rfl

end UdsSession

end Uds
