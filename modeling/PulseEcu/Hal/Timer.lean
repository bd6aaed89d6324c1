import PulseEcu.Foundation.Clock
import PulseEcu.Types

open Foundation

namespace Uds.Hal

def isElapsed (start current timeout : Word) : Bool := current - start ≥ timeout

/-- What `ITimer::get_tick_ms` returns is given to each call. -/
structure SoftTimer where
  startTick : Word
  running : Bool
  deriving DecidableEq

namespace SoftTimer

def create : SoftTimer := ⟨0, false⟩

def start (_ : SoftTimer) (now : Word) : SoftTimer := ⟨now, true⟩

def stop (t : SoftTimer) : SoftTimer := { t with running := false }

def restart (t : SoftTimer) (now : Word) : SoftTimer := { t with startTick := now }

def isExpired (t : SoftTimer) (now timeoutMs : Word) : Bool :=
  if t.running = false then false else isElapsed t.startTick now timeoutMs

def elapsedMs (t : SoftTimer) (now : Word) : Word := if t.running = false then 0 else now - t.startTick

end SoftTimer

/-- The comparison that the header asks for does not see where the clock stands. -/
theorem isElapsed_shift (c start current timeout : Word) :
    isElapsed (start + c) (current + c) timeout = isElapsed start current timeout := by
  rw [isElapsed, isElapsed, span_shift]

inductive SoftCall where
  | start (now : Word)
  | stop
  | restart (now : Word)
  | isExpired (now timeoutMs : Word)
  | elapsedMs (now : Word)
  deriving DecidableEq

def SoftCall.shift (c : Word) : SoftCall → SoftCall
  | start now => .start (now + c)
  | stop => .stop
  | restart now => .restart (now + c)
  | isExpired now timeoutMs => .isExpired (now + c) timeoutMs
  | elapsedMs now => .elapsedMs (now + c)

inductive SoftReply where
  | done
  | expired (yes : Bool)
  | elapsed (ms : Word)
  deriving DecidableEq

def softTimer : Machine SoftTimer SoftCall SoftReply where
  step t
    | .start now => (t.start now, .done)
    | .stop => (t.stop, .done)
    | .restart now => (t.restart now, .done)
    | .isExpired now timeoutMs => (t, .expired (t.isExpired now timeoutMs))
    | .elapsedMs now => (t, .elapsed (t.elapsedMs now))

namespace SoftTimer

structure Later (c : Word) (t t' : SoftTimer) : Prop where
  running : t'.running = t.running
  start : t.running = true → t'.startTick = t.startTick + c

variable {c : Word} {t t' : SoftTimer}

theorem Later.step (later : Later c t t') (call : SoftCall) :
    softTimer.output t call = softTimer.output t' (call.shift c) ∧
      Later c (softTimer.next t call) (softTimer.next t' (call.shift c)) := by
  have running := later.running
  cases call with
  | start now => exact ⟨rfl, rfl, fun _ => rfl⟩
  | stop => exact ⟨rfl, rfl, fun none => nomatch none⟩
  | restart now => exact ⟨rfl, running, fun _ => rfl⟩
  | isExpired now timeoutMs =>
    refine ⟨congrArg SoftReply.expired ?_, later⟩
    unfold isExpired
    rw [running]
    cases now' : t.running with
    | false => rfl
    | true => rw [later.start now', isElapsed_shift]
  | elapsedMs now =>
    refine ⟨congrArg SoftReply.elapsed ?_, later⟩
    unfold elapsedMs
    rw [running]
    cases now' : t.running with
    | false => rfl
    | true => rw [later.start now', span_shift]

/-- The one timer that is built on `is_elapsed` keeps time wherever the clock stands, in every run. -/
theorem translates (c : Word) (calls : List SoftCall) :
    softTimer.Translates SoftCall.shift SoftTimer.running create c calls := by
  have initial : Later c create create := ⟨rfl, fun none => nomatch none⟩
  have always : ∀ (start : SoftTimer) (calls : List SoftCall), softTimer.AllSteps (fun _ _ => True) start calls :=
    fun _ _ _ _ => trivial
  have runs := softTimer.related_runs (fun _ _ call later _ _ => Later.step later call) create create calls initial
    (always create calls) (always create (calls.map (SoftCall.shift c)))
  exact ⟨runs.1, runs.2.running.symm⟩

end SoftTimer

structure PeriodicTimer where
  period : Word
  next : Word
  started : Bool
  deriving DecidableEq

namespace PeriodicTimer

def create (periodMs : Word) : PeriodicTimer := ⟨periodMs, 0, false⟩

def start (t : PeriodicTimer) (now : Word) : PeriodicTimer := { t with next := now + t.period, started := true }

def tick (t : PeriodicTimer) (now : Word) : Bool × PeriodicTimer :=
  if t.started = false then (false, t)
  else if now ≥ t.next then (true, { t with next := now + t.period })
  else (false, t)

end PeriodicTimer

inductive PeriodicCall where
  | start (now : Word)
  | tick (now : Word)
  deriving DecidableEq

def PeriodicCall.shift (c : Word) : PeriodicCall → PeriodicCall
  | start now => .start (now + c)
  | tick now => .tick (now + c)

def periodicTimer : Machine PeriodicTimer PeriodicCall Bool where
  step t
    | .start now => (t.start now, false)
    | .tick now => ((t.tick now).2, (t.tick now).1)

namespace PeriodicTimer

def timeless (t : PeriodicTimer) : Word × Bool := (t.period, t.started)

/-- A running timer is asked on the lap of the tick at which it fires next; that tick was set a period before. -/
def Steady (t : PeriodicTimer) : PeriodicCall → Prop
  | .start _ => True
  | .tick now => t.started = true → SameLap (t.next - t.period) t.next now

structure Later (c : Word) (t t' : PeriodicTimer) : Prop where
  period : t'.period = t.period
  started : t'.started = t.started
  next : t.started = true → t'.next = t.next + c

variable {c : Word} {t t' : PeriodicTimer}

theorem Later.set (period : t'.period = t.period) (now : Word) :
    Later c { t with next := now + t.period, started := true }
      { t' with next := now + c + t'.period, started := true } := by
  constructor
  · exact period
  · rfl
  · intro _
    show now + c + t'.period = now + t.period + c
    rw [period, add_right_swap]

theorem Later.step (later : Later c t t') (call : PeriodicCall) (first : Steady t call)
    (second : Steady t' (call.shift c)) :
    periodicTimer.output t call = periodicTimer.output t' (call.shift c) ∧
      Later c (periodicTimer.next t call) (periodicTimer.next t' (call.shift c)) := by
  have period := later.period
  cases call with
  | start now => exact ⟨rfl, .set period now⟩
  | tick now =>
    show (t.tick now).1 = (t'.tick (now + c)).1 ∧ Later c (t.tick now).2 (t'.tick (now + c)).2
    by_cases running : t.started = true
    · have running' := later.started.trans running
      have due := later.next running
      have second := second running'
      rw [due, period] at second
      have same : now + c ≥ t.next + c ↔ now ≥ t.next := (first running).reached_shift second
      unfold tick
      rw [running, running', due]
      simp only [same, Bool.true_eq_false, if_false]
      by_cases fires : now ≥ t.next
      · rw [if_pos fires, if_pos fires]
        exact ⟨rfl, .set period now⟩
      · rw [if_neg fires, if_neg fires]
        exact ⟨rfl, later⟩
    · have stopped : t.started = false := Bool.not_eq_true _ ▸ running
      have stopped' := later.started.trans stopped
      rw [tick, tick, if_pos stopped, if_pos stopped']
      exact ⟨rfl, later⟩

theorem translates (period c : Word) (calls : List PeriodicCall)
    (steady : periodicTimer.AllSteps Steady (create period) calls)
    (steady' : periodicTimer.AllSteps Steady (create period) (calls.map (PeriodicCall.shift c))) :
    periodicTimer.Translates PeriodicCall.shift timeless (create period) c calls := by
  have initial : Later c (create period) (create period) := ⟨rfl, rfl, fun started => nomatch started⟩
  have runs := periodicTimer.related_runs (fun _ _ call later first second => Later.step later call first second) _ _ calls
    initial steady steady'
  have same := runs.2
  refine ⟨runs.1, ?_⟩
  rw [timeless, timeless, same.period, same.started]

end PeriodicTimer

end Uds.Hal
