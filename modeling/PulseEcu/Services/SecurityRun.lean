import PulseEcu.Foundation.Run
import PulseEcu.Services.SecuritySession

open Foundation

namespace Uds

inductive SecurityEvent (ω : Type) where
  | register (level : SecurityLevel ω)
  | request (req : Region Byte) (reqLen : Nat) (resp : Region Byte) (respLen : Nat) (session : UdsSession) (world : ω)
  | update (tickMs : Word)

def securityAccess (ω : Type) : Machine (SecurityAccessService ω) (SecurityEvent ω) (List SecurityCall) where
  step svc
    | .register level => ((svc.registerLevel level).2, [])
    | .request req reqLen resp respLen session world =>
      let handled := svc.handle req reqLen resp respLen session world
      (handled.state.1, handled.calls)
    | .update tickMs => (svc.update tickMs, [])

def SecurityCall.level : SecurityCall → Byte
  | .generateSeed level _ => level
  | .verifyKey level _ _ _ => level

namespace SecurityAccessService

variable {ω : Type} {svc : SecurityAccessService ω} {req : Region Byte} {reqLen : Nat} {session : UdsSession}
  {lvl : LevelState ω}

abbrev Step (ω : Type) := Machine.Entry (SecurityAccessService ω) (SecurityEvent ω) (List SecurityCall)

def callsOf (record : List (Step ω)) : List SecurityCall := record.flatMap fun step => step.output

theorem callsOf_snoc (record : List (Step ω)) (step : Step ω) :
    callsOf (record ++ [step]) = callsOf record ++ step.output := by
  simp [callsOf]

theorem Admitted.lookup_store (admitted : Admitted svc req reqLen session lvl) (new : LevelState ω)
    (same : new.cfg = lvl.cfg) (level : Byte) :
    (svc.store new).lookup level = if seedSub (req 1) = level then some new else svc.lookup level := by
  have stored : new.cfg.level = seedSub (req 1) := by rw [same, lookup_level admitted.found]
  have found : svc.lookup new.cfg.level = some lvl := by rw [stored, admitted.found]
  rw [SecurityAccessService.lookup_store new found level, stored]

theorem judged_cfg (valid : Bool) (tick : Word) (lvl : LevelState ω) :
    (if valid then opened lvl else failed tick lvl).cfg = lvl.cfg := by
  split
  · rfl
  · rfl

theorem judged_unlocked (valid : Bool) (tick : Word) (lvl : LevelState ω) :
    (if valid then opened lvl else failed tick lvl).unlocked = (valid || lvl.unlocked) := by
  cases valid with
  | false => rfl
  | true => rfl

theorem judged_seedSent (valid : Bool) (tick : Word) (lvl : LevelState ω) :
    (if valid then opened lvl else failed tick lvl).seedSent = false := by
  split
  · rfl
  · rfl

section

variable {handled : Handled SecurityCall (SecurityAccessService ω × ω)} {level : Byte}

theorem Turn.lookup_other (turn : Turn svc req reqLen session handled) (other : seedSub (req 1) ≠ level) :
    handled.state.1.lookup level = svc.lookup level := by
  cases turn with
  | silent same => rw [same]
  | seed lvl cells len admitted _ _ state =>
    rw [state]
    show (svc.store (seeded lvl cells len)).lookup level = _
    rw [admitted.lookup_store (seeded lvl cells len) rfl level, if_neg other]
  | key lvl valid admitted _ _ _ state =>
    rw [state, admitted.lookup_store _ (judged_cfg valid svc.currentTick lvl) level, if_neg other]

theorem Turn.calls_level (turn : Turn svc req reqLen session handled) :
    ∀ call ∈ handled.calls, call.level = seedSub (req 1) := by
  intro call member
  cases turn with
  | silent _ calls =>
    rw [calls] at member
    cases member
  | seed _ _ _ _ _ _ _ calls =>
    rw [calls, List.mem_singleton] at member
    rw [member, SecurityCall.level]
  | key _ _ _ _ _ _ _ calls =>
    rw [calls, List.mem_singleton] at member
    rw [member, SecurityCall.level]

theorem Turn.quiet (turn : Turn svc req reqLen session handled) (none : ∀ lvl, ¬ Admitted svc req reqLen session lvl) :
    handled.state.1 = svc ∧ handled.calls = [] := by
  cases turn with
  | silent same calls => exact ⟨same, calls⟩
  | seed lvl _ _ admitted => exact absurd admitted (none lvl)
  | key lvl _ admitted => exact absurd admitted (none lvl)

end

def extendedRequest (bytes : List Byte) : SecurityEvent Unit :=
  .request ((Region.fill 0).store 0 bytes) bytes.length (Region.fill 0) 4096
    ((UdsSession.create kDefaultTiming).transition .extended).2 ()

end SecurityAccessService

end Uds
