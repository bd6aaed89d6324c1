import PulseEcu.Server.UdsServer

open Foundation

namespace Uds

open Transport

variable {σ : Type}

/-- What a request does to the session, by the service that takes it. -/
def IService.effect (svc : IService σ) (req : Region Byte) (reqLen : Nat) (session : UdsSession) : UdsSession :=
  match svc with
  | diagnosticSessionControl _ =>
    DiagnosticSessionControlService.asks session (DiagnosticSessionControlService.asked req reqLen)
  | testerPresent => if TesterPresentService.Accepts req reqLen then session.keepAlive 0 else session
  | reading _ _ => session

theorem IService.handle_session (svc : IService σ) (req : Region Byte) (reqLen : Nat) (resp : Region Byte)
    (respLen : Nat) (session : UdsSession) (state : σ) :
    (svc.handle req reqLen resp respLen session state).2 = svc.effect req reqLen session := by
  cases svc with
  | diagnosticSessionControl svc => exact svc.handle_session req reqLen resp respLen session state
  | testerPresent => exact TesterPresentService.handle_session req reqLen resp respLen session state
  | reading sid handle => rfl

theorem IService.effect_timing (svc : IService σ) (req : Region Byte) (reqLen : Nat) (session : UdsSession) :
    (svc.effect req reqLen session).timing = session.timing := by
  cases svc with
  | diagnosticSessionControl svc =>
    simp only [effect]
    cases DiagnosticSessionControlService.asked req reqLen with
    | none => rfl
    | some new => exact UdsSession.transition_timing session new
  | testerPresent =>
    simp only [effect]
    split
    · exact UdsSession.keepAlive_timing session 0
    · rfl
  | reading sid handle => rfl

theorem IService.effect_deadline (svc : IService σ) (req : Region Byte) (reqLen : Nat) (session : UdsSession)
    (left : (svc.effect req reqLen session).session ≠ .default) :
    (svc.effect req reqLen session).s3Deadline = session.s3Deadline ∨
      session.session ≠ .default ∧
        (svc.effect req reqLen session).s3Deadline = 0 + session.timing.s3Ms.setWidth 32 := by
  cases svc with
  | diagnosticSessionControl svc =>
    simp only [effect] at left ⊢
    cases asked : DiagnosticSessionControlService.asked req reqLen with
    | none => exact Or.inl rfl
    | some new =>
      simp only [asked, DiagnosticSessionControlService.asks] at left ⊢
      by_cases ends : new = .default
      · rw [ends] at left
        exact absurd rfl left
      · rw [UdsSession.transition_deadline, if_neg ends]
        exact Or.inl rfl
  | testerPresent =>
    simp only [effect] at left ⊢
    split
    · by_cases session : session.session = .default
      · exact Or.inl (UdsSession.keepAlive_deadline_default _ 0 session)
      · exact Or.inr ⟨session, UdsSession.keepAlive_deadline _ 0 session⟩
    · exact Or.inl rfl
  | reading sid handle => exact Or.inl rfl

namespace UdsServer

variable (s : UdsServer σ) (can : ICanInterface) (tick : Word)

/-- The request that the next `process()` would fetch: how long it is, where it lies, and
    which service takes it. -/
def requestLen : Nat := s.fetch.1

def request : Region Byte := s.fetch.2.reqBuf

def taker : Option (IService σ) := s.findService (s.request 0)

@[simp] theorem fetch_session : s.fetch.2.session = s.session := by
  unfold fetch
  split <;> rfl

@[simp] theorem fetch_services : s.fetch.2.services = s.services := by
  unfold fetch
  split <;> rfl

@[simp] theorem fetch_state : s.fetch.2.state = s.state := by
  unfold fetch
  split <;> rfl

@[simp] theorem fetch_onTimeout : s.fetch.2.onTimeout = s.onTimeout := by
  unfold fetch
  split <;> rfl

def awake : UdsServer σ := { s.fetch.2 with session := s.fetch.2.session.keepAlive tick }

theorem process_arrived (arrived : s.requestLen > 0) : s.process can tick =
    (finish can tick ((s.awake tick).handleRequest can s.requestLen).1,
      ((s.awake tick).handleRequest can s.requestLen).2) := if_pos arrived

theorem process_silent (silent : ¬ s.requestLen > 0) : s.process can tick = (finish can tick s.fetch.2, []) :=
  if_neg silent

@[simp] theorem sendResponse_session (mem : Memory) (data : Pointer) (len : Nat) :
    (s.sendResponse can mem data len).1.session = s.session := rfl

@[simp] theorem finish_session : (s.finish can tick).session = (s.session.update tick).1 := rfl

theorem handleRequest_session (len : Nat) (arrived : len > 0) : (s.handleRequest can len).1.session =
    match s.findService (s.reqBuf 0) with
    | none => s.session
    | some svc => svc.effect s.reqBuf len s.session := by
  simp only [handleRequest, if_neg (Nat.ne_of_gt arrived)]
  cases s.findService (s.reqBuf 0) with
  | none => rfl
  | some svc =>
    dsimp only
    split
    · rw [sendResponse_session]
      exact svc.handle_session ..
    · exact svc.handle_session ..

def served : UdsSession :=
  if s.requestLen > 0 then
    match s.taker with
    | none => s.session.keepAlive tick
    | some svc => svc.effect s.request s.requestLen (s.session.keepAlive tick)
  else s.session

theorem process_session : (s.process can tick).1.session = ((s.served tick).update tick).1 := by
  unfold served
  by_cases arrived : s.requestLen > 0
  · rw [process_arrived s can tick arrived, if_pos arrived, finish_session, handleRequest_session _ _ _ arrived]
    simp only [awake, taker, request, findService, fetch_services, fetch_session]
    rfl
  · rw [process_silent s can tick arrived, if_neg arrived, finish_session, fetch_session]

theorem process_timing : (s.process can tick).1.session.timing = s.session.timing := by
  rw [process_session, UdsSession.update_timing, served]
  split
  · cases s.taker with
    | none => exact UdsSession.keepAlive_timing s.session tick
    | some svc => exact (svc.effect_timing ..).trans (UdsSession.keepAlive_timing s.session tick)
  · rfl

theorem boot_session (transport : IsoTp) (timing : TimingConfig) (onTimeout : Option (σ → σ))
    (reqBuf respBuf : Region Byte) (state : σ) (services : List (IService σ)) :
    (boot transport timing onTimeout reqBuf respBuf state services).session = .create timing :=
  @boot_induction σ (fun s => s.session = .create timing) _ _ _ _ _ _ _ rfl fun _ _ _ kept => kept

end UdsServer

theorem udsServer_next_timing (s : UdsServer σ) (event : ServerEvent) :
    ((udsServer σ).next s event).session.timing = s.session.timing := by
  cases event with
  | frame can frame => rfl
  | process can tick => exact s.process_timing can tick

end Uds
