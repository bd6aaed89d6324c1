import PulseEcu.Services.ServiceSet

open Foundation

namespace Uds

namespace SecurityAccessService

variable {ω : Type} (svc : SecurityAccessService ω) (req : Region Byte) (reqLen : Nat) (resp : Region Byte)
  (respLen : Nat) (session : UdsSession) (world : ω)

theorem handle_stopped
    (stopped : StoppedBy report (svc.handle req reqLen resp respLen session world).calls) :
    (svc.handle req reqLen resp respLen session world).state.1 = svc ∨
      ∃ level seed key, (svc.handle req reqLen resp respLen session world).calls = [.verifyKey level seed key false] := by
  cases svc.handle_turn req reqLen resp respLen session world with
  | silent same => exact Or.inl same
  | seed _ _ _ _ _ _ _ calls =>
    rw [calls] at stopped
    exact absurd rfl (stopped.2 _ rfl)
  | key _ valid _ _ _ _ _ calls =>
    rw [calls] at stopped
    cases valid with
    | false => exact Or.inr ⟨_, _, _, calls⟩
    | true => exact absurd rfl (stopped.2 _ rfl)

end SecurityAccessService

namespace Service

variable {ω : Type}

def SpentByKey (service : Service) (handlers : Handlers ω) (req : Region Byte) (handled : Handled Call (Ecu ω)) : Prop :=
  service = .securityAccess ∧
    (∃ security, SecurityAccessService.Spent handlers.securityAccess req security ∧
      handled.state.1 = { handlers with securityAccess := security }) ∧
    ∃ level seed key, handled.calls = [.security (.verifyKey level seed key false)]

/-- What a negative response leaves: the session and the handlers as they were, and of the
    application functions none was called but some that read and at last one that failed. -/
structure Harmless (service : Service) (handlers : Handlers ω) (session : UdsSession) (req : Region Byte)
    (served : Handled Call (Ecu ω) × UdsSession) : Prop where
  session : served.2 = session
  handlers : served.1.state.1 = handlers ∨ SpentByKey service handlers req served.1
  calls : StoppedBy Call.report served.1.calls

variable (target : Target) (service : Service) (handlers : Handlers ω) (world : ω) (req : Region Byte) (reqLen : Nat)
  (resp : Region Byte) (respLen : Nat) (session : UdsSession)

theorem handle_spent
    (stopped : StoppedBy Call.report
      (Service.securityAccess.handle target (handlers, world) req reqLen resp respLen session).1.calls) :
    (Service.securityAccess.handle target (handlers, world) req reqLen resp respLen session).1.state.1 = handlers ∨
      ∃ level seed key,
        (Service.securityAccess.handle target (handlers, world) req reqLen resp respLen session).1.calls =
          [.security (.verifyKey level seed key false)] := by
  have inner : StoppedBy SecurityAccessService.report
      (handlers.securityAccess.handle req reqLen resp respLen session world).calls := by
    constructor
    · intro call member
      apply stopped.1 (.security call)
      show _ ∈ (List.map Call.security _).dropLast
      rw [← List.map_dropLast]
      exact List.mem_map_of_mem member
    · intro call last
      apply stopped.2 (.security call)
      show (List.map Call.security _).getLast? = some (Call.security call)
      rw [List.getLast?_map, Option.mem_def.mp last]
      rfl
  rcases handlers.securityAccess.handle_stopped req reqLen resp respLen session world inner with same |
    ⟨level, seed, key, calls⟩
  · refine Or.inl ?_
    show { handlers with
      securityAccess := (handlers.securityAccess.handle req reqLen resp respLen session world).state.1 } = handlers
    rw [same]
  · exact Or.inr ⟨level, seed, key, congrArg (List.map Call.security) calls⟩

theorem negative_harmless
    (no : (service.handle target (handlers, world) req reqLen resp respLen session).1.IsNegative service.serviceId) :
    Harmless service handlers session req (service.handle target (handlers, world) req reqLen resp respLen session) := by
  have serves := service.handle_serves target handlers world req reqLen resp respLen session
  obtain ⟨left, stopped⟩ := serves.negative (Or.inl rfl) service.serviceId_positive no
  refine ⟨service.handle_negative_session target handlers world req reqLen resp respLen session no, ?_, stopped⟩
  rcases left with same | ⟨security, spent⟩
  · exact Or.inl same
  · subst security
    rcases handle_spent target handlers world req reqLen resp respLen session stopped with same | key
    · exact Or.inl same
    · exact Or.inr ⟨rfl, spent, key⟩

def readOnly : Handlers Unit :=
  { Handlers.bare with writeData := ⟨[⟨0xF190, true, none, some fun _ _ _ => (false, ())⟩]⟩ }

def writesVin : Region Byte := (Region.fill 0).store 0 [0x2E, 0xF1, 0x90, 0x41]

theorem negative_harmless_readOnly : Harmless .writeDataByIdentifier readOnly (.create kDefaultTiming) writesVin
    (Service.writeDataByIdentifier.handle .host (readOnly, ()) writesVin 4 (Region.fill 0) 4096 (.create kDefaultTiming)) :=
  negative_harmless .host .writeDataByIdentifier readOnly () writesVin 4 (Region.fill 0) 4096 (.create kDefaultTiming)
    ⟨.generalProgrammingFailure, by decide⟩

end Service

end Uds
