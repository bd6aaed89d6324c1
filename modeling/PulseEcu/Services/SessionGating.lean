import PulseEcu.Services.ServiceSet

open Foundation

namespace Uds

namespace Service

variable {ω : Type}

/-- The table of docs/session_timing_matrix.md. It forbids nothing to a service that it does not list. -/
def allowed : Service → SessionType → Bool
  | readDtcInformation, session => session ≠ .programming
  | readDataByIdentifier, session => session ≠ .programming
  | securityAccess, session => session ≠ .default
  | writeDataByIdentifier, session => session = .extended
  | routineControl, session => session ≠ .default
  | requestDownload, session => session = .programming
  | transferData, session => session = .programming
  | requestTransferExit, session => session = .programming
  | communicationControl, session => session ≠ .default
  | controlDtcSetting, session => session ≠ .default
  | _, _ => true

/-- What a request meets in a session that its service is not for: a negative response and nothing else. -/
structure Gated (service : Service) (before : Ecu ω) (session : UdsSession) (served : Handled Call (Ecu ω) × UdsSession) :
    Prop where
  negative : served.1.IsNegative service.serviceId
  calls : served.1.calls = []
  state : served.1.state = before
  session : served.2 = session

/-- The requests that get through although the session forbids them. Seven services check the session
    not at all, or only against the one that the registered level or routine names. -/
def SlipsThrough (service : Service) (handlers : Handlers ω) (req : Region Byte) (reqLen respLen : Nat)
    (session : UdsSession) : Prop :=
  match service with
  | readDtcInformation => ReadDtcInformationService.Accepts req reqLen
  | readDataByIdentifier => handlers.readData.Accepts req reqLen respLen
  | securityAccess => handlers.securityAccess.Accepts req reqLen session
  | writeDataByIdentifier => handlers.writeData.Accepts req reqLen
  | routineControl => handlers.routineControl.Accepts req reqLen session
  | transferData => handlers.transferData.Accepts req reqLen
  | requestTransferExit => RequestTransferExitService.Accepts handlers.requestDownload
  | _ => False

section

variable (target : Target) (service : Service) (handlers : Handlers ω) (world : ω) (req : Region Byte) (reqLen : Nat)
  (resp : Region Byte) (respLen : Nat) (session : UdsSession)

theorem gated_iff :
    Gated service (handlers, world) session (service.handle target (handlers, world) req reqLen resp respLen session) ↔
      ¬ service.Accepts target handlers req reqLen respLen session := by
  have serves := service.handle_serves target handlers world req reqLen resp respLen session
  have refused := serves.refused_iff service.serviceId_positive
  constructor
  · intro gated
    exact refused.mp ⟨gated.negative, gated.calls, gated.state⟩
  · intro denied
    have answer := refused.mpr denied
    have same := service.handle_denied target handlers world req reqLen resp respLen session denied
    exact ⟨answer.1, answer.2.1, answer.2.2, same⟩

theorem accepts_iff_slipsThrough (forbidden : service.allowed session.session = false) :
    service.Accepts target handlers req reqLen respLen session ↔
      service.SlipsThrough handlers req reqLen respLen session := by
  cases service with
  | readDtcInformation | readDataByIdentifier | securityAccess | writeDataByIdentifier | routineControl | transferData
  | requestTransferExit => exact Iff.rfl
  | requestDownload =>
    have outside : session.session ≠ .programming := of_decide_eq_false forbidden
    exact iff_of_false (fun accepts => outside accepts.2.1) id
  | communicationControl =>
    have default : ¬ session.session ≠ .default := of_decide_eq_false forbidden
    exact iff_of_false (fun accepts => default accepts.2.2) id
  | controlDtcSetting =>
    have default : ¬ session.session ≠ .default := of_decide_eq_false forbidden
    exact iff_of_false (fun accepts => default accepts.2.2) id
  | _ => exact absurd forbidden Bool.noConfusion

theorem session_gated (forbidden : service.allowed session.session = false) :
    Gated service (handlers, world) session (service.handle target (handlers, world) req reqLen resp respLen session) ↔
      ¬ service.SlipsThrough handlers req reqLen respLen session := by
  have accepts := service.accepts_iff_slipsThrough target handlers req reqLen respLen session forbidden
  exact (service.gated_iff target handlers world req reqLen resp respLen session).trans (not_congr accepts)

end

def startsTransfer : Region Byte := (Region.fill 0).store 0 [0x36, 0x01, 0xAA]

theorem session_gated_transfer :
    Gated .transferData (Handlers.bare, ()) (.create kDefaultTiming)
        (Service.transferData.handle .host (Handlers.bare, ()) startsTransfer 3 (Region.fill 0) 4096
          (.create kDefaultTiming)) ↔
      ¬ SlipsThrough .transferData (Handlers.bare : Handlers Unit) startsTransfer 3 4096 (.create kDefaultTiming) :=
  session_gated .host .transferData Handlers.bare () startsTransfer 3 (Region.fill 0) 4096 (.create kDefaultTiming) rfl

def writable : Handlers Byte :=
  { Handlers.bare with writeData := ⟨[⟨0xF190, true, none, some fun data _ _ => (true, data 0)⟩]⟩ }

def writesIdentifier : Region Byte := (Region.fill 0).store 0 [0x2E, 0xF1, 0x90, 0x41]

theorem default_session_writes :
    Service.writeDataByIdentifier.allowed (UdsSession.create kDefaultTiming).session = false ∧
      (Service.writeDataByIdentifier.handle .host (writable, 0) writesIdentifier 4 (Region.fill 0) 4096
        (.create kDefaultTiming)).1.message = [0x6E, 0xF1, 0x90] ∧
      (Service.writeDataByIdentifier.handle .host (writable, 0) writesIdentifier 4 (Region.fill 0) 4096
        (.create kDefaultTiming)).1.state.2 = 0x41 ∧
      ¬ Gated .writeDataByIdentifier (writable, 0) (.create kDefaultTiming)
        (Service.writeDataByIdentifier.handle .host (writable, 0) writesIdentifier 4 (Region.fill 0) 4096
          (.create kDefaultTiming)) := by
  have stored : (Service.writeDataByIdentifier.handle .host (writable, 0) writesIdentifier 4 (Region.fill 0) 4096
      (.create kDefaultTiming)).1.state.2 = 0x41 := by decide
  refine ⟨rfl, by decide, stored, ?_⟩
  intro gated
  rw [gated.state] at stored
  revert stored
  decide

end Service

end Uds
