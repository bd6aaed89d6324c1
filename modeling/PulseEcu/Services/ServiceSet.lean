import PulseEcu.Services.ControlServices
import PulseEcu.Services.DtcServices
import PulseEcu.Services.MemoryServices
import PulseEcu.Services.ReadDataByIdentifier
import PulseEcu.Services.SecurityAccess
import PulseEcu.Services.SessionServices
import PulseEcu.Services.TableServices
import PulseEcu.Services.Transfer
import PulseEcu.Services.WriteMemoryByAddress

open Foundation

namespace Uds

/-- The service handlers with the manager that two of them share. Their callbacks work on the
    application `ω`. -/
structure Handlers (ω : Type) where
  sessionControl : DiagnosticSessionControlService ω
  ecuReset : EcuResetService ω
  dtcManager : Dtc.DtcManager
  readData : ReadDataByIdentifierService ω
  readMemory : ReadMemoryByAddressService ω
  securityAccess : SecurityAccessService ω
  communicationControl : CommunicationControlService ω
  writeData : WriteDataByIdentifierService ω
  ioControl : InputOutputControlByIdentifierService ω
  routineControl : RoutineControlService ω
  requestDownload : RequestDownloadService ω
  requestUpload : RequestUploadService ω
  transferData : TransferDataService ω
  transferExit : RequestTransferExitService ω
  writeMemory : WriteMemoryByAddressService ω
  dtcSetting : ControlDtcSettingService ω
  responseOnEvent : ResponseOnEventService
  linkControl : LinkControlService ω

def Handlers.bare {ω : Type} : Handlers ω where
  sessionControl := ⟨none⟩
  ecuReset := ⟨none⟩
  dtcManager := .create
  readData := .create
  readMemory := ⟨none⟩
  securityAccess := .create
  communicationControl := ⟨none⟩
  writeData := .create
  ioControl := .create
  routineControl := .create
  requestDownload := .create none
  requestUpload := .create none
  transferData := .create none
  transferExit := ⟨none⟩
  writeMemory := ⟨none⟩
  dtcSetting := ⟨none⟩
  responseOnEvent := .create 0
  linkControl := .create none

/-- The application functions that fill a buffer keep to the space they are given; those of a
    routine, which get no limit, write at most 512 bytes. -/
structure Handlers.Bounded {ω : Type} (handlers : Handlers ω) : Prop where
  readData : handlers.readData.Bounded
  readMemory : handlers.readMemory.Bounded
  securityAccess : handlers.securityAccess.Bounded
  ioControl : handlers.ioControl.Bounded
  routineControl : handlers.routineControl.Bounded
  transferExit : handlers.transferExit.Bounded

abbrev Ecu (ω : Type) := Handlers ω × ω

inductive Service where
  | diagnosticSessionControl
  | ecuReset
  | clearDiagnosticInformation
  | readDtcInformation
  | readDataByIdentifier
  | readMemoryByAddress
  | securityAccess
  | communicationControl
  | writeDataByIdentifier
  | inputOutputControlByIdentifier
  | routineControl
  | requestDownload
  | requestUpload
  | transferData
  | requestTransferExit
  | writeMemoryByAddress
  | testerPresent
  | controlDtcSetting
  | responseOnEvent
  | linkControl
  deriving DecidableEq, Repr

inductive Call where
  | session (old new : SessionType)
  | reset (type : ResetType)
  | readDid (call : ReadDidCall)
  | readMemory (call : ReadMemoryCall)
  | security (call : SecurityCall)
  | communication (call : CommControlCall)
  | writeDid (call : WriteDidCall)
  | ioControl (call : IoControlCall)
  | routine (call : RoutineCall)
  | transfer (call : TransferCall) (accepted : Bool)
  | upload (call : UploadCall)
  | writeMemory (call : WriteMemoryCall) (written : Bool)
  | dtcSetting (call : DtcSettingCall)
  | baudrate (call : LinkControlCall)

def Call.report : Call → Report
  | session _ _ => .done
  | reset _ => .done
  | readDid _ => .read
  | readMemory call => ReadMemoryByAddressService.report call
  | security call => SecurityAccessService.report call
  | communication _ => .done
  | writeDid call => WriteDataByIdentifierService.report call
  | ioControl call => InputOutputControlByIdentifierService.report call
  | routine call => RoutineControlService.report call
  | transfer _ accepted => if accepted then .done else .failed
  | upload call => RequestUploadService.report call
  | writeMemory _ written => if written then .done else .failed
  | dtcSetting _ => .done
  | baudrate call => if call.switched then .done else .failed

namespace Service

variable {ω : Type}

def serviceId : Service → ServiceId
  | diagnosticSessionControl => .diagnosticSessionControl
  | ecuReset => .ecuReset
  | clearDiagnosticInformation => .clearDiagnosticInformation
  | readDtcInformation => .readDtcInformation
  | readDataByIdentifier => .readDataByIdentifier
  | readMemoryByAddress => .readMemoryByAddress
  | securityAccess => .securityAccess
  | communicationControl => .communicationControl
  | writeDataByIdentifier => .writeDataByIdentifier
  | inputOutputControlByIdentifier => .inputOutputControlByIdentifier
  | routineControl => .routineControl
  | requestDownload => .requestDownload
  | requestUpload => .requestUpload
  | transferData => .transferData
  | requestTransferExit => .requestTransferExit
  | writeMemoryByAddress => .writeMemoryByAddress
  | testerPresent => .testerPresent
  | controlDtcSetting => .controlDtcSetting
  | responseOnEvent => .responseOnEvent
  | linkControl => .linkControl

def handle (target : Target) (service : Service) (ecu : Ecu ω) (req : Region Byte) (reqLen : Nat) (resp : Region Byte)
    (respLen : Nat) (session : UdsSession) : Handled Call (Ecu ω) × UdsSession :=
  let (handlers, world) := ecu
  match service with
  | diagnosticSessionControl =>
    let handled := handlers.sessionControl.handle req reqLen resp respLen session world
    (handled.1.map (fun world => (handlers, world)) fun call => .session call.1 call.2, handled.2)
  | ecuReset =>
    ((handlers.ecuReset.handle req reqLen resp respLen session world).map (fun world => (handlers, world))
      .reset, session)
  | clearDiagnosticInformation =>
    ((ClearDiagnosticInformationService.handle req reqLen resp respLen session handlers.dtcManager).map
      (fun manager => ({ handlers with dtcManager := manager }, world)) Empty.elim, session)
  | readDtcInformation =>
    ((ReadDtcInformationService.handle req reqLen resp respLen session handlers.dtcManager).map
      (fun manager => ({ handlers with dtcManager := manager }, world)) Empty.elim, session)
  | readDataByIdentifier =>
    ((handlers.readData.handle req reqLen resp respLen session world).map (fun world => (handlers, world))
      .readDid, session)
  | readMemoryByAddress =>
    ((handlers.readMemory.handle target req reqLen resp respLen session world).map (fun world => (handlers, world))
      .readMemory, session)
  | securityAccess =>
    ((handlers.securityAccess.handle req reqLen resp respLen session world).map
      (fun after => ({ handlers with securityAccess := after.1 }, after.2)) .security, session)
  | communicationControl =>
    ((handlers.communicationControl.handle req reqLen resp respLen session world).map (fun world => (handlers, world))
      .communication, session)
  | writeDataByIdentifier =>
    ((handlers.writeData.handle req reqLen resp respLen session world).map (fun world => (handlers, world))
      .writeDid, session)
  | inputOutputControlByIdentifier =>
    ((handlers.ioControl.handle req reqLen resp respLen session world).map (fun world => (handlers, world))
      .ioControl, session)
  | routineControl =>
    ((handlers.routineControl.handle req reqLen resp respLen session world).map (fun world => (handlers, world))
      .routine, session)
  | requestDownload =>
    ((handlers.requestDownload.handle target req reqLen resp respLen session world).map
      (fun after => ({ handlers with requestDownload := after.1 }, after.2))
      fun call => .transfer call (handlers.requestDownload.verdict target req world), session)
  | requestUpload =>
    ((handlers.requestUpload.handle target req reqLen resp respLen session world).map
      (fun after => ({ handlers with requestUpload := after.1 }, after.2)) .upload, session)
  | transferData =>
    ((handlers.transferData.handle req reqLen resp respLen session world).map
      (fun after => ({ handlers with transferData := after.1 }, after.2))
      fun call => .transfer call (handlers.transferData.verdict req reqLen world), session)
  | requestTransferExit =>
    ((handlers.transferExit.handle req reqLen resp respLen session
      (handlers.requestDownload, handlers.transferData, world)).map
      (fun after => ({ handlers with requestDownload := after.1, transferData := after.2.1 }, after.2.2))
      fun call => .transfer call (handlers.transferExit.verdict req reqLen resp respLen world), session)
  | writeMemoryByAddress =>
    ((handlers.writeMemory.handle target req reqLen resp respLen session world).map (fun world => (handlers, world))
      fun call => .writeMemory call (handlers.writeMemory.verdict req world call), session)
  | testerPresent =>
    let handled := TesterPresentService.handle req reqLen resp respLen session world
    (handled.1.map (fun world => (handlers, world)) Empty.elim, handled.2)
  | controlDtcSetting =>
    ((handlers.dtcSetting.handle req reqLen resp respLen session world).map (fun world => (handlers, world))
      .dtcSetting, session)
  | responseOnEvent =>
    ((handlers.responseOnEvent.handle req reqLen resp respLen session).map
      (fun after => ({ handlers with responseOnEvent := after }, world)) Empty.elim, session)
  | linkControl =>
    ((handlers.linkControl.handle req reqLen resp respLen session world).map
      (fun after => ({ handlers with linkControl := after.1 }, after.2)) .baudrate, session)

def Accepts (target : Target) (service : Service) (handlers : Handlers ω) (req : Region Byte) (reqLen respLen : Nat)
    (session : UdsSession) : Prop :=
  match service with
  | diagnosticSessionControl => DiagnosticSessionControlService.Accepts req reqLen session
  | ecuReset => EcuResetService.Accepts req reqLen
  | clearDiagnosticInformation => ClearDiagnosticInformationService.Accepts reqLen
  | readDtcInformation => ReadDtcInformationService.Accepts req reqLen
  | readDataByIdentifier => handlers.readData.Accepts req reqLen respLen
  | readMemoryByAddress => handlers.readMemory.Accepts target req reqLen respLen
  | securityAccess => handlers.securityAccess.Accepts req reqLen session
  | communicationControl => CommunicationControlService.Accepts req reqLen session
  | writeDataByIdentifier => handlers.writeData.Accepts req reqLen
  | inputOutputControlByIdentifier => handlers.ioControl.Accepts req reqLen session
  | routineControl => handlers.routineControl.Accepts req reqLen session
  | requestDownload => handlers.requestDownload.Accepts req reqLen session
  | requestUpload => handlers.requestUpload.Accepts req reqLen
  | transferData => handlers.transferData.Accepts req reqLen
  | requestTransferExit => RequestTransferExitService.Accepts handlers.requestDownload
  | writeMemoryByAddress => handlers.writeMemory.Accepts target req reqLen
  | testerPresent => TesterPresentService.Accepts req reqLen
  | controlDtcSetting => ControlDtcSettingService.Accepts req reqLen session
  | responseOnEvent => ResponseOnEventService.Accepts req reqLen
  | linkControl => handlers.linkControl.Accepts req reqLen session

/-- What a handler that gave up may leave: everything as it was, except for the level whose key was invalid. -/
def Left (service : Service) (handlers : Handlers ω) (req : Region Byte) (after : Ecu ω) : Prop :=
  after.1 = handlers ∨ service = .securityAccess ∧ ∃ security,
    SecurityAccessService.Spent handlers.securityAccess req security ∧
      after.1 = { handlers with securityAccess := security }

theorem serviceId_positive (service : Service) : service.serviceId + 0x40 ≠ ServiceId.negativeResponse := by
  cases service <;> decide

section

variable (target : Target) (service : Service) (handlers : Handlers ω) (world : ω) (req : Region Byte) (reqLen : Nat)
  (resp : Region Byte) (respLen : Nat) (session : UdsSession)

theorem handle_serves :
    Serves service.serviceId (handlers, world) (service.Left handlers req) Call.report
      (service.Accepts target handlers req reqLen respLen session)
      (service.handle target (handlers, world) req reqLen resp respLen session).1 := by
  have same : ∀ world : ω, service.Left handlers req (handlers, world) := fun _ => Or.inl rfl
  cases service with
  | diagnosticSessionControl =>
    have serves := handlers.sessionControl.handle_serves req reqLen resp respLen session world fun _ => .done
    exact serves.map (fun world => (handlers, world)) (fun call => Call.session call.1 call.2) (fun _ => rfl)
      fun _ _ => same _
  | ecuReset =>
    have serves := handlers.ecuReset.handle_serves req reqLen resp respLen session world fun _ => .done
    exact serves.map (fun world => (handlers, world)) Call.reset (fun _ => rfl) fun _ _ => same _
  | clearDiagnosticInformation =>
    have serves := ClearDiagnosticInformationService.handle_serves req reqLen resp respLen session handlers.dtcManager
      (fun _ => .done)
    apply serves.map (fun manager => (({ handlers with dtcManager := manager }, world) : Ecu ω)) Empty.elim
      (fun call => nomatch call)
    intro manager kept
    exact Or.inl (by rw [kept])
  | readDtcInformation =>
    have serves := ReadDtcInformationService.handle_serves req reqLen resp respLen session handlers.dtcManager
      fun _ => .done
    apply serves.map (fun manager => (({ handlers with dtcManager := manager }, world) : Ecu ω)) Empty.elim
      (fun call => nomatch call)
    intro manager kept
    exact Or.inl (by rw [kept])
  | readDataByIdentifier =>
    have serves := handlers.readData.handle_serves req reqLen resp respLen session world
    exact serves.map (fun world => (handlers, world)) Call.readDid (fun _ => rfl) fun _ _ => same _
  | readMemoryByAddress =>
    have serves := handlers.readMemory.handle_serves target req reqLen resp respLen session world
    exact serves.map (fun world => (handlers, world)) Call.readMemory (fun _ => rfl) fun _ _ => same _
  | securityAccess =>
    have serves := handlers.securityAccess.handle_serves req reqLen resp respLen session world
    apply serves.map (fun after => (({ handlers with securityAccess := after.1 }, after.2) : Ecu ω)) Call.security
      fun _ => rfl
    intro after kept
    rcases kept with kept | spent
    · exact Or.inl (by rw [kept])
    · exact Or.inr ⟨rfl, after.1, spent, rfl⟩
  | communicationControl =>
    have serves := handlers.communicationControl.handle_serves req reqLen resp respLen session world fun _ => .done
    exact serves.map (fun world => (handlers, world)) Call.communication (fun _ => rfl) fun _ _ => same _
  | writeDataByIdentifier =>
    have serves := handlers.writeData.handle_serves req reqLen resp respLen session world
    exact serves.map (fun world => (handlers, world)) Call.writeDid (fun _ => rfl) fun _ _ => same _
  | inputOutputControlByIdentifier =>
    have serves := handlers.ioControl.handle_serves req reqLen resp respLen session world
    exact serves.map (fun world => (handlers, world)) Call.ioControl (fun _ => rfl) fun _ _ => same _
  | routineControl =>
    have serves := handlers.routineControl.handle_serves req reqLen resp respLen session world
    exact serves.map (fun world => (handlers, world)) Call.routine (fun _ => rfl) fun _ _ => same _
  | requestDownload =>
    have serves := handlers.requestDownload.handle_serves target req reqLen resp respLen session world
      (fun _ => if handlers.requestDownload.verdict target req world then .done else .failed)
      fun refused _ => by rw [refused]; rfl
    apply serves.map (fun after => (({ handlers with requestDownload := after.1 }, after.2) : Ecu ω))
      (fun call => Call.transfer call (handlers.requestDownload.verdict target req world)) fun _ => rfl
    intro after kept
    exact Or.inl (by rw [kept])
  | requestUpload =>
    have serves := handlers.requestUpload.handle_serves target req reqLen resp respLen session world
    apply serves.map (fun after => (({ handlers with requestUpload := after.1 }, after.2) : Ecu ω)) Call.upload
      fun _ => rfl
    intro after kept
    exact Or.inl (by rw [kept])
  | transferData =>
    have serves := handlers.transferData.handle_serves req reqLen resp respLen session world
      (fun _ => if handlers.transferData.verdict req reqLen world then .done else .failed)
      fun failed _ => by rw [failed]; rfl
    apply serves.map (fun after => (({ handlers with transferData := after.1 }, after.2) : Ecu ω))
      (fun call => Call.transfer call (handlers.transferData.verdict req reqLen world)) fun _ => rfl
    intro after kept
    exact Or.inl (by rw [kept])
  | requestTransferExit =>
    have serves := handlers.transferExit.handle_serves req reqLen resp respLen session handlers.requestDownload
      handlers.transferData world
      (fun _ => if handlers.transferExit.verdict req reqLen resp respLen world then .done else .failed)
      fun failed _ => by rw [failed]; rfl
    apply serves.map
      (fun after => (({ handlers with requestDownload := after.1, transferData := after.2.1 }, after.2.2) : Ecu ω))
      (fun call => Call.transfer call (handlers.transferExit.verdict req reqLen resp respLen world)) fun _ => rfl
    intro after kept
    exact Or.inl (by rw [kept.1, kept.2])
  | writeMemoryByAddress =>
    have serves := handlers.writeMemory.handle_serves target req reqLen resp respLen session world
      (fun call => if handlers.writeMemory.verdict req world call then .done else .failed)
      fun _ failed => by rw [failed]; rfl
    exact serves.map (fun world => (handlers, world))
      (fun call => Call.writeMemory call (handlers.writeMemory.verdict req world call)) (fun _ => rfl) fun _ _ => same _
  | testerPresent =>
    have serves := TesterPresentService.handle_serves req reqLen resp respLen session world fun _ => .done
    exact serves.map (fun world => (handlers, world)) Empty.elim (fun call => nomatch call) fun _ _ => same _
  | controlDtcSetting =>
    have serves := handlers.dtcSetting.handle_serves req reqLen resp respLen session world fun _ => .done
    exact serves.map (fun world => (handlers, world)) Call.dtcSetting (fun _ => rfl) fun _ _ => same _
  | responseOnEvent =>
    have serves := handlers.responseOnEvent.handle_serves req reqLen resp respLen session fun _ => .done
    apply serves.map (fun after => (({ handlers with responseOnEvent := after }, world) : Ecu ω)) Empty.elim
      (fun call => nomatch call)
    intro after kept
    exact Or.inl (by rw [kept])
  | linkControl =>
    have serves := handlers.linkControl.handle_serves req reqLen resp respLen session world
      fun call => if call.switched then .done else .failed
    apply serves.map (fun after => (({ handlers with linkControl := after.1 }, after.2) : Ecu ω)) Call.baudrate
      fun _ => rfl
    intro after kept
    exact Or.inl (by rw [kept])

/-- The largest response that is not limited by the space left is that of a routine. -/
theorem handle_fits (bounded : handlers.Bounded) (room : 516 ≤ respLen) :
    Fits respLen resp (service.handle target (handlers, world) req reqLen resp respLen session).1.toAnswer := by
  have three : 3 ≤ respLen := by omega
  have four : 4 ≤ respLen := by omega
  have six : 6 ≤ respLen := by omega
  have echo : 17 ≤ respLen := by omega
  have seed : 257 ≤ respLen := by omega
  cases service with
  | diagnosticSessionControl => exact (handlers.sessionControl.handle_fits _ _ _ _ _ _ six).map _ _
  | ecuReset => exact (handlers.ecuReset.handle_fits _ _ _ _ _ _ three).map _ _
  | clearDiagnosticInformation => exact (ClearDiagnosticInformationService.handle_fits _ _ _ _ _ _ three).map _ _
  | readDtcInformation => exact (ReadDtcInformationService.handle_fits _ _ _ _ _ _ six).map _ _
  | readDataByIdentifier => exact (handlers.readData.handle_fits _ _ _ _ _ _ bounded.readData three).map _ _
  | readMemoryByAddress => exact (handlers.readMemory.handle_fits _ _ _ _ _ _ _ bounded.readMemory three).map _ _
  | securityAccess => exact (handlers.securityAccess.handle_fits _ _ _ _ _ _ bounded.securityAccess seed).map _ _
  | communicationControl => exact (handlers.communicationControl.handle_fits _ _ _ _ _ _ three).map _ _
  | writeDataByIdentifier => exact (handlers.writeData.handle_fits _ _ _ _ _ _ three).map _ _
  | inputOutputControlByIdentifier => exact (handlers.ioControl.handle_fits _ _ _ _ _ _ bounded.ioControl four).map _ _
  | routineControl => exact (handlers.routineControl.handle_fits _ _ _ _ _ _ bounded.routineControl room).map _ _
  | requestDownload => exact (handlers.requestDownload.handle_fits _ _ _ _ _ _ _ four).map _ _
  | requestUpload => exact (handlers.requestUpload.handle_fits _ _ _ _ _ _ _ four).map _ _
  | transferData => exact (handlers.transferData.handle_fits _ _ _ _ _ _ three).map _ _
  | requestTransferExit =>
    exact (handlers.transferExit.handle_fits _ _ _ _ _ _ _ _ bounded.transferExit three).map _ _
  | writeMemoryByAddress => exact (handlers.writeMemory.handle_fits _ _ _ _ _ _ _ echo).map _ _
  | testerPresent => exact (TesterPresentService.handle_fits _ _ _ _ _ _ three).map _ _
  | controlDtcSetting => exact (handlers.dtcSetting.handle_fits _ _ _ _ _ _ three).map _ _
  | responseOnEvent => exact (handlers.responseOnEvent.handle_fits _ _ _ _ _ four).map _ _
  | linkControl => exact (handlers.linkControl.handle_fits _ _ _ _ _ _ three).map _ _

theorem handle_tables (bounded : handlers.Bounded) :
    (service.handle target (handlers, world) req reqLen resp respLen session).1.state.1.Bounded ∧
      (service.handle target (handlers, world) req reqLen resp respLen session).1.state.1.sessionControl =
        handlers.sessionControl := by
  cases service with
  | securityAccess =>
    have levels := handlers.securityAccess.handle_bounded req reqLen resp respLen session world bounded.securityAccess
    exact ⟨{ bounded with securityAccess := levels }, rfl⟩
  | _ => exact ⟨{ bounded with }, rfl⟩

theorem handle_denied (denied : ¬ service.Accepts target handlers req reqLen respLen session) :
    (service.handle target (handlers, world) req reqLen resp respLen session).2 = session := by
  cases service with
  | diagnosticSessionControl => exact handlers.sessionControl.handle_denied _ _ _ _ _ _ denied
  | testerPresent => exact TesterPresentService.handle_denied _ _ _ _ _ _ denied
  | _ => rfl

theorem handle_negative_session
    (no : (service.handle target (handlers, world) req reqLen resp respLen session).1.IsNegative service.serviceId) :
    (service.handle target (handlers, world) req reqLen resp respLen session).2 = session := by
  cases service with
  | diagnosticSessionControl =>
    have serves := handlers.sessionControl.handle_serves req reqLen resp respLen session world fun _ => .done
    exact handlers.sessionControl.handle_denied _ _ _ _ _ _ (serves.denied (fun _ _ => rfl) (by decide) no)
  | testerPresent =>
    have serves := TesterPresentService.handle_serves req reqLen resp respLen session world fun _ => .done
    exact TesterPresentService.handle_denied _ _ _ _ _ _ (serves.denied (fun _ _ => rfl) (by decide) no)
  | _ => rfl

end

end Service

def DiagnosticSessionControlService.lift {ω : Type} (svc : DiagnosticSessionControlService ω) :
    DiagnosticSessionControlService (Ecu ω) :=
  ⟨svc.callback.map fun callback old new ecu => (ecu.1, callback old new ecu.2)⟩

namespace Service

variable {ω : Type}

def interface (target : Target) (control : DiagnosticSessionControlService ω) : Service → IService (Ecu ω)
  | diagnosticSessionControl => .diagnosticSessionControl control.lift
  | testerPresent => .testerPresent
  | service => .reading service.serviceId fun req reqLen resp respLen session ecu =>
      (service.handle target ecu req reqLen resp respLen session).1.toAnswer

theorem interface_serviceId (target : Target) (control : DiagnosticSessionControlService ω) (service : Service) :
    (service.interface target control).serviceId = service.serviceId := by
  cases service <;> rfl

theorem interface_handle (target : Target) (service : Service) (handlers : Handlers ω) (world : ω) (req : Region Byte)
    (reqLen : Nat) (resp : Region Byte) (respLen : Nat) (session : UdsSession) :
    (service.interface target handlers.sessionControl).handle req reqLen resp respLen session (handlers, world) =
      ((service.handle target (handlers, world) req reqLen resp respLen session).1.toAnswer,
        (service.handle target (handlers, world) req reqLen resp respLen session).2) := by
  cases service with
  | diagnosticSessionControl =>
    show (((handlers.sessionControl.lift.handle req reqLen resp respLen session (handlers, world)).1.toAnswer, _) :
      Answer (Ecu ω) × UdsSession) = _
    simp only [handle, DiagnosticSessionControlService.handle, DiagnosticSessionControlService.lift]
    split
    · rfl
    · split
      · rfl
      · split
        · cases handlers.sessionControl.callback with
          | none => rfl
          | some callback => rfl
        · rfl
  | testerPresent =>
    show (((TesterPresentService.handle req reqLen resp respLen session (handlers, world)).1.toAnswer, _) :
      Answer (Ecu ω) × UdsSession) = _
    simp only [handle, TesterPresentService.handle]
    split
    · rfl
    · split
      · rfl
      · rfl
  | _ => rfl

end Service

end Uds
