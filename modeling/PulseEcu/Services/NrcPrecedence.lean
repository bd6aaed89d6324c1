import PulseEcu.Services.NrcOrder

open Foundation

namespace Uds

variable {ω : Type} (target : Target) (req : Region Byte) (reqLen : Nat) (resp : Region Byte) (respLen : Nat)
  (session : UdsSession) (world : ω)

namespace SecurityAccessService

variable (svc : SecurityAccessService ω)

def faults : Faults :=
  ⟨reqLen < 2, svc.findLevel (req 1) = none,
    ∃ lvl, svc.findLevel (req 1) = some lvl ∧ lvl.cfg.requiredSession ≠ session.session, False⟩

/-- A level that is locked out is refused for that before its session is looked at. -/
def Overtaken : Prop :=
  2 ≤ reqLen ∧ ∃ lvl, svc.findLevel (req 1) = some lvl ∧ svc.LockedOut lvl ∧ lvl.cfg.requiredSession ≠ session.session

theorem requestSeed_documented {f : Faults} (none : ¬ f.Any) (lvl : LevelState ω) (subFunc : Byte) :
    Documented f serviceId (svc.requestSeed lvl subFunc resp world).toAnswer := by
  have first : ∀ seed, ((resp.store 0 [serviceId + 0x40, subFunc]).store 2 seed) 0 = serviceId + 0x40 :=
    fun seed => Region.store_before _ 2 0 seed Nat.two_pos
  simp only [requestSeed]
  split
  · exact .positive none (first (List.replicate lvl.cfg.seedLen.toNat 0)) (Nat.add_pos_left Nat.two_pos _) (by decide)
  · apply Documented.positive none _ (Nat.add_pos_left Nat.two_pos _) (by decide)
    exact first ((lvl.cfg.generateSeed lvl.seed 16 world).1.1.load 0 (lvl.cfg.generateSeed lvl.seed 16 world).1.2)

theorem sendKey_documented {f : Faults} (none : ¬ f.Any) (lvl : LevelState ω) (subFunc : Byte) :
    Documented f serviceId (svc.sendKey lvl subFunc req reqLen resp world).toAnswer := by
  simp only [sendKey]
  split
  · exact .refusal (.other none _ (by decide))
  · split
    · split
      · exact .refusal (.other none _ (by decide))
      · exact .refusal (.other none _ (by decide))
    · exact .positive none rfl Nat.two_pos (by decide)

theorem handle_documented_iff :
    Documented (svc.faults req reqLen session) serviceId (svc.handle req reqLen resp respLen session world).toAnswer ↔
      ¬ svc.Overtaken req reqLen session := by
  unfold handle
  by_cases short : reqLen < 2
  · rw [if_pos short]
    apply iff_of_true
    · exact .refusal (.length short)
    · exact fun overtaken => absurd short (Nat.not_lt.mpr overtaken.1)
  · rw [if_neg short]
    dsimp only
    cases found : svc.findLevel (req 1) with
    | none =>
      apply iff_of_true
      · exact .refusal (.subFunction short found)
      · exact fun ⟨_, _, known, _⟩ => nomatch found.symm.trans known
    | some lvl =>
      have only : ∀ other, svc.findLevel (req 1) = some other → other = lvl :=
        fun other known => Option.some.inj (known.symm.trans found)
      have known : ¬ (svc.faults req reqLen session).subFunction := fun unknown => nomatch found.symm.trans unknown
      dsimp only
      by_cases gated : lvl.cfg.requiredSession ≠ session.session
      · have fault : (svc.faults req reqLen session).session := ⟨lvl, found, gated⟩
        by_cases locked : lvl.lockedUntil ≠ 0 ∧ svc.currentTick < lvl.lockedUntil
        · rw [if_pos locked]
          apply iff_of_false
          · intro documented
            exact ((negative_documented ..).mp documented).of_session fault rfl
          · exact not_not_intro ⟨Nat.le_of_not_lt short, lvl, found, locked, gated⟩
        · rw [if_neg locked, if_pos gated]
          apply iff_of_true
          · exact .refusal (.session short known fault)
          · intro overtaken
            obtain ⟨_, other, same, out, _⟩ := overtaken
            exact locked (only other same ▸ out)
      · have none : ¬ (svc.faults req reqLen session).Any :=
          Faults.none_of short known (fun ⟨other, same, wrong⟩ => gated (only other same ▸ wrong)) id
        have onTime : ¬ svc.Overtaken req reqLen session :=
          fun ⟨_, other, same, _, wrong⟩ => gated (only other same ▸ wrong)
        apply iff_of_true _ onTime
        rw [if_neg gated]
        split
        · exact .refusal (.other none _ (by decide))
        · split
          · exact requestSeed_documented resp world svc none lvl (req 1)
          · exact sendKey_documented req reqLen resp world svc none lvl (req 1)

end SecurityAccessService

namespace RoutineControlService

/-- The routine has no function for the start or the stop that is asked for. Without a function for its
    results it is refused with another code. -/
def LacksFunction (rtn : RoutineEntry ω) (sub : Byte) : Prop :=
  sub = RoutineSubFunc.startRoutine ∧ rtn.start = none ∨ sub = RoutineSubFunc.stopRoutine ∧ rtn.stop = none

variable (svc : RoutineControlService ω)

def faults : Faults :=
  ⟨reqLen < 4,
    (req 1 < 0x01 ∨ req 1 > 0x03) ∨
      ∃ rtn, svc.findRoutine (identifierAt req 2) = some rtn ∧ LacksFunction rtn (req 1),
    ∃ rtn, svc.findRoutine (identifierAt req 2) = some rtn ∧ rtn.requiredSession ≠ .default ∧
      rtn.requiredSession ≠ session.session,
    False⟩

/-- The session of a routine is looked at before its functions are. -/
def Overtaken : Prop :=
  4 ≤ reqLen ∧ ∃ rtn, svc.findRoutine (identifierAt req 2) = some rtn ∧ LacksFunction rtn (req 1) ∧
    rtn.requiredSession ≠ .default ∧ rtn.requiredSession ≠ session.session

theorem lacksFunction_start {rtn : RoutineEntry ω} : LacksFunction rtn RoutineSubFunc.startRoutine ↔ rtn.start = none := by
  simp [LacksFunction, RoutineSubFunc.startRoutine, RoutineSubFunc.stopRoutine]

theorem lacksFunction_stop {rtn : RoutineEntry ω} : LacksFunction rtn RoutineSubFunc.stopRoutine ↔ rtn.stop = none := by
  simp [LacksFunction, RoutineSubFunc.startRoutine, RoutineSubFunc.stopRoutine]

theorem conclude_documented {f : Faults} (none : ¬ f.Any) {header : Region Byte} (first : header 0 = serviceId + 0x40)
    (call : Bool → RoutineCall) (result : Filled × ω) :
    Documented f serviceId (conclude header call result).toAnswer := by
  unfold conclude
  split
  · have kept := (Region.graft_before header result.1.cells 4 0 (by decide)).trans first
    exact .positive none kept (Nat.add_pos_left (Nat.succ_pos 3) _) (by decide)
  · exact .refusal (.other none _ (by decide))

theorem handle_documented_iff :
    Documented (svc.faults req reqLen session) serviceId (svc.handle req reqLen resp respLen session world).toAnswer ↔
      ¬ svc.Overtaken req reqLen session := by
  unfold handle
  by_cases short : reqLen < 4
  · rw [if_pos short]
    apply iff_of_true
    · exact .refusal (.length short)
    · exact fun overtaken => absurd short (Nat.not_lt.mpr overtaken.1)
  · rw [if_neg short]
    dsimp only
    by_cases outside : req 1 < 0x01 ∨ req 1 > 0x03
    · rw [if_pos outside]
      apply iff_of_true
      · exact .refusal (.subFunction short (Or.inl outside))
      · intro overtaken
        obtain ⟨_, rtn, _, ⟨start, _⟩ | ⟨stop, _⟩, _⟩ := overtaken
        · rw [start] at outside
          exact absurd outside (by decide)
        · rw [stop] at outside
          exact absurd outside (by decide)
    · rw [if_neg outside]
      cases found : svc.findRoutine (identifierAt req 2) with
      | none =>
        apply iff_of_true
        · have known : ¬ (svc.faults req reqLen session).subFunction :=
            not_or.mpr ⟨outside, fun ⟨_, same, _⟩ => nomatch found.symm.trans same⟩
          have none : ¬ (svc.faults req reqLen session).Any :=
            Faults.none_of short known (fun ⟨_, same, _⟩ => nomatch found.symm.trans same) id
          exact .refusal (.other none _ (by decide))
        · exact fun ⟨_, _, same, _⟩ => nomatch found.symm.trans same
      | some rtn =>
        have only : ∀ other, svc.findRoutine (identifierAt req 2) = some other → other = rtn :=
          fun other same => Option.some.inj (same.symm.trans found)
        dsimp only
        by_cases gated : rtn.requiredSession ≠ .default ∧ rtn.requiredSession ≠ session.session
        · rw [if_pos gated]
          have fault : (svc.faults req reqLen session).session := ⟨rtn, found, gated⟩
          apply (negative_documented ..).trans
          constructor
          · intro prescribes overtaken
            obtain ⟨_, other, same, lacks, _⟩ := overtaken
            exact absurd (prescribes.of_subFunction (Or.inr ⟨other, same, lacks⟩)) (by decide)
          · intro onTime
            apply Faults.Prescribes.session short _ fault
            intro unknown
            rcases unknown with unknown | ⟨other, same, lacks⟩
            · exact outside unknown
            · rw [only other same] at lacks
              exact onTime ⟨Nat.le_of_not_lt short, rtn, found, lacks, gated⟩
        · rw [if_neg gated]
          have allowed : ¬ (svc.faults req reqLen session).session :=
            fun ⟨other, same, wrong⟩ => gated (only other same ▸ wrong)
          have onTime : ¬ svc.Overtaken req reqLen session :=
            fun ⟨_, other, same, _, wrong⟩ => gated (only other same ▸ wrong)
          apply iff_of_true _ onTime
          have lacking : ∀ header, LacksFunction rtn (req 1) →
              Documented (svc.faults req reqLen session) serviceId
                (negative header serviceId .subFunctionNotSupported world ([] : List RoutineCall)).toAnswer :=
            fun header lacks => .refusal (.subFunction short (Or.inr ⟨rtn, found, lacks⟩))
          have offered : ¬ LacksFunction rtn (req 1) → ¬ (svc.faults req reqLen session).Any := by
            intro offers
            apply Faults.none_of short _ allowed id
            exact not_or.mpr ⟨outside, fun ⟨other, same, lacks⟩ => offers (only other same ▸ lacks)⟩
          by_cases start : req 1 = RoutineSubFunc.startRoutine
          · rw [if_pos start]
            rw [start, lacksFunction_start] at lacking offered
            cases given : rtn.start with
            | none => exact lacking _ given
            | some function => exact conclude_documented (offered (by simp [given])) rfl ..
          · rw [if_neg start]
            by_cases stop : req 1 = RoutineSubFunc.stopRoutine
            · rw [if_pos stop]
              rw [stop, lacksFunction_stop] at lacking offered
              cases given : rtn.stop with
              | none => exact lacking _ given
              | some function => exact conclude_documented (offered (by simp [given])) rfl ..
            · rw [if_neg stop]
              have none := offered fun lacks => lacks.elim (fun asked => start asked.1) fun asked => stop asked.1
              cases rtn.results with
              | none => exact .refusal (.other none _ (by decide))
              | some function => exact conclude_documented none rfl ..

end RoutineControlService

namespace RequestDownloadService

variable (svc : RequestDownloadService ω)

def faults : Faults :=
  ⟨reqLen < 3 ∨ reqLen < 3 + addrLenOf (req 2) + sizeLenOf (req 2), False, session.session ≠ .programming, False⟩

/-- Whether the announced fields are there is looked at last. -/
def Overtaken : Prop :=
  3 ≤ reqLen ∧ reqLen < 3 + addrLenOf (req 2) + sizeLenOf (req 2) ∧ (session.session ≠ .programming ∨ svc.active = true)

theorem handle_documented_iff :
    Documented (faults req reqLen session) serviceId
        (svc.handle target req reqLen resp respLen session world).toAnswer ↔
      ¬ svc.Overtaken req reqLen session := by
  unfold handle
  by_cases short : reqLen < 3
  · rw [if_pos short]
    apply iff_of_true
    · exact .refusal (.length (Or.inl short))
    · exact fun overtaken => absurd short (Nat.not_lt.mpr overtaken.1)
  · rw [if_neg short]
    have long := Nat.le_of_not_lt short
    by_cases fields : reqLen < 3 + addrLenOf (req 2) + sizeLenOf (req 2)
    · have fault : (faults req reqLen session).length := Or.inr fields
      by_cases gated : session.session ≠ .programming
      · rw [if_pos gated]
        apply iff_of_false
        · exact fun documented => nomatch ((negative_documented ..).mp documented).of_length fault
        · exact not_not_intro ⟨long, fields, Or.inl gated⟩
      · rw [if_neg gated]
        by_cases active : svc.active = true
        · rw [if_pos active]
          apply iff_of_false
          · exact fun documented => nomatch ((negative_documented ..).mp documented).of_length fault
          · exact not_not_intro ⟨long, fields, Or.inr active⟩
        · rw [if_neg active, if_pos fields]
          apply iff_of_true
          · exact .refusal (.length fault)
          · exact fun overtaken => overtaken.2.2.elim gated active
    · apply iff_of_true _ fun overtaken => fields overtaken.2.1
      have inside : ¬ (faults req reqLen session).length := not_or.mpr ⟨short, fields⟩
      by_cases gated : session.session ≠ .programming
      · rw [if_pos gated]
        exact .refusal (.session inside id gated)
      · rw [if_neg gated, if_neg fields]
        have none : ¬ (faults req reqLen session).Any := Faults.none_of inside id gated id
        split
        · exact .refusal (.other none _ (by decide))
        · cases svc.callback with
          | none => exact .refusal (.other none _ (by decide))
          | some callback =>
            dsimp only
            split
            · exact .positive none rfl (Nat.succ_pos 3) (by decide)
            · exact .refusal (.other none _ (by decide))

end RequestDownloadService

namespace RequestUploadService

variable (svc : RequestUploadService ω)

def faults : Faults :=
  ⟨reqLen < 3 ∨ reqLen < 3 + addrLenOf (req 2) + sizeLenOf (req 2), False, False, False⟩

def Overtaken : Prop :=
  3 ≤ reqLen ∧ reqLen < 3 + addrLenOf (req 2) + sizeLenOf (req 2) ∧ svc.active = true

theorem handle_documented_iff :
    Documented (faults req reqLen) serviceId (svc.handle target req reqLen resp respLen session world).toAnswer ↔
      ¬ svc.Overtaken req reqLen := by
  unfold handle
  by_cases short : reqLen < 3
  · rw [if_pos short]
    apply iff_of_true
    · exact .refusal (.length (Or.inl short))
    · exact fun overtaken => absurd short (Nat.not_lt.mpr overtaken.1)
  · rw [if_neg short]
    by_cases fields : reqLen < 3 + addrLenOf (req 2) + sizeLenOf (req 2)
    · have fault : (faults req reqLen).length := Or.inr fields
      by_cases active : svc.active = true
      · rw [if_pos active]
        apply iff_of_false
        · exact fun documented => nomatch ((negative_documented ..).mp documented).of_length fault
        · exact not_not_intro ⟨Nat.le_of_not_lt short, fields, active⟩
      · rw [if_neg active, if_pos fields]
        apply iff_of_true
        · exact .refusal (.length fault)
        · exact fun overtaken => active overtaken.2.2
    · apply iff_of_true _ fun overtaken => fields overtaken.2.1
      have none : ¬ (faults req reqLen).Any := Faults.none_of (not_or.mpr ⟨short, fields⟩) id id id
      rw [if_neg fields]
      split
      · exact .refusal (.other none _ (by decide))
      · cases svc.callback with
        | none => exact .refusal (.other none _ (by decide))
        | some callback =>
          dsimp only
          split
          · exact .positive none rfl (Nat.succ_pos 3) (by decide)
          · exact .refusal (.other none _ (by decide))

end RequestUploadService

namespace LinkControlService

variable (svc : LinkControlService ω)

def faults : Faults :=
  ⟨reqLen < 2 ∨ req 1 &&& 0x7F = LinkControlSubFunc.verifyBaudrateTransitionWithFixedBaudrate ∧ reqLen < 4,
    req 1 &&& 0x7F ≠ LinkControlSubFunc.verifyBaudrateTransitionWithFixedBaudrate ∧
      req 1 &&& 0x7F ≠ LinkControlSubFunc.transitionBaudrate,
    session.session = .default, False⟩

def Overtaken : Prop :=
  2 ≤ reqLen ∧ session.session = .default ∧
    (req 1 &&& 0x7F = LinkControlSubFunc.verifyBaudrateTransitionWithFixedBaudrate ∧ reqLen < 4 ∨
      req 1 &&& 0x7F ≠ LinkControlSubFunc.verifyBaudrateTransitionWithFixedBaudrate ∧
        req 1 &&& 0x7F ≠ LinkControlSubFunc.transitionBaudrate)

theorem handle_documented_iff :
    Documented (faults req reqLen session) serviceId (svc.handle req reqLen resp respLen session world).toAnswer ↔
      ¬ Overtaken req reqLen session := by
  unfold handle
  by_cases short : reqLen < 2
  · rw [if_pos short]
    apply iff_of_true
    · exact .refusal (.length (Or.inl short))
    · exact fun overtaken => absurd short (Nat.not_lt.mpr overtaken.1)
  · rw [if_neg short]
    have long := Nat.le_of_not_lt short
    dsimp only
    by_cases gated : session.session = .default
    · rw [if_pos gated]
      apply (negative_documented ..).trans
      constructor
      · intro prescribes overtaken
        obtain ⟨_, _, late | unknown⟩ := overtaken
        · exact nomatch prescribes.of_length (Or.inr late)
        · exact absurd (prescribes.of_subFunction unknown) (by decide)
      · intro onTime
        have inside : ¬ (faults req reqLen session).length :=
          not_or.mpr ⟨short, fun late => onTime ⟨long, gated, Or.inl late⟩⟩
        exact .session inside (fun unknown => onTime ⟨long, gated, Or.inr unknown⟩) gated
    · rw [if_neg gated]
      apply iff_of_true _ fun overtaken => gated overtaken.2.1
      by_cases verify : req 1 &&& 0x7F = LinkControlSubFunc.verifyBaudrateTransitionWithFixedBaudrate
      · rw [if_pos verify]
        by_cases noRate : reqLen < 4
        · rw [if_pos noRate]
          exact .refusal (.length (Or.inr ⟨verify, noRate⟩))
        · rw [if_neg noRate]
          have none : ¬ (faults req reqLen session).Any :=
            Faults.none_of (not_or.mpr ⟨short, fun late => noRate late.2⟩) (fun unknown => unknown.1 verify) gated id
          split
          · exact .refusal (.other none _ (by decide))
          · exact .positive none rfl Nat.two_pos (by decide)
      · rw [if_neg verify]
        have inside : ¬ (faults req reqLen session).length := not_or.mpr ⟨short, fun late => verify late.1⟩
        by_cases transition : req 1 &&& 0x7F = LinkControlSubFunc.transitionBaudrate
        · rw [if_pos transition]
          have none : ¬ (faults req reqLen session).Any :=
            Faults.none_of inside (fun unknown => unknown.2 transition) gated id
          split
          · exact .refusal (.other none _ (by decide))
          · cases svc.callback with
            | none => exact .positive none rfl Nat.two_pos (by decide)
            | some callback => exact .positive none rfl Nat.two_pos (by decide)
        · rw [if_neg transition]
          exact .refusal (.subFunction inside ⟨verify, transition⟩)

end LinkControlService

namespace Service

def faults (service : Service) (handlers : Handlers ω) : Faults :=
  match service with
  | diagnosticSessionControl => DiagnosticSessionControlService.faults req reqLen
  | ecuReset => EcuResetService.faults req reqLen
  | clearDiagnosticInformation => ClearDiagnosticInformationService.faults reqLen
  | readDtcInformation => ReadDtcInformationService.faults req reqLen
  | readDataByIdentifier => ReadDataByIdentifierService.faults reqLen
  | readMemoryByAddress => ReadMemoryByAddressService.faults req reqLen
  | securityAccess => handlers.securityAccess.faults req reqLen session
  | communicationControl => CommunicationControlService.faults req reqLen session
  | writeDataByIdentifier => handlers.writeData.faults req reqLen
  | inputOutputControlByIdentifier => handlers.ioControl.faults req reqLen session
  | routineControl => handlers.routineControl.faults req reqLen session
  | requestDownload => RequestDownloadService.faults req reqLen session
  | requestUpload => RequestUploadService.faults req reqLen
  | transferData => TransferDataService.faults reqLen
  | requestTransferExit => RequestTransferExitService.faults
  | writeMemoryByAddress => WriteMemoryByAddressService.faults target req reqLen
  | testerPresent => TesterPresentService.faults req reqLen
  | controlDtcSetting => ControlDtcSettingService.faults req reqLen session
  | responseOnEvent => ResponseOnEventService.faults req reqLen
  | linkControl => LinkControlService.faults req reqLen session

/-- A later check comes before the one that the request fails first in the documented order. -/
def Overtaken (service : Service) (handlers : Handlers ω) : Prop :=
  match service with
  | securityAccess => handlers.securityAccess.Overtaken req reqLen session
  | routineControl => handlers.routineControl.Overtaken req reqLen session
  | requestDownload => handlers.requestDownload.Overtaken req reqLen session
  | requestUpload => handlers.requestUpload.Overtaken req reqLen
  | linkControl => LinkControlService.Overtaken req reqLen session
  | _ => False

/-- Five of the twenty handlers check something before what the documentation puts first. -/
theorem nrc_precedence_iff (service : Service) (handlers : Handlers ω) :
    Documented (service.faults target req reqLen session handlers) service.serviceId
        (service.handle target (handlers, world) req reqLen resp respLen session).1.toAnswer ↔
      ¬ service.Overtaken req reqLen session handlers := by
  cases service with
  | securityAccess =>
    exact Documented.map_iff.trans (handlers.securityAccess.handle_documented_iff req reqLen resp respLen session world)
  | routineControl =>
    exact Documented.map_iff.trans (handlers.routineControl.handle_documented_iff req reqLen resp respLen session world)
  | requestDownload =>
    exact Documented.map_iff.trans
      (handlers.requestDownload.handle_documented_iff target req reqLen resp respLen session world)
  | requestUpload =>
    exact Documented.map_iff.trans
      (handlers.requestUpload.handle_documented_iff target req reqLen resp respLen session world)
  | linkControl =>
    exact Documented.map_iff.trans (handlers.linkControl.handle_documented_iff req reqLen resp respLen session world)
  | diagnosticSessionControl =>
    have documented := handlers.sessionControl.handle_documented req reqLen resp respLen session world
    exact iff_of_true (Documented.map_iff.mpr documented) id
  | ecuReset =>
    have documented := handlers.ecuReset.handle_documented req reqLen resp respLen session world
    exact iff_of_true (Documented.map_iff.mpr documented) id
  | clearDiagnosticInformation =>
    have documented := ClearDiagnosticInformationService.handle_documented req reqLen resp respLen session
      handlers.dtcManager
    exact iff_of_true (Documented.map_iff.mpr documented) id
  | readDtcInformation =>
    have documented := ReadDtcInformationService.handle_documented req reqLen resp respLen session handlers.dtcManager
    exact iff_of_true (Documented.map_iff.mpr documented) id
  | readDataByIdentifier =>
    have documented := handlers.readData.handle_documented req reqLen resp respLen session world
    exact iff_of_true (Documented.map_iff.mpr documented) id
  | readMemoryByAddress =>
    have documented := handlers.readMemory.handle_documented target req reqLen resp respLen session world
    exact iff_of_true (Documented.map_iff.mpr documented) id
  | communicationControl =>
    have documented := handlers.communicationControl.handle_documented req reqLen resp respLen session world
    exact iff_of_true (Documented.map_iff.mpr documented) id
  | writeDataByIdentifier =>
    have documented := handlers.writeData.handle_documented req reqLen resp respLen session world
    exact iff_of_true (Documented.map_iff.mpr documented) id
  | inputOutputControlByIdentifier =>
    have documented := handlers.ioControl.handle_documented req reqLen resp respLen session world
    exact iff_of_true (Documented.map_iff.mpr documented) id
  | transferData =>
    have documented := handlers.transferData.handle_documented req reqLen resp respLen session world
    exact iff_of_true (Documented.map_iff.mpr documented) id
  | requestTransferExit =>
    have documented := handlers.transferExit.handle_documented req reqLen resp respLen session world
      handlers.requestDownload handlers.transferData
    exact iff_of_true (Documented.map_iff.mpr documented) id
  | writeMemoryByAddress =>
    have documented := handlers.writeMemory.handle_documented target req reqLen resp respLen session world
    exact iff_of_true (Documented.map_iff.mpr documented) id
  | testerPresent =>
    have documented := TesterPresentService.handle_documented req reqLen resp respLen session world
    exact iff_of_true (Documented.map_iff.mpr documented) id
  | controlDtcSetting =>
    have documented := handlers.dtcSetting.handle_documented req reqLen resp respLen session world
    exact iff_of_true (Documented.map_iff.mpr documented) id
  | responseOnEvent =>
    have documented := handlers.responseOnEvent.handle_documented req reqLen resp respLen session
    exact iff_of_true (Documented.map_iff.mpr documented) id

def unknownLinkControl : Region Byte := (Region.fill 0).store 0 [0x87, 0x02]

theorem session_before_subFunction : ¬ ∀ (target : Target) (service : Service) (handlers : Handlers Unit) (world : Unit)
    (req : Region Byte) (reqLen : Nat) (resp : Region Byte) (respLen : Nat) (session : UdsSession),
    Documented (service.faults target req reqLen session handlers) service.serviceId
      (service.handle target (handlers, world) req reqLen resp respLen session).1.toAnswer := by
  intro always
  have documented := always .cortexM .linkControl Handlers.bare () unknownLinkControl 2 (Region.fill 0) 4096
    (.create kDefaultTiming)
  have prescribes := documented.code .serviceNotSupportedInActiveSession (by decide)
  have unknown : (Service.linkControl.faults .cortexM unknownLinkControl 2 (.create kDefaultTiming)
      (Handlers.bare : Handlers Unit)).subFunction := ⟨by decide, by decide⟩
  exact absurd (prescribes.of_subFunction unknown) (by decide)

end Service

end Uds
