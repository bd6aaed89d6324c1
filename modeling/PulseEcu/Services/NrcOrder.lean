import PulseEcu.Services.ServiceSet

open Foundation

namespace Uds

theorem NrcCode.toByte_inj {left right : NrcCode} (same : left.toByte = right.toByte) : left = right := by
  cases left <;> cases right <;> first | rfl | exact absurd same (by decide)

/-- The checks that a request fails, by the four kinds whose order is documented. -/
structure Faults where
  length : Prop
  subFunction : Prop
  session : Prop
  security : Prop

namespace Faults

def Any (f : Faults) : Prop := f.length ∨ f.subFunction ∨ f.session ∨ f.security

/-- The code of the first fault in the documented order. Without a fault of the four kinds it is the
    code of another condition. -/
inductive Prescribes (f : Faults) : NrcCode → Prop
  | length (fault : f.length) : Prescribes f .incorrectMessageLengthOrInvalidFormat
  | subFunction (long : ¬ f.length) (fault : f.subFunction) : Prescribes f .subFunctionNotSupported
  | session (long : ¬ f.length) (known : ¬ f.subFunction) (fault : f.session) :
      Prescribes f .serviceNotSupportedInActiveSession
  | security (long : ¬ f.length) (known : ¬ f.subFunction) (allowed : ¬ f.session) (fault : f.security) :
      Prescribes f .securityAccessDenied
  | other (none : ¬ f.Any) (nrc : NrcCode) (different : nrc ∉ [NrcCode.incorrectMessageLengthOrInvalidFormat,
      .subFunctionNotSupported, .serviceNotSupportedInActiveSession, .securityAccessDenied]) : Prescribes f nrc

variable {f : Faults}

theorem Prescribes.of_length {nrc : NrcCode} (prescribes : f.Prescribes nrc) (fault : f.length) :
    nrc = .incorrectMessageLengthOrInvalidFormat := by
  cases prescribes with
  | length => rfl
  | subFunction long => exact absurd fault long
  | session long => exact absurd fault long
  | security long => exact absurd fault long
  | other none => exact absurd (Or.inl fault) none

theorem Prescribes.of_subFunction {nrc : NrcCode} (prescribes : f.Prescribes nrc) (fault : f.subFunction) :
    nrc = .incorrectMessageLengthOrInvalidFormat ∨ nrc = .subFunctionNotSupported := by
  cases prescribes with
  | length => exact Or.inl rfl
  | subFunction => exact Or.inr rfl
  | session _ known => exact absurd fault known
  | security _ known => exact absurd fault known
  | other none => exact absurd (Or.inr (Or.inl fault)) none

theorem Prescribes.of_session {nrc : NrcCode} (prescribes : f.Prescribes nrc) (fault : f.session) :
    nrc ≠ .requiredTimeDelayNotExpired := by
  cases prescribes with
  | length => decide
  | subFunction => decide
  | session => decide
  | security _ _ allowed => exact absurd fault allowed
  | other none => exact absurd (Or.inr (Or.inr (Or.inl fault))) none

end Faults

/-- A request with faults is refused, and a refusal carries the code that the documentation prescribes. -/
structure Documented {σ : Type} (f : Faults) (sid : ServiceId) (answer : Answer σ) : Prop where
  refused : f.Any → answer.IsNegative sid
  code : ∀ nrc : NrcCode, answer.message = [ServiceId.negativeResponse, sid, nrc.toByte] → f.Prescribes nrc

section

variable {κ σ : Type} {f : Faults} {sid : ServiceId}

theorem negative_documented (resp : Region Byte) (nrc : NrcCode) (state : σ) (calls : List κ) :
    Documented f sid (negative resp sid nrc state calls).toAnswer ↔ f.Prescribes nrc := by
  have message := negative_message resp sid nrc state calls
  constructor
  · intro documented
    exact documented.code nrc message
  · intro prescribes
    apply Documented.mk
    · exact fun _ => negative_isNegative resp sid nrc state calls
    · intro other same
      have codes := List.cons.inj (List.cons.inj (List.cons.inj (message.symm.trans same)).2).2
      rw [← NrcCode.toByte_inj codes.1]
      exact prescribes

theorem Documented.refusal {resp : Region Byte} {nrc : NrcCode} {state : σ} {calls : List κ}
    (prescribes : f.Prescribes nrc) :
    Documented f sid (negative resp sid nrc state calls).toAnswer :=
  (negative_documented resp nrc state calls).mpr prescribes

theorem Documented.positive {answer : Answer σ} (none : ¬ f.Any) (first : answer.resp 0 = sid + 0x40)
    (nonempty : 0 < answer.respLen) (service : sid + 0x40 ≠ ServiceId.negativeResponse) : Documented f sid answer := by
  apply Documented.mk
  · intro any
    exact absurd any none
  · intro nrc message
    exact absurd ⟨nrc, message⟩ (positive_not_negative first nonempty service)

theorem Documented.map_iff {τ μ : Type} {handled : Handled κ σ} {state : σ → τ} {call : κ → μ} :
    Documented f sid (handled.map state call).toAnswer ↔ Documented f sid handled.toAnswer :=
  ⟨fun documented => ⟨documented.refused, documented.code⟩, fun documented => ⟨documented.refused, documented.code⟩⟩

end

theorem Faults.none_of {f : Faults} (long : ¬ f.length) (known : ¬ f.subFunction) (allowed : ¬ f.session)
    (unlocked : ¬ f.security) : ¬ f.Any := by
  intro any
  rcases any with fault | fault | fault | fault
  · exact long fault
  · exact known fault
  · exact allowed fault
  · exact unlocked fault

variable {ω : Type} (target : Target) (req : Region Byte) (reqLen : Nat) (resp : Region Byte) (respLen : Nat)
  (session : UdsSession) (world : ω)

namespace DiagnosticSessionControlService

def faults : Faults := ⟨reqLen < 2, req 1 &&& 0x7F < 0x01 ∨ req 1 &&& 0x7F > 0x03, False, False⟩

theorem handle_documented (svc : DiagnosticSessionControlService ω) :
    Documented (faults req reqLen) serviceId (svc.handle req reqLen resp respLen session world).1.toAnswer := by
  unfold handle
  by_cases short : reqLen < 2
  · rw [if_pos short]
    exact .refusal (.length short)
  · rw [if_neg short]
    dsimp only
    by_cases outside : req 1 &&& 0x7F < 0x01 ∨ req 1 &&& 0x7F > 0x03
    · rw [if_pos outside]
      exact .refusal (.subFunction short outside)
    · rw [if_neg outside]
      have none : ¬ (faults req reqLen).Any := Faults.none_of short outside id id
      split
      · cases svc.callback with
        | none => exact .positive none rfl (Nat.succ_pos 5) (by decide)
        | some callback => exact .positive none rfl (Nat.succ_pos 5) (by decide)
      · exact .refusal (.other none _ (by decide))

end DiagnosticSessionControlService

namespace EcuResetService

def faults : Faults := ⟨reqLen < 2, req 1 &&& 0x7F < 0x01 ∨ req 1 &&& 0x7F > 0x03, False, False⟩

theorem handle_documented (svc : EcuResetService ω) :
    Documented (faults req reqLen) serviceId (svc.handle req reqLen resp respLen session world).toAnswer := by
  unfold handle
  by_cases short : reqLen < 2
  · rw [if_pos short]
    exact .refusal (.length short)
  · rw [if_neg short]
    dsimp only
    by_cases outside : req 1 &&& 0x7F < 0x01 ∨ req 1 &&& 0x7F > 0x03
    · rw [if_pos outside]
      exact .refusal (.subFunction short outside)
    · rw [if_neg outside]
      have none : ¬ (faults req reqLen).Any := Faults.none_of short outside id id
      cases svc.callback with
      | none => exact .positive none rfl Nat.two_pos (by decide)
      | some callback => exact .positive none rfl Nat.two_pos (by decide)

end EcuResetService

namespace ClearDiagnosticInformationService

def faults : Faults := ⟨reqLen < 4, False, False, False⟩

theorem handle_documented (manager : Dtc.DtcManager) :
    Documented (faults reqLen) serviceId (handle req reqLen resp respLen session manager).toAnswer := by
  unfold handle
  by_cases short : reqLen < 4
  · rw [if_pos short]
    exact .refusal (.length short)
  · rw [if_neg short]
    exact .positive (Faults.none_of short id id id) rfl Nat.one_pos (by decide)

end ClearDiagnosticInformationService

namespace ReadDtcInformationService

def faults : Faults := ⟨reqLen < 2 ∨ Reports (req 1) ∧ reqLen < 3, ¬ Reports (req 1), False, False⟩

theorem handle_documented (manager : Dtc.DtcManager) :
    Documented (faults req reqLen) serviceId (handle req reqLen resp respLen session manager).toAnswer := by
  unfold handle
  by_cases short : reqLen < 2
  · rw [if_pos short]
    exact .refusal (.length (Or.inl short))
  · rw [if_neg short]
    dsimp only
    by_cases count : req 1 = ReadDtcSubFunc.reportNumberOfDtcByStatusMask
    · have reports : Reports (req 1) := Or.inl count
      rw [if_pos count]
      by_cases noMask : reqLen < 3
      · rw [if_pos noMask]
        exact .refusal (.length (Or.inr ⟨reports, noMask⟩))
      · rw [if_neg noMask]
        have none : ¬ (faults req reqLen).Any :=
          Faults.none_of (not_or.mpr ⟨short, fun late => noMask late.2⟩) (not_not_intro reports) id id
        exact .positive none rfl (Nat.succ_pos _) (by decide)
    · rw [if_neg count]
      by_cases list : req 1 = ReadDtcSubFunc.reportDtcByStatusMask ∨ req 1 = ReadDtcSubFunc.reportSupportedDtc
      · have reports : Reports (req 1) := Or.inr list
        rw [if_pos list]
        by_cases noMask : reqLen < 3
        · rw [if_pos noMask]
          exact .refusal (.length (Or.inr ⟨reports, noMask⟩))
        · rw [if_neg noMask]
          have none : ¬ (faults req reqLen).Any :=
            Faults.none_of (not_or.mpr ⟨short, fun late => noMask late.2⟩) (not_not_intro reports) id id
          have written := handleReportByStatus_written ((resp.store 0 [serviceId + 0x40, req 1]).store 2 [0xFF]) manager
            (req 2) respLen
          exact .positive none written.first written.started (by decide)
      · have unknown : ¬ Reports (req 1) := not_or.mpr ⟨count, list⟩
        rw [if_neg list]
        exact .refusal (.subFunction (not_or.mpr ⟨short, fun late => unknown late.1⟩) unknown)

end ReadDtcInformationService

namespace ReadDataByIdentifierService

def faults : Faults := ⟨reqLen < 3 ∨ (reqLen - 1) % 2 ≠ 0, False, False, False⟩

/-- None of the codes that the loop over the identifiers gives is one of the four kinds. -/
theorem readDids_documented (svc : ReadDataByIdentifierService ω) {f : Faults} (none : ¬ f.Any) (left i : Nat)
    (first : resp 0 = serviceId + 0x40) (pos : Nat) (started : 1 ≤ pos) (calls : List ReadDidCall) :
    Documented f serviceId (svc.readDids req respLen left i resp pos world calls).toAnswer := by
  induction left generalizing i resp pos world calls with
  | zero => exact .positive none first started (by decide)
  | succ left ih =>
    simp only [readDids]
    split
    · exact .refusal (.other none _ (by decide))
    · split
      · exact .refusal (.other none _ (by decide))
      · split
        · exact .refusal (.other none _ (by decide))
        · split
          · exact .refusal (.other none _ (by decide))
          · apply ih
            · rw [Region.graft_before _ _ _ _ (Nat.succ_pos _), Region.store_before _ _ _ _ started]
              exact first
            · omega

theorem handle_documented (svc : ReadDataByIdentifierService ω) :
    Documented (faults reqLen) serviceId (svc.handle req reqLen resp respLen session world).toAnswer := by
  unfold handle
  by_cases short : reqLen < 3 ∨ (reqLen - 1) % 2 ≠ 0
  · rw [if_pos short]
    exact .refusal (.length short)
  · rw [if_neg short]
    exact svc.readDids_documented req _ respLen world (Faults.none_of short id id id) _ 0 rfl 1 (Nat.le_refl 1) []

end ReadDataByIdentifierService

namespace ReadMemoryByAddressService

def faults : Faults :=
  ⟨reqLen < 3 ∨ addrLenOf (req 1) = 0 ∨ sizeLenOf (req 1) = 0 ∨ reqLen < 2 + addrLenOf (req 1) + sizeLenOf (req 1),
    False, False, False⟩

theorem handle_documented (svc : ReadMemoryByAddressService ω) :
    Documented (faults req reqLen) serviceId (svc.handle target req reqLen resp respLen session world).toAnswer := by
  unfold handle
  by_cases short : reqLen < 3
  · rw [if_pos short]
    exact .refusal (.length (Or.inl short))
  · rw [if_neg short]
    dsimp only
    by_cases late : addrLenOf (req 1) = 0 ∨ sizeLenOf (req 1) = 0 ∨ reqLen < 2 + addrLenOf (req 1) + sizeLenOf (req 1)
    · rw [if_pos late]
      exact .refusal (.length (Or.inr late))
    · rw [if_neg late]
      have none : ¬ (faults req reqLen).Any := Faults.none_of (not_or.mpr ⟨short, late⟩) id id id
      split
      · exact .refusal (.other none _ (by decide))
      · cases svc.callback with
        | none => exact .refusal (.other none _ (by decide))
        | some callback =>
          dsimp only
          split
          · exact .refusal (.other none _ (by decide))
          · have kept := Region.graft_before (resp.store 0 [serviceId + 0x40]) (ask target req resp world callback).1.1 1 0
              Nat.one_pos
            exact .positive none kept (Nat.add_pos_left Nat.one_pos _) (by decide)

end ReadMemoryByAddressService

namespace CommunicationControlService

def faults : Faults := ⟨reqLen < 3, req 1 &&& 0x7F > 0x03, session.session = .default, False⟩

theorem handle_documented (svc : CommunicationControlService ω) :
    Documented (faults req reqLen session) serviceId (svc.handle req reqLen resp respLen session world).toAnswer := by
  unfold handle
  by_cases short : reqLen < 3
  · rw [if_pos short]
    exact .refusal (.length short)
  · rw [if_neg short]
    dsimp only
    by_cases outside : req 1 &&& 0x7F > 0x03
    · rw [if_pos outside]
      exact .refusal (.subFunction short outside)
    · rw [if_neg outside]
      by_cases gated : session.session = .default
      · rw [if_pos gated]
        exact .refusal (.session short outside gated)
      · rw [if_neg gated]
        have none : ¬ (faults req reqLen session).Any := Faults.none_of short outside gated id
        cases svc.callback with
        | none => exact .positive none rfl Nat.two_pos (by decide)
        | some callback => exact .positive none rfl Nat.two_pos (by decide)

end CommunicationControlService

namespace WriteDataByIdentifierService

variable (svc : WriteDataByIdentifierService ω)

def faults : Faults :=
  ⟨reqLen < 4, False, False,
    ∃ did, svc.findDid (identifierAt req 1) = some did ∧ (did.writable = false ∨ did.writeFn = none)⟩

theorem handle_documented :
    Documented (svc.faults req reqLen) serviceId (svc.handle req reqLen resp respLen session world).toAnswer := by
  unfold handle
  by_cases short : reqLen < 4
  · rw [if_pos short]
    exact .refusal (.length short)
  · rw [if_neg short]
    dsimp only
    cases found : svc.findDid (identifierAt req 1) with
    | none =>
      have none : ¬ (svc.faults req reqLen).Any :=
        Faults.none_of short id id fun ⟨_, known, _⟩ => nomatch found.symm.trans known
      exact .refusal (.other none _ (by decide))
    | some did =>
      have denied : did.writable = false ∨ did.writeFn = none → (svc.faults req reqLen).Prescribes .securityAccessDenied :=
        fun locked => .security short id id ⟨did, found, locked⟩
      dsimp only
      cases writable : did.writable with
      | false => exact .refusal (denied (Or.inl writable))
      | true =>
        cases given : did.writeFn with
        | none => exact .refusal (denied (Or.inr given))
        | some writeFn =>
          have unlocked : ¬ (svc.faults req reqLen).security := by
            intro fault
            obtain ⟨other, known, locked⟩ := fault
            rw [Option.some.inj (known.symm.trans found), writable, given] at locked
            rcases locked with locked | locked <;> cases locked
          have none : ¬ (svc.faults req reqLen).Any := Faults.none_of short id id unlocked
          dsimp only
          split
          · exact .positive none rfl (Nat.succ_pos 2) (by decide)
          · exact .refusal (.other none _ (by decide))

end WriteDataByIdentifierService

namespace InputOutputControlByIdentifierService

variable (svc : InputOutputControlByIdentifierService ω)

def faults : Faults :=
  ⟨reqLen < 4, False, ∃ ctrl, svc.find (identifierAt req 1) = some ctrl ∧ ctrl.requiredSession ≠ .default ∧
    ctrl.requiredSession ≠ session.session, False⟩

theorem handle_documented :
    Documented (svc.faults req reqLen session) serviceId (svc.handle req reqLen resp respLen session world).toAnswer := by
  unfold handle
  by_cases short : reqLen < 4
  · rw [if_pos short]
    exact .refusal (.length short)
  · rw [if_neg short]
    dsimp only
    cases found : svc.find (identifierAt req 1) with
    | none =>
      have none : ¬ (svc.faults req reqLen session).Any :=
        Faults.none_of short id (fun ⟨_, known, _⟩ => nomatch found.symm.trans known) id
      exact .refusal (.other none _ (by decide))
    | some ctrl =>
      dsimp only
      by_cases gated : ctrl.requiredSession ≠ .default ∧ ctrl.requiredSession ≠ session.session
      · rw [if_pos gated]
        have fault : (svc.faults req reqLen session).session := ⟨ctrl, found, gated⟩
        exact .refusal (.session short id fault)
      · rw [if_neg gated]
        have allowed : ¬ (svc.faults req reqLen session).session := by
          intro fault
          obtain ⟨other, known, wrong⟩ := fault
          rw [Option.some.inj (known.symm.trans found)] at wrong
          exact gated wrong
        have none : ¬ (svc.faults req reqLen session).Any := Faults.none_of short id allowed id
        split
        · exact .positive none rfl (Nat.add_pos_left (Nat.succ_pos 3) _) (by decide)
        · exact .refusal (.other none _ (by decide))

end InputOutputControlByIdentifierService

namespace TransferDataService

def faults : Faults := ⟨reqLen < 2, False, False, False⟩

theorem handle_documented (svc : TransferDataService ω) :
    Documented (faults reqLen) serviceId (svc.handle req reqLen resp respLen session world).toAnswer := by
  unfold handle
  by_cases short : reqLen < 2
  · rw [if_pos short]
    exact .refusal (.length short)
  · rw [if_neg short]
    have none : ¬ (faults reqLen).Any := Faults.none_of short id id id
    split
    · exact .refusal (.other none _ (by decide))
    · dsimp only
      split
      · exact .refusal (.other none _ (by decide))
      · cases svc.callback with
        | none => exact .positive none rfl Nat.two_pos (by decide)
        | some callback =>
          dsimp only
          split
          · exact .positive none rfl Nat.two_pos (by decide)
          · exact .refusal (.other none _ (by decide))

end TransferDataService

namespace RequestTransferExitService

def faults : Faults := ⟨False, False, False, False⟩

theorem handle_documented {δ τ : Type} (svc : RequestTransferExitService ω) (dl : RequestDownloadService δ)
    (td : TransferDataService τ) :
    Documented faults serviceId (svc.handle req reqLen resp respLen session (dl, td, world)).toAnswer := by
  have none : ¬ faults.Any := Faults.none_of id id id id
  cases svc.handle_turn req reqLen resp respLen session dl td world with
  | denied _ same =>
    rw [same]
    exact .refusal (.other none _ (by decide))
  | failed callback _ _ _ same =>
    rw [same]
    exact .refusal (.other none _ (by decide))
  | silent _ _ same =>
    rw [same]
    exact .positive none rfl Nat.one_pos (by decide)
  | closed callback _ _ _ same =>
    have kept := Region.graft_before (resp.store 0 [serviceId + 0x40]) (ask req reqLen resp respLen world callback).1.2.1
      1 0 Nat.one_pos
    rw [same]
    exact .positive none kept (Nat.add_pos_left Nat.one_pos _) (by decide)

end RequestTransferExitService

namespace WriteMemoryByAddressService

def faults : Faults :=
  ⟨reqLen < 3 ∨ (addrLenOf (req 1) = 0 ∨ sizeLenOf (req 1) = 0 ∨ reqLen < 2 + addrLenOf (req 1) + sizeLenOf (req 1)) ∨
    reqLen < (BitVec.ofNat target.sizeBits (dataStart req) + parseSize req 2 (req 1) target).toNat, False, False, False⟩

theorem handle_documented (svc : WriteMemoryByAddressService ω) :
    Documented (faults target req reqLen) serviceId
      (svc.handle target req reqLen resp respLen session world).toAnswer := by
  unfold handle
  by_cases short : reqLen < 3
  · rw [if_pos short]
    exact .refusal (.length (Or.inl short))
  · rw [if_neg short]
    dsimp only
    by_cases late : addrLenOf (req 1) = 0 ∨ sizeLenOf (req 1) = 0 ∨ reqLen < 2 + addrLenOf (req 1) + sizeLenOf (req 1)
    · rw [if_pos late]
      exact .refusal (.length (Or.inr (Or.inl late)))
    · rw [if_neg late]
      by_cases beyond : reqLen < (BitVec.ofNat target.sizeBits (dataStart req) + parseSize req 2 (req 1) target).toNat
      · rw [if_pos beyond]
        exact .refusal (.length (Or.inr (Or.inr beyond)))
      · rw [if_neg beyond]
        have inside : ¬ (faults target req reqLen).length := not_or.mpr ⟨short, not_or.mpr ⟨late, beyond⟩⟩
        have none : ¬ (faults target req reqLen).Any := Faults.none_of inside id id id
        cases svc.callback with
        | none => exact .refusal (.other none _ (by decide))
        | some callback =>
          dsimp only
          split
          · exact .positive none rfl (Nat.add_pos_left Nat.two_pos _) (by decide)
          · exact .refusal (.other none _ (by decide))

end WriteMemoryByAddressService

namespace TesterPresentService

def faults : Faults := ⟨reqLen < 2, req 1 &&& 0x7F ≠ 0x00, False, False⟩

theorem handle_documented :
    Documented (faults req reqLen) serviceId (handle req reqLen resp respLen session world).1.toAnswer := by
  unfold handle
  by_cases short : reqLen < 2
  · rw [if_pos short]
    exact .refusal (.length short)
  · rw [if_neg short]
    dsimp only
    by_cases other : req 1 &&& 0x7F ≠ 0x00
    · rw [if_pos other]
      exact .refusal (.subFunction short other)
    · rw [if_neg other]
      exact .positive (Faults.none_of short other id id) rfl Nat.two_pos (by decide)

end TesterPresentService

namespace ControlDtcSettingService

def faults : Faults :=
  ⟨reqLen < 2, req 1 &&& 0x7F ≠ 0x01 ∧ req 1 &&& 0x7F ≠ 0x02, session.session = .default, False⟩

theorem handle_documented (svc : ControlDtcSettingService ω) :
    Documented (faults req reqLen session) serviceId (svc.handle req reqLen resp respLen session world).toAnswer := by
  unfold handle
  by_cases short : reqLen < 2
  · rw [if_pos short]
    exact .refusal (.length short)
  · rw [if_neg short]
    dsimp only
    by_cases other : req 1 &&& 0x7F ≠ 0x01 ∧ req 1 &&& 0x7F ≠ 0x02
    · rw [if_pos other]
      exact .refusal (.subFunction short other)
    · rw [if_neg other]
      by_cases gated : session.session = .default
      · rw [if_pos gated]
        exact .refusal (.session short other gated)
      · rw [if_neg gated]
        have none : ¬ (faults req reqLen session).Any := Faults.none_of short other gated id
        cases svc.callback with
        | none => exact .positive none rfl Nat.two_pos (by decide)
        | some callback => exact .positive none rfl Nat.two_pos (by decide)

end ControlDtcSettingService

namespace ResponseOnEventService

def faults : Faults :=
  ⟨reqLen < 4, ¬ (req 1 &&& 0x7F = RoeSubFunc.stopResponseOnEvent ∨ req 1 &&& 0x7F = RoeSubFunc.startResponseOnEvent ∨
    req 1 &&& 0x7F = RoeSubFunc.clearResponseOnEvent), False, False⟩

theorem handle_documented (svc : ResponseOnEventService) :
    Documented (faults req reqLen) serviceId (svc.handle req reqLen resp respLen session).toAnswer := by
  unfold handle
  by_cases short : reqLen < 4
  · rw [if_pos short]
    exact .refusal (.length short)
  · rw [if_neg short]
    dsimp only
    by_cases stop : req 1 &&& 0x7F = RoeSubFunc.stopResponseOnEvent
    · rw [if_pos stop]
      exact .positive (Faults.none_of short (not_not_intro (Or.inl stop)) id id) rfl (Nat.succ_pos 3) (by decide)
    · rw [if_neg stop]
      by_cases start : req 1 &&& 0x7F = RoeSubFunc.startResponseOnEvent
      · rw [if_pos start]
        exact .positive (Faults.none_of short (not_not_intro (Or.inr (Or.inl start))) id id) rfl (Nat.succ_pos 3)
          (by decide)
      · rw [if_neg start]
        by_cases clear : req 1 &&& 0x7F = RoeSubFunc.clearResponseOnEvent
        · rw [if_pos clear]
          exact .positive (Faults.none_of short (not_not_intro (Or.inr (Or.inr clear))) id id) rfl (Nat.succ_pos 3)
            (by decide)
        · rw [if_neg clear]
          exact .refusal
            (.subFunction short fun known => known.elim stop fun known => known.elim start clear)

end ResponseOnEventService

end Uds
