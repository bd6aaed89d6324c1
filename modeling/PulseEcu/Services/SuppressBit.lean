import PulseEcu.Services.ServiceSet

open Foundation

namespace Uds

def suppressing (req : Region Byte) : Region Byte := req.store 1 [req 1 ||| 0x80]

def plain (req : Region Byte) : Region Byte := req.store 1 [req 1 &&& 0x7F]

section

variable (req : Region Byte)

theorem suppressing_sub : suppressing req 1 &&& 0x7F = req 1 &&& 0x7F := by
  show (req 1 ||| 0x80) &&& 0x7F = req 1 &&& 0x7F
  generalize req 1 = b
  revert b
  decide +kernel

theorem plain_sub : plain req 1 &&& 0x7F = req 1 &&& 0x7F := by
  show (req 1 &&& 0x7F) &&& 0x7F = req 1 &&& 0x7F
  rw [BitVec.and_assoc, BitVec.and_self]

theorem suppressing_bit : decide (suppressing req 1 &&& 0x80 ≠ 0) = true := by
  show decide ((req 1 ||| 0x80) &&& 0x80 ≠ 0) = true
  generalize req 1 = b
  revert b
  decide +kernel

theorem plain_bit : decide (plain req 1 &&& 0x80 ≠ 0) = false := by
  show decide ((req 1 &&& 0x7F) &&& 0x80 ≠ 0) = false
  generalize req 1 = b
  revert b
  decide +kernel

theorem suppressing_advance : (suppressing req).advance 2 = (plain req).advance 2 := by
  funext i
  have beyond : 1 + 1 ≤ 2 + i := by omega
  show suppressing req (2 + i) = plain req (2 + i)
  rw [suppressing, plain, Region.store_beyond _ _ _ _ beyond, Region.store_beyond _ _ _ _ beyond]

theorem suppressing_at (i : Nat) : suppressing req (2 + i) = plain req (2 + i) :=
  congrFun (suppressing_advance req) i

theorem suppressing_load (count : Nat) : (suppressing req).load 2 count = (plain req).load 2 count :=
  Region.load_congr fun i _ => suppressing_at req i

end

inductive Withheld {κ σ : Type} (sid : ServiceId) (set cleared : Handled κ σ) : Prop
  | refused (same : set = cleared) (no : cleared.IsNegative sid)
  | answered (silent : set.send = false) (same : cleared = { set with send := true })
      (first : cleared.resp 0 = sid + 0x40) (nonempty : 0 < cleared.respLen)

section

variable {κ μ σ τ : Type} {sid : ServiceId} {set cleared : Handled κ σ}

theorem Withheld.refuse (resp : Region Byte) (nrc : NrcCode) (state : σ) (calls : List κ) :
    Withheld sid (negative resp sid nrc state calls) (negative resp sid nrc state calls) :=
  .refused rfl (negative_isNegative ..)

theorem Withheld.answer (resp : Region Byte) (bytes : List Byte) (respLen : Nat) (state : σ) (calls : List κ)
    (nonempty : 0 < respLen) :
    Withheld sid ⟨⟨!true, resp.store 0 ((sid + 0x40) :: bytes), respLen, state⟩, calls⟩
      ⟨⟨!false, resp.store 0 ((sid + 0x40) :: bytes), respLen, state⟩, calls⟩ :=
  .answered rfl rfl rfl nonempty

theorem Withheld.map (withheld : Withheld sid set cleared) (state : σ → τ) (call : κ → μ) :
    Withheld sid (set.map state call) (cleared.map state call) := by
  cases withheld with
  | refused same no => exact .refused (congrArg (·.map state call) same) no
  | answered silent same first nonempty => exact .answered silent (congrArg (·.map state call) same) first nonempty

/-- The law of the bit: it decides whether the positive response is sent, and nothing else. -/
structure SuppressLaw (sid : ServiceId) (set cleared : Handled κ σ × UdsSession) : Prop where
  state : set.1.state = cleared.1.state
  session : set.2 = cleared.2
  calls : set.1.calls = cleared.1.calls
  resp : set.1.resp = cleared.1.resp
  respLen : set.1.respLen = cleared.1.respLen
  sent : cleared.1.send = true
  form : cleared.1.IsNegative sid ∨ cleared.1.message.head? = some (sid + 0x40)
  withheld : set.1.send = false ↔ ¬ cleared.1.IsNegative sid

theorem Withheld.law (withheld : Withheld sid set cleared) (service : sid + 0x40 ≠ ServiceId.negativeResponse)
    {before after : UdsSession} (session : before = after) : SuppressLaw sid (set, before) (cleared, after) := by
  cases withheld with
  | refused same no =>
    have sent : cleared.send = true := by
      obtain ⟨nrc, message⟩ := no
      cases send : cleared.send with
      | false => simp [Answer.message, send] at message
      | true => rfl
    have sends : set.send = true := by rw [same, sent]
    refine ⟨by rw [same], session, by rw [same], by rw [same], by rw [same], sent, Or.inl no, ?_⟩
    exact iff_of_false (fun silent => Bool.noConfusion (sends.symm.trans silent)) (not_not_intro no)
  | answered silent same first nonempty =>
    have sent : cleared.send = true := by rw [same]
    refine ⟨by rw [same], session, by rw [same], by rw [same], by rw [same], sent, Or.inr ?_, ?_⟩
    · rw [← first]
      exact message_head _ sent nonempty
    · exact iff_of_true silent (positive_not_negative first nonempty service)

end

section

variable {ω : Type} (req : Region Byte) (reqLen : Nat) (resp : Region Byte) (respLen : Nat) (session : UdsSession)
  (world : ω)

theorem DiagnosticSessionControlService.handle_withheld (svc : DiagnosticSessionControlService ω) :
    Withheld serviceId (svc.handle (suppressing req) reqLen resp respLen session world).1
      (svc.handle (plain req) reqLen resp respLen session world).1 := by
  simp only [handle, suppressing_sub, plain_sub, suppressing_bit, plain_bit]
  split
  · exact .refuse ..
  · split
    · exact .refuse ..
    · split
      · cases svc.callback with
        | none => exact .answer _ _ _ _ _ (by decide)
        | some callback => exact .answer _ _ _ _ _ (by decide)
      · exact .refuse ..

theorem EcuResetService.handle_withheld (svc : EcuResetService ω) :
    Withheld serviceId (svc.handle (suppressing req) reqLen resp respLen session world)
      (svc.handle (plain req) reqLen resp respLen session world) := by
  simp only [handle, suppressing_sub, plain_sub, suppressing_bit, plain_bit]
  split
  · exact .refuse ..
  · split
    · exact .refuse ..
    · cases svc.callback with
      | none => exact .answer _ _ _ _ _ (by decide)
      | some callback => exact .answer _ _ _ _ _ (by decide)

theorem TesterPresentService.handle_withheld :
    Withheld serviceId (handle (suppressing req) reqLen resp respLen session world).1
      (handle (plain req) reqLen resp respLen session world).1 := by
  simp only [handle, suppressing_sub, plain_sub, suppressing_bit, plain_bit]
  split
  · exact .refuse ..
  · split
    · exact .refuse ..
    · exact .answer _ _ _ _ _ (by decide)

theorem CommunicationControlService.handle_withheld (svc : CommunicationControlService ω) :
    Withheld serviceId (svc.handle (suppressing req) reqLen resp respLen session world)
      (svc.handle (plain req) reqLen resp respLen session world) := by
  have commType : suppressing req 2 = plain req 2 := suppressing_at req 0
  simp only [handle, suppressing_sub, plain_sub, suppressing_bit, plain_bit, commType]
  split
  · exact .refuse ..
  · split
    · exact .refuse ..
    · split
      · exact .refuse ..
      · cases svc.callback with
        | none => exact .answer _ _ _ _ _ (by decide)
        | some callback => exact .answer _ _ _ _ _ (by decide)

theorem ControlDtcSettingService.handle_withheld (svc : ControlDtcSettingService ω) :
    Withheld serviceId (svc.handle (suppressing req) reqLen resp respLen session world)
      (svc.handle (plain req) reqLen resp respLen session world) := by
  simp only [handle, suppressing_sub, plain_sub, suppressing_bit, plain_bit, suppressing_advance, suppressing_load]
  split
  · exact .refuse ..
  · split
    · exact .refuse ..
    · split
      · exact .refuse ..
      · cases svc.callback with
        | none => exact .answer _ _ _ _ _ (by decide)
        | some callback => exact .answer _ _ _ _ _ (by decide)

theorem ResponseOnEventService.handle_withheld (svc : ResponseOnEventService) :
    Withheld serviceId (svc.handle (suppressing req) reqLen resp respLen session)
      (svc.handle (plain req) reqLen resp respLen session) := by
  have window : suppressing req 2 = plain req 2 := suppressing_at req 0
  have eventType : suppressing req 3 = plain req 3 := suppressing_at req 1
  simp only [handle, suppressing_sub, plain_sub, suppressing_bit, plain_bit, window, eventType]
  split
  · exact .refuse ..
  · split
    · exact .answer _ _ _ _ _ (by decide)
    · split
      · exact .answer _ _ _ _ _ (by decide)
      · split
        · exact .answer _ _ _ _ _ (by decide)
        · exact .refuse ..

theorem LinkControlService.handle_withheld (svc : LinkControlService ω) :
    Withheld serviceId (svc.handle (suppressing req) reqLen resp respLen session world)
      (svc.handle (plain req) reqLen resp respLen session world) := by
  have id : suppressing req 3 = plain req 3 := suppressing_at req 1
  simp only [handle, suppressing_sub, plain_sub, suppressing_bit, plain_bit, id]
  split
  · exact .refuse ..
  · split
    · exact .refuse ..
    · split
      · split
        · exact .refuse ..
        · split
          · exact .refuse ..
          · exact .answer _ _ _ _ _ (by decide)
      · split
        · split
          · exact .refuse ..
          · cases svc.callback with
            | none => exact .answer _ _ _ _ _ (by decide)
            | some callback => exact .answer _ _ _ _ _ (by decide)
        · exact .refuse ..

end

inductive SuppressibleService where
  | diagnosticSessionControl
  | ecuReset
  | testerPresent
  | communicationControl
  | controlDtcSetting
  | responseOnEvent
  | linkControl
  deriving DecidableEq, Repr

namespace SuppressibleService

def service : SuppressibleService → Service
  | diagnosticSessionControl => .diagnosticSessionControl
  | ecuReset => .ecuReset
  | testerPresent => .testerPresent
  | communicationControl => .communicationControl
  | controlDtcSetting => .controlDtcSetting
  | responseOnEvent => .responseOnEvent
  | linkControl => .linkControl

variable {ω : Type} (target : Target) (suppressible : SuppressibleService) (handlers : Handlers ω) (world : ω)
  (req : Region Byte) (reqLen : Nat) (resp : Region Byte) (respLen : Nat) (session : UdsSession)

theorem handle_withheld : Withheld suppressible.service.serviceId
    (suppressible.service.handle target (handlers, world) (suppressing req) reqLen resp respLen session).1
    (suppressible.service.handle target (handlers, world) (plain req) reqLen resp respLen session).1 := by
  cases suppressible with
  | diagnosticSessionControl =>
    exact (handlers.sessionControl.handle_withheld req reqLen resp respLen session world).map _ _
  | ecuReset => exact (handlers.ecuReset.handle_withheld req reqLen resp respLen session world).map _ _
  | testerPresent => exact (TesterPresentService.handle_withheld req reqLen resp respLen session world).map _ _
  | communicationControl =>
    exact (handlers.communicationControl.handle_withheld req reqLen resp respLen session world).map _ _
  | controlDtcSetting => exact (handlers.dtcSetting.handle_withheld req reqLen resp respLen session world).map _ _
  | responseOnEvent =>
    have withheld := handlers.responseOnEvent.handle_withheld req reqLen resp respLen session
    exact withheld.map (fun after => (({ handlers with responseOnEvent := after }, world) : Ecu ω)) Empty.elim
  | linkControl =>
    have withheld := handlers.linkControl.handle_withheld req reqLen resp respLen session world
    exact withheld.map (fun after => (({ handlers with linkControl := after.1 }, after.2) : Ecu ω)) Call.baudrate

theorem handle_same_session :
    (suppressible.service.handle target (handlers, world) (suppressing req) reqLen resp respLen session).2 =
      (suppressible.service.handle target (handlers, world) (plain req) reqLen resp respLen session).2 := by
  cases suppressible with
  | diagnosticSessionControl =>
    have asked : DiagnosticSessionControlService.asked (suppressing req) reqLen =
        DiagnosticSessionControlService.asked (plain req) reqLen := by
      simp only [DiagnosticSessionControlService.asked, suppressing_sub, plain_sub]
    show (handlers.sessionControl.handle (suppressing req) reqLen resp respLen session world).2 =
      (handlers.sessionControl.handle (plain req) reqLen resp respLen session world).2
    rw [DiagnosticSessionControlService.handle_session, DiagnosticSessionControlService.handle_session, asked]
  | testerPresent =>
    show (TesterPresentService.handle (suppressing req) reqLen resp respLen session world).2 =
      (TesterPresentService.handle (plain req) reqLen resp respLen session world).2
    simp only [TesterPresentService.handle_session, TesterPresentService.Accepts, suppressing_sub, plain_sub]
  | _ => rfl

theorem suppress_bit_law : SuppressLaw suppressible.service.serviceId
    (suppressible.service.handle target (handlers, world) (suppressing req) reqLen resp respLen session)
    (suppressible.service.handle target (handlers, world) (plain req) reqLen resp respLen session) := by
  have withheld := suppressible.handle_withheld target handlers world req reqLen resp respLen session
  have same := suppressible.handle_same_session target handlers world req reqLen resp respLen session
  exact withheld.law suppressible.service.serviceId_positive same

end SuppressibleService

end Uds
