import PulseEcu.Services.HandlerContract

open Foundation

namespace Uds

structure DiagnosticSessionControlService (σ : Type) where
  callback : Option (SessionType → SessionType → σ → σ)

namespace DiagnosticSessionControlService

variable {σ : Type}

def serviceId : ServiceId := .diagnosticSessionControl

def positive (sub : Byte) (timing : TimingConfig) : List Byte :=
  let p2Star10ms := timing.p2StarMs / 10
  [serviceId + 0x40, sub, (timing.p2Ms >>> 8).setWidth 8, (timing.p2Ms &&& 0xFF).setWidth 8,
    (p2Star10ms >>> 8).setWidth 8, (p2Star10ms &&& 0xFF).setWidth 8]

def handle (svc : DiagnosticSessionControlService σ) (req : Region Byte) (reqLen : Nat) (resp : Region Byte)
    (_respLen : Nat) (session : UdsSession) (state : σ) : Handled (SessionType × SessionType) σ × UdsSession :=
  if reqLen < 2 then (negative resp serviceId .incorrectMessageLengthOrInvalidFormat state [], session)
  else
    let sub := req 1 &&& 0x7F
    let suppress := decide (req 1 &&& 0x80 ≠ 0)
    if sub < 0x01 ∨ sub > 0x03 then (negative resp serviceId .subFunctionNotSupported state [], session)
    else
      let new := SessionType.ofByte sub
      let old := session.session
      let entered := session.transition new
      if entered.1 then
        let resp := resp.store 0 (positive sub entered.2.timing)
        match svc.callback with
        | none => (⟨⟨!suppress, resp, 6, state⟩, []⟩, entered.2)
        | some callback => (⟨⟨!suppress, resp, 6, callback old new state⟩, [(old, new)]⟩, entered.2)
      else (negative resp serviceId .conditionsNotCorrect state [], entered.2)

def asked (req : Region Byte) (reqLen : Nat) : Option SessionType :=
  if reqLen < 2 ∨ req 1 &&& 0x7F < 0x01 ∨ req 1 &&& 0x7F > 0x03 then none
  else some (.ofByte (req 1 &&& 0x7F))

def asks (session : UdsSession) : Option SessionType → UdsSession
  | none => session
  | some new => (session.transition new).2

theorem handle_session (svc : DiagnosticSessionControlService σ) (req : Region Byte) (reqLen : Nat)
    (resp : Region Byte) (respLen : Nat) (session : UdsSession) (state : σ) :
    (svc.handle req reqLen resp respLen session state).2 = asks session (asked req reqLen) := by
  unfold handle asked
  by_cases short : reqLen < 2
  · rw [if_pos short, if_pos (Or.inl short)]
    rfl
  · rw [if_neg short]
    by_cases outside : req 1 &&& 0x7F < 0x01 ∨ req 1 &&& 0x7F > 0x03
    · rw [if_pos outside, if_pos (Or.inr outside)]
      rfl
    · rw [if_neg outside, if_neg (not_or.mpr ⟨short, outside⟩)]
      dsimp only
      split
      · split <;> rfl
      · rfl

def Accepts (req : Region Byte) (reqLen : Nat) (session : UdsSession) : Prop :=
  2 ≤ reqLen ∧ ¬ (req 1 &&& 0x7F < 0x01 ∨ req 1 &&& 0x7F > 0x03) ∧
    (session.transition (.ofByte (req 1 &&& 0x7F))).1 = true

section

variable (svc : DiagnosticSessionControlService σ) (req : Region Byte) (reqLen : Nat) (resp : Region Byte)
  (respLen : Nat) (session : UdsSession) (state : σ)

theorem handle_serves (report : SessionType × SessionType → Report) : Serves serviceId state (fun _ => True) report
    (Accepts req reqLen session) (svc.handle req reqLen resp respLen session state).1 := by
  unfold handle
  by_cases short : reqLen < 2
  · rw [if_pos short]
    exact .refuse (fun accepts => absurd short (Nat.not_lt.mpr accepts.1)) ..
  · rw [if_neg short]
    by_cases outside : req 1 &&& 0x7F < 0x01 ∨ req 1 &&& 0x7F > 0x03
    · rw [if_pos outside]
      exact .refuse (fun accepts => accepts.2.1 outside) ..
    · rw [if_neg outside]
      dsimp only
      by_cases entered : (session.transition (.ofByte (req 1 &&& 0x7F))).1 = true
      · have accepted : Accepts req reqLen session := ⟨Nat.le_of_not_lt short, outside, entered⟩
        rw [if_pos entered]
        cases svc.callback with
        | none => exact .answered accepted rfl (Nat.succ_pos _)
        | some callback => exact .answered accepted rfl (Nat.succ_pos _)
      · rw [if_neg entered]
        exact .refuse (fun accepts => entered accepts.2.2) ..

theorem handle_denied (denied : ¬ Accepts req reqLen session) :
    (svc.handle req reqLen resp respLen session state).2 = session := by
  rw [handle_session]
  unfold asked
  by_cases short : reqLen < 2 ∨ req 1 &&& 0x7F < 0x01 ∨ req 1 &&& 0x7F > 0x03
  · rw [if_pos short]
    rfl
  · rw [if_neg short]
    apply session.transition_refused
    apply Bool.eq_false_iff.mpr
    intro entered
    exact denied ⟨Nat.le_of_not_lt fun few => short (Or.inl few), fun outside => short (Or.inr outside), entered⟩

theorem handle_fits (room : 6 ≤ respLen) :
    Fits respLen resp (svc.handle req reqLen resp respLen session state).1.toAnswer := by
  have kept := Region.KeptFrom.refl respLen resp
  have three : 3 ≤ respLen := by omega
  unfold handle
  split
  · exact .negative kept three ..
  · dsimp only
    split
    · exact .negative kept three ..
    · split
      · split
        · exact .header kept (positive (req 1 &&& 0x7F) (session.transition _).2.timing) room ..
        · exact .header kept (positive (req 1 &&& 0x7F) (session.transition _).2.timing) room ..
      · exact .negative kept three ..

end

end DiagnosticSessionControlService

namespace TesterPresentService

variable {σ : Type}

def serviceId : ServiceId := .testerPresent

def handle (req : Region Byte) (reqLen : Nat) (resp : Region Byte) (_respLen : Nat) (session : UdsSession)
    (state : σ) : Handled Empty σ × UdsSession :=
  if reqLen < 2 then (negative resp serviceId .incorrectMessageLengthOrInvalidFormat state [], session)
  else
    let subFunc := req 1 &&& 0x7F
    let suppress := decide (req 1 &&& 0x80 ≠ 0)
    if subFunc ≠ 0x00 then (negative resp serviceId .subFunctionNotSupported state [], session)
    else
      -- tick 0, not the tick of the call
      (⟨⟨!suppress, resp.store 0 [serviceId + 0x40, subFunc], 2, state⟩, []⟩, session.keepAlive 0)

def Accepts (req : Region Byte) (reqLen : Nat) : Prop := 2 ≤ reqLen ∧ req 1 &&& 0x7F = 0x00

instance (req : Region Byte) (reqLen : Nat) : Decidable (Accepts req reqLen) :=
  inferInstanceAs (Decidable (_ ∧ _))

theorem handle_session (req : Region Byte) (reqLen : Nat) (resp : Region Byte) (respLen : Nat)
    (session : UdsSession) (state : σ) :
    (handle req reqLen resp respLen session state).2 =
      if Accepts req reqLen then session.keepAlive 0 else session := by
  unfold handle
  by_cases short : reqLen < 2
  · rw [if_pos short, if_neg fun accepts => absurd short (Nat.not_lt.mpr accepts.1)]
  · rw [if_neg short]
    by_cases other : req 1 &&& 0x7F ≠ 0x00
    · rw [if_pos other, if_neg fun accepts => other accepts.2]
    · rw [if_neg other, if_pos ⟨Nat.not_lt.mp short, Decidable.not_not.mp other⟩]

section

variable (req : Region Byte) (reqLen : Nat) (resp : Region Byte) (respLen : Nat) (session : UdsSession) (state : σ)

theorem handle_serves (report : Empty → Report) : Serves serviceId state (fun _ => True) report (Accepts req reqLen)
    (handle req reqLen resp respLen session state).1 := by
  unfold handle
  by_cases short : reqLen < 2
  · rw [if_pos short]
    exact .refuse (fun accepts => absurd short (Nat.not_lt.mpr accepts.1)) ..
  · rw [if_neg short]
    by_cases other : req 1 &&& 0x7F ≠ 0x00
    · rw [if_pos other]
      exact .refuse (fun accepts => other accepts.2) ..
    · rw [if_neg other]
      exact .answered ⟨Nat.le_of_not_lt short, Decidable.not_not.mp other⟩ rfl Nat.two_pos

theorem handle_denied (denied : ¬ Accepts req reqLen) : (handle req reqLen resp respLen session state).2 = session := by
  rw [handle_session, if_neg denied]

theorem handle_fits (room : 3 ≤ respLen) :
    Fits respLen resp (handle req reqLen resp respLen session state).1.toAnswer := by
  have kept := Region.KeptFrom.refl respLen resp
  have two : 2 ≤ respLen := by omega
  unfold handle
  split
  · exact .negative kept room ..
  · dsimp only
    split
    · exact .negative kept room ..
    · exact .header kept [serviceId + 0x40, req 1 &&& 0x7F] two ..

end

end TesterPresentService

end Uds
