import PulseEcu.Server.UdsServer
import PulseEcu.Services.ServiceSet

open Foundation

namespace Uds

open Transport

/-- What a request makes the server do on the outside: it calls a function of the application, or
    hands a frame to the CAN interface. -/
inductive Effect where
  | callback (call : Call)
  | frame (frame : CanFrame)

def AnswersFirst (effects : List Effect) : Prop :=
  ∀ past call later, effects = past ++ .callback call :: later → ∃ frame, .frame frame ∈ past

inductive Disrupts : Service → Region Byte → Prop
  | reset {req : Region Byte} (sid : req 0 = EcuResetService.serviceId) : Disrupts .ecuReset req
  | transition {req : Region Byte} (sid : req 0 = LinkControlService.serviceId)
      (sub : req 1 &&& 0x7F = LinkControlSubFunc.transitionBaudrate) : Disrupts .linkControl req

variable {ω : Type}

def NoCallback (handlers : Handlers ω) : Service → Prop
  | .ecuReset => handlers.ecuReset.callback = none
  | .linkControl => handlers.linkControl.callback = none
  | _ => True

theorem answersFirst_iff (calls : List Call) (frames : List CanFrame) :
    AnswersFirst (calls.map .callback ++ frames.map .frame) ↔ calls = [] := by
  cases calls with
  | nil =>
    apply iff_of_true _ rfl
    intro past call later split
    have member : Effect.callback call ∈ frames.map Effect.frame := by
      rw [show frames.map Effect.frame = _ from split]
      exact List.mem_append_right past List.mem_cons_self
    obtain ⟨frame, _, other⟩ := List.mem_map.mp member
    cases other
  | cons call calls =>
    apply iff_of_false _ (List.cons_ne_nil _ _)
    intro first
    obtain ⟨frame, member⟩ := first [] call _ rfl
    cases member

namespace EcuResetService

variable (svc : EcuResetService ω) {req : Region Byte} {reqLen : Nat} (resp : Region Byte) (respLen : Nat)
  (session : UdsSession) (state : ω)

theorem handle_calls (accepts : Accepts req reqLen) :
    (svc.handle req reqLen resp respLen session state).calls = [] ↔ svc.callback = none := by
  unfold handle
  rw [if_neg (Nat.not_lt.mpr accepts.1)]
  dsimp only
  rw [if_neg accepts.2]
  cases svc.callback with
  | none => exact iff_of_true rfl rfl
  | some callback => exact iff_of_false (List.cons_ne_nil _ _) (Option.some_ne_none callback)

end EcuResetService

namespace LinkControlService

variable (svc : LinkControlService ω) {req : Region Byte} {reqLen : Nat} (resp : Region Byte) (respLen : Nat)
  {session : UdsSession} (state : ω)

theorem handle_calls (accepts : svc.Accepts req reqLen session)
    (sub : req 1 &&& 0x7F = LinkControlSubFunc.transitionBaudrate) :
    (svc.handle req reqLen resp respLen session state).calls = [] ↔ svc.callback = none := by
  have other : ¬ LinkControlSubFunc.transitionBaudrate = LinkControlSubFunc.verifyBaudrateTransitionWithFixedBaudrate := by
    decide
  have verified : ¬ svc.verified = false := by
    rcases accepts.2.2 with fixed | transition
    · exact absurd (sub.symm.trans fixed.1) other
    · rw [transition.2]
      exact Bool.noConfusion
  unfold handle
  rw [if_neg (Nat.not_lt.mpr accepts.1)]
  dsimp only
  rw [if_neg accepts.2.1, sub, if_neg other, if_pos rfl, if_neg verified]
  cases svc.callback with
  | none => exact iff_of_true rfl rfl
  | some callback => exact iff_of_false (List.cons_ne_nil _ _) (Option.some_ne_none callback)

end LinkControlService

namespace UdsServer

variable (target : Target) (can : ICanInterface) (service : Service) (s : UdsServer (Ecu ω)) (len : Nat)

/-- The effects of `handle_request` in their order: the handler makes its callbacks before it returns,
    and `send_response` is called after that. -/
def requestEffects : List Effect :=
  (service.handle target s.state s.reqBuf len s.respBuf maxPayload s.session).1.calls.map .callback ++
    (s.handleRequest can len).2.map .frame

variable {target can service s len}

theorem sent_bytes {frame : CanFrame} {data : Pointer} {mem : Memory} {length : Nat}
    (sent : frame ∈ (s.sendResponse can mem data length).2) (short : length ≤ 7) (first : 0 < length) :
    frame.data 1 = mem data 0 := by
  have accepted : ¬ (length = 0 ∨ length > maxPayload) := by
    have limit : maxPayload = 4096 := rfl
    omega
  simp only [sendResponse, IsoTp.send, if_neg accepted, if_pos short, List.mem_singleton] at sent
  rw [sent]
  show ((mem data).load 0 length)[0]?.getD _ = _
  rw [List.getElem?_eq_getElem (by rw [Region.load_length]; exact first), Region.load_getElem]
  rfl

theorem negative_first {σ : Type} {answer : Answer σ} {sid : ServiceId} (no : answer.IsNegative sid) :
    answer.resp 0 = ServiceId.negativeResponse ∧ answer.respLen = 3 := by
  obtain ⟨nrc, message⟩ := no
  cases send : answer.send with
  | false => simp [Answer.message, send] at message
  | true =>
    rw [Answer.message, if_pos send] at message
    have length : answer.respLen = 3 := by simpa using congrArg List.length message
    rw [length] at message
    exact ⟨(List.cons.inj message).1, length⟩

theorem positive_accepted (found : s.findService (s.reqBuf 0) = some (service.interface target s.state.1.sessionControl))
    (positive : ∃ frame ∈ (s.handleRequest can len).2, frame.data 1 = service.serviceId + 0x40) :
    service.Accepts target s.state.1 s.reqBuf len maxPayload s.session := by
  obtain ⟨frame, sent, first⟩ := positive
  have serves := service.handle_serves target s.state.1 s.state.2 s.reqBuf len s.respBuf maxPayload s.session
  have answer := service.interface_handle target s.state.1 s.state.2 s.reqBuf len s.respBuf maxPayload s.session
  have negative : ¬ (service.handle target (s.state.1, s.state.2) s.reqBuf len s.respBuf maxPayload s.session).1.IsNegative
      service.serviceId := by
    intro no
    obtain ⟨byte, length⟩ := negative_first no
    unfold handleRequest at sent
    split at sent
    · cases sent
    · dsimp only at sent
      rw [found] at sent
      dsimp only at sent
      rw [answer] at sent
      split at sent
      · rename_i sends
        have read := sent_bytes sent (by rw [length]; decide) sends.2
        exact service.serviceId_positive (first.symm.trans (read.trans byte))
      · cases sent
  cases serves with
  | refused _ no => exact absurd no negative
  | gaveUp _ no => exact absurd no negative
  | answered accepted => exact accepted

/-- A request that restarts the ECU or switches its bit rate, answered positively, is answered before
    it is acted upon only if there is no function to act. -/
theorem answer_first_iff (found : s.findService (s.reqBuf 0) = some (service.interface target s.state.1.sessionControl))
    (disrupts : Disrupts service s.reqBuf)
    (positive : ∃ frame ∈ (s.handleRequest can len).2, frame.data 1 = service.serviceId + 0x40) :
    AnswersFirst (s.requestEffects target can service len) ↔ NoCallback s.state.1 service := by
  have accepts := positive_accepted found positive
  rw [requestEffects, answersFirst_iff]
  cases disrupts with
  | reset _ =>
    show List.map Call.reset _ = [] ↔ _
    rw [List.map_eq_nil_iff]
    exact s.state.1.ecuReset.handle_calls s.respBuf maxPayload s.session s.state.2 accepts
  | transition _ sub =>
    show List.map Call.baudrate _ = [] ↔ _
    rw [List.map_eq_nil_iff]
    exact s.state.1.linkControl.handle_calls s.respBuf maxPayload s.state.2 accepts sub

def resetServer : UdsServer (Ecu Nat) :=
  boot (.create kDefaultIsoTpConfig (Region.fill 0)) kDefaultTiming none ((Region.fill 0).store 0 [0x11, 0x01])
    (Region.fill 0) ({ Handlers.bare with ecuReset := ⟨some fun _ resets => resets + 1⟩ }, 0)
    [Service.ecuReset.interface .host ⟨none⟩]

theorem answer_first_iff_reset :
    AnswersFirst (resetServer.requestEffects .host .ready .ecuReset 2) ↔ NoCallback resetServer.state.1 .ecuReset :=
  answer_first_iff rfl (.reset rfl) ⟨_, List.mem_cons_self, rfl⟩

/-- The reset is called for before the response 51 01 is handed over. -/
theorem reset_before_answer :
    (∃ frame ∈ (resetServer.handleRequest .ready 2).2, frame.data.load 1 2 = [0x51, 0x01]) ∧
      ¬ AnswersFirst (resetServer.requestEffects .host .ready .ecuReset 2) := by
  apply And.intro
  · exact ⟨_, List.mem_cons_self, rfl⟩
  · intro first
    obtain ⟨frame, member⟩ := first [] (.reset .hardReset) _ rfl
    cases member

end UdsServer

end Uds
