import PulseEcu.Services.HandlerContract

open Foundation

namespace Uds

inductive ResetType where
  | hardReset
  | keyOffOnReset
  | softReset
  deriving DecidableEq, Repr

/-- The cast from a byte that was checked to be one of the three. -/
def ResetType.ofByte (b : Byte) : ResetType :=
  if b = 0x01 then .hardReset else if b = 0x02 then .keyOffOnReset else .softReset

structure EcuResetService (σ : Type) where
  callback : Option (ResetType → σ → σ)

namespace EcuResetService

variable {σ : Type}

def serviceId : ServiceId := .ecuReset

def handle (svc : EcuResetService σ) (req : Region Byte) (reqLen : Nat) (resp : Region Byte) (_respLen : Nat)
    (_session : UdsSession) (state : σ) : Handled ResetType σ :=
  if reqLen < 2 then negative resp serviceId .incorrectMessageLengthOrInvalidFormat state []
  else
    let sub := req 1 &&& 0x7F
    let suppress := decide (req 1 &&& 0x80 ≠ 0)
    if sub < 0x01 ∨ sub > 0x03 then negative resp serviceId .subFunctionNotSupported state []
    else
      let header := resp.store 0 [serviceId + 0x40, sub]
      -- the response is sent after the callback has run
      match svc.callback with
      | none => ⟨⟨!suppress, header, 2, state⟩, []⟩
      | some callback => ⟨⟨!suppress, header, 2, callback (.ofByte sub) state⟩, [.ofByte sub]⟩

def Accepts (req : Region Byte) (reqLen : Nat) : Prop :=
  2 ≤ reqLen ∧ ¬ (req 1 &&& 0x7F < 0x01 ∨ req 1 &&& 0x7F > 0x03)

variable (svc : EcuResetService σ) (req : Region Byte) (reqLen : Nat) (resp : Region Byte) (respLen : Nat)
  (session : UdsSession) (state : σ)

theorem handle_serves (report : ResetType → Report) : Serves serviceId state (fun _ => True) report
    (Accepts req reqLen) (svc.handle req reqLen resp respLen session state) := by
  unfold handle
  by_cases short : reqLen < 2
  · rw [if_pos short]
    exact .refuse (fun accepts => absurd short (Nat.not_lt.mpr accepts.1)) ..
  · rw [if_neg short]
    dsimp only
    by_cases outside : req 1 &&& 0x7F < 0x01 ∨ req 1 &&& 0x7F > 0x03
    · rw [if_pos outside]
      exact .refuse (fun accepts => accepts.2 outside) ..
    · rw [if_neg outside]
      have accepted : Accepts req reqLen := ⟨Nat.le_of_not_lt short, outside⟩
      cases svc.callback with
      | none => exact .answered accepted rfl Nat.two_pos
      | some callback => exact .answered accepted rfl Nat.two_pos

theorem handle_fits (room : 3 ≤ respLen) :
    Fits respLen resp (svc.handle req reqLen resp respLen session state).toAnswer := by
  have kept := Region.KeptFrom.refl respLen resp
  have two : 2 ≤ respLen := by omega
  unfold handle
  split
  · exact .negative kept room ..
  · dsimp only
    split
    · exact .negative kept room ..
    · cases svc.callback with
      | none => exact .header kept [serviceId + 0x40, req 1 &&& 0x7F] two ..
      | some callback => exact .header kept [serviceId + 0x40, req 1 &&& 0x7F] two ..

end EcuResetService

inductive CommControlSubFunc where
  | enableRxAndTx
  | enableRxAndDisableTx
  | disableRxAndEnableTx
  | disableRxAndTx
  deriving DecidableEq, Repr

/-- The cast from a byte that was checked to be one of the four. -/
def CommControlSubFunc.ofByte (b : Byte) : CommControlSubFunc :=
  if b = 0x00 then .enableRxAndTx else if b = 0x01 then .enableRxAndDisableTx
  else if b = 0x02 then .disableRxAndEnableTx else .disableRxAndTx

/-- `enum class CommunicationType : uint8_t`; the cast may give any value below 16. -/
abbrev CommunicationType := Byte

structure CommControlCall where
  ctrl : CommControlSubFunc
  commType : CommunicationType
  deriving DecidableEq

structure CommunicationControlService (σ : Type) where
  callback : Option (CommControlSubFunc → CommunicationType → σ → σ)

namespace CommunicationControlService

variable {σ : Type}

def serviceId : ServiceId := .communicationControl

def handle (svc : CommunicationControlService σ) (req : Region Byte) (reqLen : Nat) (resp : Region Byte)
    (_respLen : Nat) (session : UdsSession) (state : σ) : Handled CommControlCall σ :=
  if reqLen < 3 then negative resp serviceId .incorrectMessageLengthOrInvalidFormat state []
  else
    let sub := req 1 &&& 0x7F
    let suppress := decide (req 1 &&& 0x80 ≠ 0)
    let commType := req 2
    if sub > 0x03 then negative resp serviceId .subFunctionNotSupported state []
    else if session.session = .default then negative resp serviceId .serviceNotSupportedInActiveSession state []
    else
      let header := resp.store 0 [serviceId + 0x40, sub]
      match svc.callback with
      | none => ⟨⟨!suppress, header, 2, state⟩, []⟩
      | some callback =>
        ⟨⟨!suppress, header, 2, callback (.ofByte sub) (commType &&& 0x0F) state⟩, [⟨.ofByte sub, commType &&& 0x0F⟩]⟩

def Accepts (req : Region Byte) (reqLen : Nat) (session : UdsSession) : Prop :=
  3 ≤ reqLen ∧ ¬ req 1 &&& 0x7F > 0x03 ∧ session.session ≠ .default

variable (svc : CommunicationControlService σ) (req : Region Byte) (reqLen : Nat) (resp : Region Byte) (respLen : Nat)
  (session : UdsSession) (state : σ)

theorem handle_serves (report : CommControlCall → Report) : Serves serviceId state (fun _ => True) report
    (Accepts req reqLen session) (svc.handle req reqLen resp respLen session state) := by
  unfold handle
  by_cases short : reqLen < 3
  · rw [if_pos short]
    exact .refuse (fun accepts => absurd short (Nat.not_lt.mpr accepts.1)) ..
  · rw [if_neg short]
    dsimp only
    by_cases outside : req 1 &&& 0x7F > 0x03
    · rw [if_pos outside]
      exact .refuse (fun accepts => accepts.2.1 outside) ..
    · rw [if_neg outside]
      by_cases gated : session.session = .default
      · rw [if_pos gated]
        exact .refuse (fun accepts => accepts.2.2 gated) ..
      · rw [if_neg gated]
        have accepted : Accepts req reqLen session := ⟨Nat.le_of_not_lt short, outside, gated⟩
        cases svc.callback with
        | none => exact .answered accepted rfl Nat.two_pos
        | some callback => exact .answered accepted rfl Nat.two_pos

theorem handle_fits (room : 3 ≤ respLen) :
    Fits respLen resp (svc.handle req reqLen resp respLen session state).toAnswer := by
  have kept := Region.KeptFrom.refl respLen resp
  have two : 2 ≤ respLen := by omega
  unfold handle
  split
  · exact .negative kept room ..
  · dsimp only
    split
    · exact .negative kept room ..
    · split
      · exact .negative kept room ..
      · cases svc.callback with
        | none => exact .header kept [serviceId + 0x40, req 1 &&& 0x7F] two ..
        | some callback => exact .header kept [serviceId + 0x40, req 1 &&& 0x7F] two ..

end CommunicationControlService

namespace LinkControlSubFunc

def verifyBaudrateTransitionWithFixedBaudrate : Byte := 0x01
def transitionBaudrate : Byte := 0x03

end LinkControlSubFunc

def kBaudrates : List (Byte × Word) :=
  [(0x01, 9600), (0x02, 19200), (0x03, 125000), (0x04, 250000), (0x05, 500000), (0x06, 1000000)]

structure LinkControlCall where
  newBaudrateBps : Word
  switched : Bool
  deriving DecidableEq

structure LinkControlService (σ : Type) where
  callback : Option (Word → σ → Bool × σ)
  verified : Bool
  pendingBaudrate : Word

namespace LinkControlService

variable {σ : Type}

def serviceId : ServiceId := .linkControl

def create (callback : Option (Word → σ → Bool × σ)) : LinkControlService σ := ⟨callback, false, 0⟩

def resolveFixedBaudrate (id : Byte) : Word :=
  match kBaudrates.find? fun entry => entry.1 = id with
  | some entry => entry.2
  | none => 0

def positive (sub : Byte) (suppress : Bool) (resp : Region Byte) (state : LinkControlService σ × σ)
    (calls : List LinkControlCall) : Handled LinkControlCall (LinkControlService σ × σ) :=
  ⟨⟨!suppress, resp.store 0 [serviceId + 0x40, sub], 2, state⟩, calls⟩

def handle (svc : LinkControlService σ) (req : Region Byte) (reqLen : Nat) (resp : Region Byte) (_respLen : Nat)
    (session : UdsSession) (world : σ) : Handled LinkControlCall (LinkControlService σ × σ) :=
  if reqLen < 2 then negative resp serviceId .incorrectMessageLengthOrInvalidFormat (svc, world) []
  else
    let sub := req 1 &&& 0x7F
    let suppress := decide (req 1 &&& 0x80 ≠ 0)
    if session.session = .default then negative resp serviceId .serviceNotSupportedInActiveSession (svc, world) []
    else if sub = LinkControlSubFunc.verifyBaudrateTransitionWithFixedBaudrate then
      if reqLen < 4 then negative resp serviceId .incorrectMessageLengthOrInvalidFormat (svc, world) []
      else
        let bps := resolveFixedBaudrate (req 3)
        if bps = 0 then negative resp serviceId .requestOutOfRange (svc, world) []
        else positive sub suppress resp ({ svc with pendingBaudrate := bps, verified := true }, world) []
    else if sub = LinkControlSubFunc.transitionBaudrate then
      if svc.verified = false then negative resp serviceId .requestSequenceError (svc, world) []
      else
        match svc.callback with
        | none => positive sub suppress resp ({ svc with verified := false }, world) []
        | some callback =>
          let switched := callback svc.pendingBaudrate world
          positive sub suppress resp ({ svc with verified := false }, switched.2) [⟨svc.pendingBaudrate, switched.1⟩]
    else negative resp serviceId .subFunctionNotSupported (svc, world) []

def Accepts (svc : LinkControlService σ) (req : Region Byte) (reqLen : Nat) (session : UdsSession) : Prop :=
  2 ≤ reqLen ∧ session.session ≠ .default ∧
    (req 1 &&& 0x7F = LinkControlSubFunc.verifyBaudrateTransitionWithFixedBaudrate ∧ 4 ≤ reqLen ∧
        resolveFixedBaudrate (req 3) ≠ 0 ∨
      req 1 &&& 0x7F = LinkControlSubFunc.transitionBaudrate ∧ svc.verified = true)

variable (svc : LinkControlService σ) (req : Region Byte) (reqLen : Nat) (resp : Region Byte) (respLen : Nat)
  (session : UdsSession) (world : σ)

theorem handle_serves (report : LinkControlCall → Report) : Serves serviceId (svc, world) (fun state => state.1 = svc)
    report (svc.Accepts req reqLen session) (svc.handle req reqLen resp respLen session world) := by
  unfold handle
  by_cases short : reqLen < 2
  · rw [if_pos short]
    exact .refuse (fun accepts => absurd short (Nat.not_lt.mpr accepts.1)) ..
  · have long := Nat.le_of_not_lt short
    rw [if_neg short]
    dsimp only
    by_cases gated : session.session = .default
    · rw [if_pos gated]
      exact .refuse (fun accepts => accepts.2.1 gated) ..
    · rw [if_neg gated]
      by_cases verify : req 1 &&& 0x7F = LinkControlSubFunc.verifyBaudrateTransitionWithFixedBaudrate
      · have different : ¬ req 1 &&& 0x7F = LinkControlSubFunc.transitionBaudrate := by
          rw [verify]
          decide
        rw [if_pos verify]
        by_cases noRate : reqLen < 4
        · rw [if_pos noRate]
          exact .refuse (fun accepts => accepts.2.2.elim (fun fixed => absurd noRate (Nat.not_lt.mpr fixed.2.1))
            fun transition => different transition.1) ..
        · rw [if_neg noRate]
          by_cases unknown : resolveFixedBaudrate (req 3) = 0
          · rw [if_pos unknown]
            exact .refuse (fun accepts => accepts.2.2.elim (fun fixed => fixed.2.2 unknown)
              fun transition => different transition.1) ..
          · rw [if_neg unknown]
            exact .answered ⟨long, gated, Or.inl ⟨verify, Nat.le_of_not_lt noRate, unknown⟩⟩ rfl Nat.two_pos
      · rw [if_neg verify]
        by_cases transition : req 1 &&& 0x7F = LinkControlSubFunc.transitionBaudrate
        · rw [if_pos transition]
          by_cases unverified : svc.verified = false
          · rw [if_pos unverified]
            have denied : ¬ svc.verified = true := by simp [unverified]
            exact .refuse (fun accepts => accepts.2.2.elim (fun fixed => verify fixed.1) fun other => denied other.2) ..
          · rw [if_neg unverified]
            have accepted : svc.Accepts req reqLen session :=
              ⟨long, gated, Or.inr ⟨transition, Bool.not_eq_false _ ▸ unverified⟩⟩
            cases svc.callback with
            | none => exact .answered accepted rfl Nat.two_pos
            | some callback => exact .answered accepted rfl Nat.two_pos
        · rw [if_neg transition]
          exact .refuse (fun accepts => accepts.2.2.elim (fun fixed => verify fixed.1)
            fun other => transition other.1) ..

theorem handle_fits (room : 3 ≤ respLen) :
    Fits respLen resp (svc.handle req reqLen resp respLen session world).toAnswer := by
  have kept := Region.KeptFrom.refl respLen resp
  have two : 2 ≤ respLen := by omega
  have refused : ∀ nrc : NrcCode,
      Fits respLen resp (negative resp serviceId nrc (svc, world) ([] : List LinkControlCall)).toAnswer :=
    fun nrc => .negative kept room ..
  have answered : ∀ (suppress : Bool) (state : LinkControlService σ × σ) (calls : List LinkControlCall),
      Fits respLen resp (positive (req 1 &&& 0x7F) suppress resp state calls).toAnswer :=
    fun suppress state calls => .header kept [serviceId + 0x40, req 1 &&& 0x7F] two ..
  unfold handle
  dsimp only
  split
  · exact refused _
  · split
    · exact refused _
    · split
      · split
        · exact refused _
        · split
          · exact refused _
          · exact answered ..
      · split
        · split
          · exact refused _
          · cases svc.callback with
            | none => exact answered ..
            | some callback => exact answered ..
        · exact refused _

end LinkControlService

namespace RoeSubFunc

def stopResponseOnEvent : Byte := 0x00
def startResponseOnEvent : Byte := 0x05
def clearResponseOnEvent : Byte := 0x06

end RoeSubFunc

/-- The constructor leaves `eventWindow` uninitialised. -/
structure ResponseOnEventService where
  active : Bool
  eventType : Byte
  eventWindow : Byte
  deriving DecidableEq

namespace ResponseOnEventService

def serviceId : ServiceId := .responseOnEvent

def create (eventWindow : Byte) : ResponseOnEventService := ⟨false, 0, eventWindow⟩

def positive (sub window : Byte) (suppress : Bool) (resp : Region Byte) (svc : ResponseOnEventService) :
    Handled Empty ResponseOnEventService :=
  ⟨⟨!suppress, resp.store 0 [serviceId + 0x40, sub, window, svc.eventType], 4, svc⟩, []⟩

def handle (svc : ResponseOnEventService) (req : Region Byte) (reqLen : Nat) (resp : Region Byte) (_respLen : Nat)
    (_session : UdsSession) : Handled Empty ResponseOnEventService :=
  if reqLen < 4 then negative resp serviceId .incorrectMessageLengthOrInvalidFormat svc []
  else
    let sub := req 1 &&& 0x7F
    let suppress := decide (req 1 &&& 0x80 ≠ 0)
    let evtWindow := req 2
    if sub = RoeSubFunc.stopResponseOnEvent then positive sub evtWindow suppress resp { svc with active := false }
    else if sub = RoeSubFunc.startResponseOnEvent then
      positive sub evtWindow suppress resp { svc with active := true, eventType := req 3, eventWindow := evtWindow }
    else if sub = RoeSubFunc.clearResponseOnEvent then
      positive sub evtWindow suppress resp { svc with active := false, eventType := 0 }
    else negative resp serviceId .subFunctionNotSupported svc []

def Accepts (req : Region Byte) (reqLen : Nat) : Prop :=
  4 ≤ reqLen ∧ (req 1 &&& 0x7F = RoeSubFunc.stopResponseOnEvent ∨ req 1 &&& 0x7F = RoeSubFunc.startResponseOnEvent ∨
    req 1 &&& 0x7F = RoeSubFunc.clearResponseOnEvent)

variable (svc : ResponseOnEventService) (req : Region Byte) (reqLen : Nat) (resp : Region Byte) (respLen : Nat)
  (session : UdsSession)

theorem handle_serves (report : Empty → Report) : Serves serviceId svc (· = svc) report (Accepts req reqLen)
    (svc.handle req reqLen resp respLen session) := by
  unfold handle
  by_cases short : reqLen < 4
  · rw [if_pos short]
    exact .refuse (fun accepts => absurd short (Nat.not_lt.mpr accepts.1)) ..
  · have long := Nat.le_of_not_lt short
    rw [if_neg short]
    dsimp only
    by_cases stop : req 1 &&& 0x7F = RoeSubFunc.stopResponseOnEvent
    · rw [if_pos stop]
      exact .answered ⟨long, Or.inl stop⟩ rfl (Nat.succ_pos _)
    · rw [if_neg stop]
      by_cases start : req 1 &&& 0x7F = RoeSubFunc.startResponseOnEvent
      · rw [if_pos start]
        exact .answered ⟨long, Or.inr (Or.inl start)⟩ rfl (Nat.succ_pos _)
      · rw [if_neg start]
        by_cases clear : req 1 &&& 0x7F = RoeSubFunc.clearResponseOnEvent
        · rw [if_pos clear]
          exact .answered ⟨long, Or.inr (Or.inr clear)⟩ rfl (Nat.succ_pos _)
        · rw [if_neg clear]
          exact .refuse (fun accepts => accepts.2.elim stop fun other => other.elim start clear) ..

theorem handle_fits (room : 4 ≤ respLen) : Fits respLen resp (svc.handle req reqLen resp respLen session).toAnswer := by
  have kept := Region.KeptFrom.refl respLen resp
  have three : 3 ≤ respLen := by omega
  have answered : ∀ (suppress : Bool) (after : ResponseOnEventService),
      Fits respLen resp (positive (req 1 &&& 0x7F) (req 2) suppress resp after).toAnswer :=
    fun suppress after => .header kept [serviceId + 0x40, req 1 &&& 0x7F, req 2, after.eventType] room ..
  unfold handle
  dsimp only
  split
  · exact .negative kept three ..
  · split
    · exact answered ..
    · split
      · exact answered ..
      · split
        · exact answered ..
        · exact .negative kept three ..

end ResponseOnEventService

end Uds
