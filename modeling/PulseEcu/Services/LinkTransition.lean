import PulseEcu.Services.StoredData

open Foundation

namespace Uds

def Call.rate : Call → Option Word
  | baudrate call => some call.newBaudrateBps
  | _ => none

namespace LinkControlService

variable {σ : Type}

def armed (svc : LinkControlService σ) : Option Word := if svc.verified then some svc.pendingBaudrate else none

inductive Effect (svc : LinkControlService σ) (req : Region Byte) (reqLen : Nat) (session : UdsSession)
    (handled : Handled LinkControlCall (LinkControlService σ × σ)) : Prop where
  | refused (denied : ¬ svc.Accepts req reqLen session) (no : handled.message.head? = some ServiceId.negativeResponse)
      (state : handled.state.1 = svc) (calls : handled.calls = [])
  | verified (sub : req 1 &&& 0x7F = LinkControlSubFunc.verifyBaudrateTransitionWithFixedBaudrate)
      (yes : handled.message.head? ≠ some ServiceId.negativeResponse)
      (armed : handled.state.1.armed = some (resolveFixedBaudrate (req 3)))
      (callback : handled.state.1.callback = svc.callback) (calls : handled.calls = [])
  | switched (sub : req 1 &&& 0x7F = LinkControlSubFunc.transitionBaudrate) (long : 2 ≤ reqLen)
      (session : session.session ≠ .default)
      (yes : handled.message.head? ≠ some ServiceId.negativeResponse)
      (before : svc.verified = true) (after : handled.state.1.armed = none)
      (callback : handled.state.1.callback = svc.callback)
      (calls : handled.calls.map LinkControlCall.newBaudrateBps =
        if svc.callback.isSome then [svc.pendingBaudrate] else [])

theorem positive_head (sub : Byte) (suppress : Bool) (resp : Region Byte) (state : LinkControlService σ × σ)
    (calls : List LinkControlCall) :
    (positive sub suppress resp state calls).message.head? ≠ some ServiceId.negativeResponse := by
  have answer : (positive sub suppress resp state calls).message = if !suppress then [serviceId + 0x40, sub] else [] :=
    congrArg (fun bytes => if !suppress then bytes else []) (Region.load_store resp 0 [serviceId + 0x40, sub])
  rw [answer]
  cases suppress with
  | true => exact fun none => nomatch none
  | false => exact fun head => absurd (Option.some.inj head) (by decide)

theorem handle_effect (svc : LinkControlService σ) (req : Region Byte) (reqLen : Nat) (resp : Region Byte)
    (respLen : Nat) (session : UdsSession) (world : σ) :
    Effect svc req reqLen session (svc.handle req reqLen resp respLen session world) := by
  have refused : ∀ nrc : NrcCode, ¬ svc.Accepts req reqLen session →
      Effect svc req reqLen session (negative resp serviceId nrc (svc, world) []) := by
    intro nrc denied
    refine .refused denied ?_ rfl rfl
    rw [negative_message]
    rfl
  unfold handle
  by_cases short : reqLen < 2
  · rw [if_pos short]
    exact refused _ fun accepts => absurd short (Nat.not_lt.mpr accepts.1)
  · rw [if_neg short]
    dsimp only
    by_cases gated : session.session = .default
    · rw [if_pos gated]
      exact refused _ fun accepts => accepts.2.1 gated
    · rw [if_neg gated]
      by_cases verify : req 1 &&& 0x7F = LinkControlSubFunc.verifyBaudrateTransitionWithFixedBaudrate
      · have different : ¬ req 1 &&& 0x7F = LinkControlSubFunc.transitionBaudrate := by
          rw [verify]
          decide
        rw [if_pos verify]
        by_cases noRate : reqLen < 4
        · rw [if_pos noRate]
          refine refused _ fun accepts => ?_
          rcases accepts.2.2 with fixed | transition
          · exact absurd noRate (Nat.not_lt.mpr fixed.2.1)
          · exact different transition.1
        · rw [if_neg noRate]
          by_cases unknown : resolveFixedBaudrate (req 3) = 0
          · rw [if_pos unknown]
            refine refused _ fun accepts => ?_
            rcases accepts.2.2 with fixed | transition
            · exact fixed.2.2 unknown
            · exact different transition.1
          · rw [if_neg unknown]
            exact .verified verify (positive_head _ _ _ _ _) rfl rfl rfl
      · rw [if_neg verify]
        by_cases transition : req 1 &&& 0x7F = LinkControlSubFunc.transitionBaudrate
        · rw [if_pos transition]
          cases before : svc.verified with
          | false =>
            rw [if_pos rfl]
            refine refused _ fun accepts => ?_
            rcases accepts.2.2 with fixed | other
            · exact verify fixed.1
            · cases before.symm.trans other.2
          | true =>
            have long := Nat.le_of_not_lt short
            rw [if_neg fun no => nomatch no]
            cases given : svc.callback with
            | none =>
              refine .switched transition long gated (positive_head _ _ _ _ _) before rfl given.symm ?_
              rw [given]
              rfl
            | some callback =>
              refine .switched transition long gated (positive_head _ _ _ _ _) before rfl given.symm ?_
              rw [given]
              rfl
        · rw [if_neg transition]
          refine refused _ fun accepts => ?_
          rcases accepts.2.2 with fixed | other
          · exact verify fixed.1
          · exact transition other.1

end LinkControlService

namespace AskEntry

variable {ω : Type}

def Granted (entry : AskEntry ω) (service : Service) : Prop :=
  entry.event.service = service ∧ entry.output.head? ≠ some ServiceId.negativeResponse

instance (entry : AskEntry ω) (service : Service) : Decidable (Granted entry service) :=
  inferInstanceAs (Decidable (_ ∧ _))

def arms (entry : AskEntry ω) (_ : Unit) : Option (Option Word) :=
  if Granted entry .linkControl then
    some (if entry.event.req 1 &&& 0x7F = LinkControlSubFunc.verifyBaudrateTransitionWithFixedBaudrate then
      some (LinkControlService.resolveFixedBaudrate (entry.event.req 3)) else none)
  else none

def AsksTransition (entry : AskEntry ω) : Prop :=
  entry.event.service = .linkControl ∧ 2 ≤ entry.event.reqLen ∧ entry.event.session.session ≠ .default ∧
    entry.event.req 1 &&& 0x7F = LinkControlSubFunc.transitionBaudrate

instance (entry : AskEntry ω) : Decidable (AsksTransition entry) := inferInstanceAs (Decidable (_ ∧ _ ∧ _ ∧ _))

def rates (target : Target) (entry : AskEntry ω) : List Word :=
  (entry.event.service.handle target entry.before entry.event.req entry.event.reqLen entry.event.resp
    entry.event.respLen entry.event.session).1.calls.filterMap Call.rate

end AskEntry

/-- A transition is granted when a rate is verified, and then switches to that rate; nothing else switches. -/
structure TwoPhase {ω : Type} (target : Target) (installed : Bool) (verified : Option Word) (entry : AskEntry ω) :
    Prop where
  granted : AskEntry.AsksTransition entry → (AskEntry.Granted entry .linkControl ↔ verified.isSome = true)
  switches : AskEntry.rates target entry =
    if AskEntry.AsksTransition entry ∧ installed = true then verified.toList else []

section

variable {ω : Type} (target : Target)

theorem rates_none {κ : Type} (calls : List κ) (call : κ → Call) (other : ∀ one, (call one).rate = none) :
    (calls.map call).filterMap Call.rate = [] := by
  rw [List.filterMap_map, List.filterMap_eq_nil_iff]
  exact fun one _ => other one

theorem rates_baudrate (calls : List LinkControlCall) :
    (calls.map Call.baudrate).filterMap Call.rate = calls.map LinkControlCall.newBaudrateBps := by
  rw [List.filterMap_map]
  exact congrFun List.filterMap_eq_map calls

/-- The other services do not touch the link. -/
theorem link_untouched (ecu : Ecu ω) (ask : Ask) (other : ask.service ≠ .linkControl) :
    ((serviceSet ω target).next ecu ask).1.linkControl = ecu.1.linkControl ∧
      AskEntry.rates target ((serviceSet ω target).entry ecu ask) = [] := by
  obtain ⟨service, req, reqLen, resp, respLen, session⟩ := ask
  cases service with
  | linkControl => exact absurd rfl other
  | clearDiagnosticInformation | readDtcInformation | testerPresent | responseOnEvent =>
    exact ⟨rfl, rates_none _ _ fun none => none.elim⟩
  | _ => exact ⟨rfl, rates_none _ _ fun _ => rfl⟩

/-- What a step does to the verified rate, and to the link. -/
theorem entry_link (ecu : Ecu ω) (ask : Ask) :
    ((serviceSet ω target).next ecu ask).1.linkControl.callback = ecu.1.linkControl.callback ∧
      ((serviceSet ω target).next ecu ask).1.linkControl.armed =
        (AskEntry.arms ((serviceSet ω target).entry ecu ask) ()).getD ecu.1.linkControl.armed ∧
      TwoPhase target ecu.1.linkControl.callback.isSome ecu.1.linkControl.armed
        ((serviceSet ω target).entry ecu ask) := by
  by_cases other : ask.service ≠ .linkControl
  · obtain ⟨same, silent⟩ := link_untouched target ecu ask other
    have none : AskEntry.arms ((serviceSet ω target).entry ecu ask) () = none := if_neg fun granted => other granted.1
    have apart : ¬ AskEntry.AsksTransition ((serviceSet ω target).entry ecu ask) := fun asks => other asks.1
    rw [same, none]
    refine ⟨rfl, rfl, fun asks => absurd asks apart, ?_⟩
    rw [silent, if_neg fun both => apart both.1]
  · obtain ⟨service, req, reqLen, resp, respLen, session⟩ := ask
    have link : service = .linkControl := Decidable.of_not_not other
    subst link
    have effect := ecu.1.linkControl.handle_effect req reqLen resp respLen session ecu.2
    generalize entered : (serviceSet ω target).entry ecu ⟨.linkControl, req, reqLen, resp, respLen, session⟩ = entry
    have event : entry.event = ⟨.linkControl, req, reqLen, resp, respLen, session⟩ := by rw [← entered]; rfl
    have granted : AskEntry.Granted entry .linkControl ↔
        (ecu.1.linkControl.handle req reqLen resp respLen session ecu.2).message.head? ≠
          some ServiceId.negativeResponse := by
      rw [← entered]
      exact ⟨And.right, fun yes => ⟨rfl, yes⟩⟩
    have asks : AskEntry.AsksTransition entry ↔ 2 ≤ reqLen ∧ session.session ≠ .default ∧
        req 1 &&& 0x7F = LinkControlSubFunc.transitionBaudrate := by
      rw [← entered]
      exact ⟨And.right, fun rest => ⟨rfl, rest⟩⟩
    have rates : AskEntry.rates target entry = (ecu.1.linkControl.handle req reqLen resp respLen session
        ecu.2).calls.map LinkControlCall.newBaudrateBps := by
      rw [← entered]
      exact rates_baudrate _
    show (ecu.1.linkControl.handle req reqLen resp respLen session ecu.2).state.1.callback = _ ∧
      (ecu.1.linkControl.handle req reqLen resp respLen session ecu.2).state.1.armed = _ ∧ _
    generalize ecu.1.linkControl.handle req reqLen resp respLen session ecu.2 = handled at effect granted rates ⊢
    cases effect with
    | refused denied no state calls =>
      have ungranted : ¬ AskEntry.Granted entry .linkControl := fun yes => granted.mp yes no
      have unarmed : AskEntry.AsksTransition entry → ecu.1.linkControl.armed = none := by
        intro asked
        obtain ⟨long, gated, sub⟩ := asks.mp asked
        exact if_neg fun verified => denied ⟨long, gated, Or.inr ⟨sub, verified⟩⟩
      have silent : AskEntry.arms entry () = none := if_neg ungranted
      rw [state, silent]
      refine ⟨rfl, rfl, fun asked => ?_, ?_⟩
      · rw [unarmed asked]
        exact iff_of_false ungranted Bool.false_ne_true
      · rw [rates, calls]
        by_cases asked : AskEntry.AsksTransition entry
        · rw [unarmed asked]
          exact (ite_self []).symm
        · rw [if_neg fun both => asked both.1]
          rfl
    | verified sub yes armed callback calls =>
      have other : ¬ AskEntry.AsksTransition entry := by
        intro asked
        have transition := (asks.mp asked).2.2
        rw [sub] at transition
        exact absurd transition (by decide)
      have arms : AskEntry.arms entry () = some (some (LinkControlService.resolveFixedBaudrate (req 3))) := by
        rw [AskEntry.arms, if_pos (granted.mpr yes), event]
        exact congrArg some (if_pos sub)
      rw [arms, armed, callback]
      refine ⟨rfl, rfl, fun asked => absurd asked other, ?_⟩
      rw [rates, calls, if_neg fun both => other both.1]
      rfl
    | switched sub long gated yes before after callback calls =>
      have asked := asks.mpr ⟨long, gated, sub⟩
      have different : ¬ req 1 &&& 0x7F = LinkControlSubFunc.verifyBaudrateTransitionWithFixedBaudrate := by
        rw [sub]
        decide
      have arms : AskEntry.arms entry () = some none := by
        rw [AskEntry.arms, if_pos (granted.mpr yes), event]
        exact congrArg some (if_neg different)
      have verified : ecu.1.linkControl.armed = some ecu.1.linkControl.pendingBaudrate := if_pos before
      rw [arms, after, callback, verified]
      refine ⟨rfl, rfl, fun _ => iff_of_true (granted.mpr yes) rfl, ?_⟩
      rw [rates, calls]
      by_cases installed : ecu.1.linkControl.callback.isSome = true
      · rw [if_pos installed, if_pos ⟨asked, installed⟩]
        rfl
      · rw [if_neg installed, if_neg fun both => installed both.2]

end

/-- The change of the baud rate takes two steps, whatever happens in between: along any run a transition is
    granted exactly when the last LinkControl request that was granted verified a rate, and it is that rate
    that the application switches to, once. Not even the end of the session takes it back. -/
theorem link_two_phase {ω : Type} (target : Target) (handlers : Handlers ω) (world : ω)
    (callback : Option (Word → ω → Bool × ω)) (fresh : handlers.linkControl = .create callback) (asks : List Ask)
    (past later : List (AskEntry ω)) (entry : AskEntry ω)
    (split : (serviceSet ω target).trace (handlers, world) asks = past ++ entry :: later) :
    TwoPhase target callback.isSome (stored AskEntry.arms (fun _ => none) past ()) entry := by
  have initial : (handlers, world).1.linkControl.callback = callback := by rw [fresh]; rfl
  have unarmed : (fun _ : Unit => handlers.linkControl.armed) = fun _ => none := by rw [fresh]; rfl
  rw [← unarmed]
  refine (serviceSet ω target).shows_stored (fun ecu _ => ecu.1.linkControl.armed) AskEntry.arms
    (fun rate entry => TwoPhase target callback.isSome (rate ()) entry)
    (fun ecu ask (same : ecu.1.linkControl.callback = callback) => (entry_link target ecu ask).1.trans same)
    ?_ initial ?_ split
  · intro ecu ask same
    have link := (entry_link target ecu ask).2.2
    rw [same] at link
    exact link
  · intro entry member _ _
    obtain ⟨ecu, ask, rfl⟩ := (serviceSet ω target).entry_of_mem_trace member
    exact (entry_link target ecu ask).2.1

def switching : Handlers (List Word) :=
  { Handlers.bare with linkControl := .create (some fun rate noted => (true, noted ++ [rate])) }

def asksLink (session : SessionType) (bytes : List Byte) : Ask :=
  { asking .linkControl bytes with session := { UdsSession.create kDefaultTiming with session := session } }

def takesUpRate : List Ask :=
  [asksLink .extended [0x87, 0x01, 0x00, 0x05], asksLink .default [0x87, 0x03], asking .testerPresent [0x3E, 0x00],
    asksLink .programming [0x87, 0x83]]

theorem link_two_phase_switched :
    TwoPhase .cortexM true (stored AskEntry.arms (fun _ => none)
        ((serviceSet (List Word) .cortexM).trace (switching, []) takesUpRate) ())
        ((serviceSet (List Word) .cortexM).entry ((serviceSet (List Word) .cortexM).run (switching, []) takesUpRate)
          (asksLink .programming [0x87, 0x03])) ∧
      ((serviceSet (List Word) .cortexM).run (switching, []) takesUpRate).2 = [500000] := by
  refine ⟨?_, by decide⟩
  exact link_two_phase .cortexM switching [] _ rfl (takesUpRate ++ [asksLink .programming [0x87, 0x03]]) _ [] _
    (Machine.trace_snoc ..)

end Uds
