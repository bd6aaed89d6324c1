import PulseEcu.Services.HandlerContract
import PulseEcu.Services.ReadDataByIdentifier

open Foundation

namespace Uds

def identifierAt (req : Region Byte) (offset : Nat) : BitVec 16 :=
  ((req offset).setWidth 16 <<< 8) ||| (req (offset + 1)).setWidth 16

def highByte (id : BitVec 16) : Byte := (id >>> 8).setWidth 8

def lowByte (id : BitVec 16) : Byte := (id &&& 0xFF).setWidth 8

def optionRecord (req : Region Byte) (reqLen : Nat) : Option (Region Byte) :=
  if reqLen > 4 then some (req.advance 4) else none

def optionLen (reqLen : Nat) : Nat := if reqLen > 4 then reqLen - 4 else 0

structure Filled where
  ok : Bool
  cells : Region Byte
  len : Nat

structure Filled.Within (room : Nat) (cells : Region Byte) (filled : Filled) : Prop where
  len : filled.len ≤ room
  kept : Region.KeptFrom room cells filled.cells

structure WriteDidCall where
  did : BitVec 16
  data : List Byte
  stored : Bool
  deriving DecidableEq

structure WriteDataByIdentifierService (σ : Type) where
  dids : List (DataIdentifier σ)

namespace WriteDataByIdentifierService

variable {σ : Type}

def serviceId : ServiceId := .writeDataByIdentifier

def create : WriteDataByIdentifierService σ := ⟨[]⟩

def registerDid (svc : WriteDataByIdentifierService σ) (entry : DataIdentifier σ) :
    Bool × WriteDataByIdentifierService σ :=
  if svc.dids.length ≥ kMaxDataIdentifiers then (false, svc) else (true, ⟨svc.dids ++ [entry]⟩)

def findDid (svc : WriteDataByIdentifierService σ) (did : BitVec 16) : Option (DataIdentifier σ) :=
  svc.dids.find? fun entry => entry.did = did

def handle (svc : WriteDataByIdentifierService σ) (req : Region Byte) (reqLen : Nat) (resp : Region Byte)
    (_respLen : Nat) (_session : UdsSession) (state : σ) : Handled WriteDidCall σ :=
  if reqLen < 4 then negative resp serviceId .incorrectMessageLengthOrInvalidFormat state []
  else
    let didId := identifierAt req 1
    match svc.findDid didId with
    | none => negative resp serviceId .requestOutOfRange state []
    | some did =>
      match did.writable, did.writeFn with
      | true, some writeFn =>
        let dataLen := reqLen - 3
        let written := writeFn (req.advance 3) dataLen state
        let calls := [WriteDidCall.mk didId (req.load 3 dataLen) written.1]
        if written.1 then
          ⟨⟨true, resp.store 0 [serviceId + 0x40, highByte didId, lowByte didId], 3, written.2⟩, calls⟩
        else negative resp serviceId .generalProgrammingFailure written.2 calls
      | _, _ => negative resp serviceId .securityAccessDenied state []

def report (call : WriteDidCall) : Report := if call.stored then .done else .failed

def Accepts (svc : WriteDataByIdentifierService σ) (req : Region Byte) (reqLen : Nat) : Prop :=
  4 ≤ reqLen ∧ ∃ did, svc.findDid (identifierAt req 1) = some did ∧ did.writable = true ∧ did.writeFn ≠ none

variable (svc : WriteDataByIdentifierService σ) (req : Region Byte) (reqLen : Nat) (resp : Region Byte) (respLen : Nat)
  (session : UdsSession) (state : σ)

theorem handle_serves : Serves serviceId state (fun _ => True) report (svc.Accepts req reqLen)
    (svc.handle req reqLen resp respLen session state) := by
  unfold handle
  by_cases short : reqLen < 4
  · rw [if_pos short]
    exact .refuse (fun accepts => absurd short (Nat.not_lt.mpr accepts.1)) ..
  · rw [if_neg short]
    dsimp only
    cases found : svc.findDid (identifierAt req 1) with
    | none => exact .refuse (fun ⟨_, _, known, _⟩ => nomatch found.symm.trans known) ..
    | some did =>
      have only : ∀ other, svc.findDid (identifierAt req 1) = some other → other = did :=
        fun other known => Option.some.inj (known.symm.trans found)
      dsimp only
      cases writable : did.writable with
      | false =>
        have denied : ¬ svc.Accepts req reqLen := by
          intro accepts
          obtain ⟨_, other, known, given, _⟩ := accepts
          rw [only other known, writable] at given
          cases given
        exact .refuse denied ..
      | true =>
        cases given : did.writeFn with
        | none =>
          have denied : ¬ svc.Accepts req reqLen := by
            intro accepts
            obtain ⟨_, other, known, _, present⟩ := accepts
            rw [only other known] at present
            exact present given
          exact .refuse denied ..
        | some writeFn =>
          have accepted : svc.Accepts req reqLen :=
            ⟨Nat.le_of_not_lt short, did, found, writable, by rw [given]; exact Option.some_ne_none _⟩
          dsimp only
          cases stored : (writeFn (req.advance 3) (reqLen - 3) state).1 with
          | true => exact .answered accepted rfl (Nat.succ_pos _)
          | false => exact .fail accepted _ _ True.intro (by simp [report])

theorem handle_fits (room : 3 ≤ respLen) :
    Fits respLen resp (svc.handle req reqLen resp respLen session state).toAnswer := by
  have kept := Region.KeptFrom.refl respLen resp
  unfold handle
  split
  · exact .negative kept room ..
  · dsimp only
    split
    · exact .negative kept room ..
    · split
      · split
        · exact .header kept [serviceId + 0x40, highByte (identifierAt req 1), lowByte (identifierAt req 1)] room ..
        · exact .negative kept room ..
      · exact .negative kept room ..

end WriteDataByIdentifierService

def kMaxIoControls : Nat := 32

/-- `enum class IoControlAction : uint8_t`; the cast may give any byte. -/
abbrev IoControlAction := Byte

structure IoControlCall where
  did : BitVec 16
  action : IoControlAction
  option : List Byte
  controlled : Bool
  deriving DecidableEq

/-- `control` gets the action, the option record, if there is one, its length, the memory from
    `resp_record` on and the space there. -/
structure IoControlEntry (σ : Type) where
  did : BitVec 16
  control : IoControlAction → Option (Region Byte) → Nat → Region Byte → Nat → σ → Filled × σ
  requiredSession : SessionType

structure InputOutputControlByIdentifierService (σ : Type) where
  controls : List (IoControlEntry σ)

namespace InputOutputControlByIdentifierService

variable {σ : Type}

def serviceId : ServiceId := .inputOutputControlByIdentifier

def create : InputOutputControlByIdentifierService σ := ⟨[]⟩

def registerIoControl (svc : InputOutputControlByIdentifierService σ) (entry : IoControlEntry σ) :
    Bool × InputOutputControlByIdentifierService σ :=
  if svc.controls.length ≥ kMaxIoControls then (false, svc) else (true, ⟨svc.controls ++ [entry]⟩)

def find (svc : InputOutputControlByIdentifierService σ) (did : BitVec 16) : Option (IoControlEntry σ) :=
  svc.controls.find? fun entry => entry.did = did

def handle (svc : InputOutputControlByIdentifierService σ) (req : Region Byte) (reqLen : Nat) (resp : Region Byte)
    (respLen : Nat) (session : UdsSession) (state : σ) : Handled IoControlCall σ :=
  if reqLen < 4 then negative resp serviceId .incorrectMessageLengthOrInvalidFormat state []
  else
    let didId := identifierAt req 1
    let action := req 3
    match svc.find didId with
    | none => negative resp serviceId .requestOutOfRange state []
    | some ctrl =>
      if ctrl.requiredSession ≠ .default ∧ ctrl.requiredSession ≠ session.session then
        negative resp serviceId .serviceNotSupportedInActiveSession state []
      else
        let header := resp.store 0 [serviceId + 0x40, highByte didId, lowByte didId, action]
        let result := ctrl.control action (optionRecord req reqLen) (optionLen reqLen) (header.advance 4) (respLen - 4) state
        let calls := [IoControlCall.mk didId action (req.load 4 (optionLen reqLen)) result.1.ok]
        if result.1.ok then ⟨⟨true, header.graft 4 result.1.cells, 4 + result.1.len, result.2⟩, calls⟩
        else negative (header.graft 4 result.1.cells) serviceId .conditionsNotCorrect result.2 calls

def report (call : IoControlCall) : Report := if call.controlled then .done else .failed

def Accepts (svc : InputOutputControlByIdentifierService σ) (req : Region Byte) (reqLen : Nat) (session : UdsSession) :
    Prop :=
  4 ≤ reqLen ∧ ∃ ctrl, svc.find (identifierAt req 1) = some ctrl ∧
    ¬ (ctrl.requiredSession ≠ .default ∧ ctrl.requiredSession ≠ session.session)

def Bounded (svc : InputOutputControlByIdentifierService σ) : Prop :=
  ∀ ctrl ∈ svc.controls, ∀ action option optionLen cells room state,
    (ctrl.control action option optionLen cells room state).1.Within room cells

variable (svc : InputOutputControlByIdentifierService σ) (req : Region Byte) (reqLen : Nat) (resp : Region Byte)
  (respLen : Nat) (session : UdsSession) (state : σ)

theorem handle_serves : Serves serviceId state (fun _ => True) report (svc.Accepts req reqLen session)
    (svc.handle req reqLen resp respLen session state) := by
  unfold handle
  by_cases short : reqLen < 4
  · rw [if_pos short]
    exact .refuse (fun accepts => absurd short (Nat.not_lt.mpr accepts.1)) ..
  · rw [if_neg short]
    dsimp only
    cases found : svc.find (identifierAt req 1) with
    | none => exact .refuse (fun ⟨_, _, known, _⟩ => nomatch found.symm.trans known) ..
    | some ctrl =>
      dsimp only
      by_cases gated : ctrl.requiredSession ≠ .default ∧ ctrl.requiredSession ≠ session.session
      · rw [if_pos gated]
        have denied : ¬ svc.Accepts req reqLen session := by
          intro accepts
          obtain ⟨_, other, known, allowed⟩ := accepts
          rw [Option.some.inj (known.symm.trans found)] at allowed
          exact allowed gated
        exact .refuse denied ..
      · rw [if_neg gated]
        have accepted : svc.Accepts req reqLen session := ⟨Nat.le_of_not_lt short, ctrl, found, gated⟩
        split
        · exact .answered accepted rfl (Nat.add_pos_left (Nat.succ_pos _) _)
        · rename_i failed
          exact .fail accepted _ _ True.intro (by rw [report, if_neg failed]; decide)

theorem handle_fits (bounded : svc.Bounded) (room : 4 ≤ respLen) :
    Fits respLen resp (svc.handle req reqLen resp respLen session state).toAnswer := by
  have kept := Region.KeptFrom.refl respLen resp
  have three : 3 ≤ respLen := by omega
  have header : Region.KeptFrom respLen resp (resp.store 0 [serviceId + 0x40, highByte (identifierAt req 1),
    lowByte (identifierAt req 1), req 3]) := kept.store room
  unfold handle
  dsimp only
  split
  · exact .negative kept three ..
  · split
    · exact .negative kept three ..
    · rename_i ctrl found
      split
      · exact .negative kept three ..
      · have called := bounded ctrl (List.mem_of_find?_eq_some found) (req 3) (optionRecord req reqLen) (optionLen reqLen)
          ((resp.store 0 [serviceId + 0x40, highByte (identifierAt req 1), lowByte (identifierAt req 1), req 3]).advance 4)
          (respLen - 4) state
        have grafted := header.graft (by omega) called.kept
        split
        · have length := called.len
          exact ⟨by dsimp only; omega, grafted⟩
        · exact .negative grafted three ..

end InputOutputControlByIdentifierService

def kMaxRoutines : Nat := 32
def kMaxRoutineResultLen : Nat := 512

namespace RoutineSubFunc

def startRoutine : Byte := 0x01
def stopRoutine : Byte := 0x02
def requestResults : Byte := 0x03

end RoutineSubFunc

structure RoutineCall where
  id : BitVec 16
  sub : Byte
  option : List Byte
  ok : Bool
  deriving DecidableEq

/-- `start` and `stop` get the option record, if there is one, its length, the memory from
    `resp_record` on and the length that comes in; `results` gets the last two. -/
structure RoutineEntry (σ : Type) where
  id : BitVec 16
  start : Option (Option (Region Byte) → Nat → Region Byte → Nat → σ → Filled × σ)
  stop : Option (Option (Region Byte) → Nat → Region Byte → Nat → σ → Filled × σ)
  results : Option (Region Byte → Nat → σ → Filled × σ)
  requiredSession : SessionType

structure RoutineControlService (σ : Type) where
  routines : List (RoutineEntry σ)

namespace RoutineControlService

variable {σ : Type}

def serviceId : ServiceId := .routineControl

def create : RoutineControlService σ := ⟨[]⟩

def registerRoutine (svc : RoutineControlService σ) (entry : RoutineEntry σ) : Bool × RoutineControlService σ :=
  if svc.routines.length ≥ kMaxRoutines then (false, svc) else (true, ⟨svc.routines ++ [entry]⟩)

def findRoutine (svc : RoutineControlService σ) (id : BitVec 16) : Option (RoutineEntry σ) :=
  svc.routines.find? fun entry => entry.id = id

def conclude (header : Region Byte) (call : Bool → RoutineCall) (result : Filled × σ) : Handled RoutineCall σ :=
  if result.1.ok then ⟨⟨true, header.graft 4 result.1.cells, 4 + result.1.len, result.2⟩, [call result.1.ok]⟩
  else
    negative (header.graft 4 result.1.cells) serviceId .failurePreventsExecutionOfRequestedAction result.2
      [call result.1.ok]

def handle (svc : RoutineControlService σ) (req : Region Byte) (reqLen : Nat) (resp : Region Byte) (_respLen : Nat)
    (session : UdsSession) (state : σ) : Handled RoutineCall σ :=
  if reqLen < 4 then negative resp serviceId .incorrectMessageLengthOrInvalidFormat state []
  else
    let sub := req 1
    let rtnId := identifierAt req 2
    if sub < 0x01 ∨ sub > 0x03 then negative resp serviceId .subFunctionNotSupported state []
    else
      match svc.findRoutine rtnId with
      | none => negative resp serviceId .requestOutOfRange state []
      | some rtn =>
        if rtn.requiredSession ≠ .default ∧ rtn.requiredSession ≠ session.session then
          negative resp serviceId .serviceNotSupportedInActiveSession state []
        else
          let header := resp.store 0 [serviceId + 0x40, sub, highByte rtnId, lowByte rtnId]
          let opt := optionRecord req reqLen
          let optLen := optionLen reqLen
          let call := RoutineCall.mk rtnId sub (req.load 4 optLen)
          -- `rec_len` comes in as 0, and no limit goes with it
          if sub = RoutineSubFunc.startRoutine then
            match rtn.start with
            | none => negative header serviceId .subFunctionNotSupported state []
            | some start => conclude header call (start opt optLen (header.advance 4) 0 state)
          else if sub = RoutineSubFunc.stopRoutine then
            match rtn.stop with
            | none => negative header serviceId .subFunctionNotSupported state []
            | some stop => conclude header call (stop opt optLen (header.advance 4) 0 state)
          else
            match rtn.results with
            | none => negative header serviceId .requestSequenceError state []
            | some results => conclude header call (results (header.advance 4) 0 state)

def report (call : RoutineCall) : Report := if call.ok then .done else .failed

def Offers (rtn : RoutineEntry σ) (sub : Byte) : Prop :=
  if sub = RoutineSubFunc.startRoutine then rtn.start ≠ none
  else if sub = RoutineSubFunc.stopRoutine then rtn.stop ≠ none
  else rtn.results ≠ none

def Accepts (svc : RoutineControlService σ) (req : Region Byte) (reqLen : Nat) (session : UdsSession) : Prop :=
  4 ≤ reqLen ∧ ¬ (req 1 < 0x01 ∨ req 1 > 0x03) ∧ ∃ rtn, svc.findRoutine (identifierAt req 2) = some rtn ∧
    ¬ (rtn.requiredSession ≠ .default ∧ rtn.requiredSession ≠ session.session) ∧ Offers rtn (req 1)

structure BoundedRoutine (rtn : RoutineEntry σ) : Prop where
  start : ∀ function, rtn.start = some function → ∀ option optionLen cells recLen state,
    (function option optionLen cells recLen state).1.Within kMaxRoutineResultLen cells
  stop : ∀ function, rtn.stop = some function → ∀ option optionLen cells recLen state,
    (function option optionLen cells recLen state).1.Within kMaxRoutineResultLen cells
  results : ∀ function, rtn.results = some function → ∀ cells recLen state,
    (function cells recLen state).1.Within kMaxRoutineResultLen cells

def Bounded (svc : RoutineControlService σ) : Prop := ∀ rtn ∈ svc.routines, BoundedRoutine rtn

theorem conclude_serves {accepts : Prop} (accepted : accepts) (state : σ) (header : Region Byte)
    (first : header 0 = serviceId + 0x40)
    (id : BitVec 16) (sub : Byte) (option : List Byte) (result : Filled × σ) :
    Serves serviceId state (fun _ => True) report accepts (conclude header (.mk id sub option) result) := by
  unfold conclude
  split
  · have kept := (Region.graft_before header result.1.cells 4 0 (by decide)).trans first
    exact .answered accepted kept (Nat.add_pos_left (Nat.succ_pos _) _)
  · rename_i failed
    exact .fail accepted _ _ True.intro (by rw [report, if_neg failed]; decide)

theorem conclude_fits {respLen : Nat} {resp header : Region Byte} (kept : Region.KeptFrom respLen resp header)
    (room : 516 ≤ respLen) (call : Bool → RoutineCall) (result : Filled × σ)
    (within : result.1.Within kMaxRoutineResultLen (header.advance 4)) :
    Fits respLen resp (conclude header call result).toAnswer := by
  have grafted := kept.graft (show 4 + kMaxRoutineResultLen ≤ respLen from room) within.kept
  unfold conclude
  split
  · exact ⟨Nat.le_trans (Nat.add_le_add_left within.len 4) room, grafted⟩
  · exact .negative grafted (by omega) ..

variable (svc : RoutineControlService σ) (req : Region Byte) (reqLen : Nat) (resp : Region Byte)
  (respLen : Nat) (session : UdsSession) (state : σ)

theorem handle_serves : Serves serviceId state (fun _ => True) report (svc.Accepts req reqLen session)
    (svc.handle req reqLen resp respLen session state) := by
  unfold handle
  by_cases short : reqLen < 4
  · rw [if_pos short]
    exact .refuse (fun accepts => absurd short (Nat.not_lt.mpr accepts.1)) ..
  · rw [if_neg short]
    dsimp only
    by_cases outside : req 1 < 0x01 ∨ req 1 > 0x03
    · rw [if_pos outside]
      exact .refuse (fun accepts => accepts.2.1 outside) ..
    · rw [if_neg outside]
      cases found : svc.findRoutine (identifierAt req 2) with
      | none => exact .refuse (fun ⟨_, _, _, known, _⟩ => nomatch found.symm.trans known) ..
      | some rtn =>
        have only : ∀ other, svc.findRoutine (identifierAt req 2) = some other → other = rtn :=
          fun other known => Option.some.inj (known.symm.trans found)
        have absent : ¬ Offers rtn (req 1) → ¬ svc.Accepts req reqLen session := by
          intro missing accepts
          obtain ⟨_, _, other, known, _, offers⟩ := accepts
          rw [only other known] at offers
          exact missing offers
        dsimp only
        by_cases gated : rtn.requiredSession ≠ .default ∧ rtn.requiredSession ≠ session.session
        · rw [if_pos gated]
          have denied : ¬ svc.Accepts req reqLen session := by
            intro accepts
            obtain ⟨_, _, other, known, allowed, _⟩ := accepts
            rw [only other known] at allowed
            exact allowed gated
          exact .refuse denied ..
        · rw [if_neg gated]
          have accepted : Offers rtn (req 1) → svc.Accepts req reqLen session :=
            fun offers => ⟨Nat.le_of_not_lt short, outside, rtn, found, gated, offers⟩
          by_cases start : req 1 = RoutineSubFunc.startRoutine
          · rw [Offers, if_pos start] at absent accepted
            rw [if_pos start]
            cases given : rtn.start with
            | none => exact .refuse (absent (not_not_intro given)) ..
            | some function => exact conclude_serves (accepted (by simp [given])) state _ rfl ..
          · rw [Offers, if_neg start] at absent accepted
            rw [if_neg start]
            by_cases stop : req 1 = RoutineSubFunc.stopRoutine
            · rw [if_pos stop] at absent accepted
              rw [if_pos stop]
              cases given : rtn.stop with
              | none => exact .refuse (absent (not_not_intro given)) ..
              | some function => exact conclude_serves (accepted (by simp [given])) state _ rfl ..
            · rw [if_neg stop] at absent accepted
              rw [if_neg stop]
              cases given : rtn.results with
              | none => exact .refuse (absent (not_not_intro given)) ..
              | some function => exact conclude_serves (accepted (by simp [given])) state _ rfl ..

theorem handle_fits (bounded : svc.Bounded) (room : 516 ≤ respLen) :
    Fits respLen resp (svc.handle req reqLen resp respLen session state).toAnswer := by
  have kept := Region.KeptFrom.refl respLen resp
  have three : 3 ≤ respLen := by omega
  have four : 4 ≤ respLen := by omega
  have header : Region.KeptFrom respLen resp (resp.store 0 [serviceId + 0x40, req 1, highByte (identifierAt req 2),
    lowByte (identifierAt req 2)]) := kept.store four
  unfold handle
  dsimp only
  split
  · exact .negative kept three ..
  · split
    · exact .negative kept three ..
    · split
      · exact .negative kept three ..
      · rename_i rtn found
        have routine := bounded rtn (List.mem_of_find?_eq_some found)
        split
        · exact .negative kept three ..
        · split
          · cases given : rtn.start with
            | none => exact .negative header three ..
            | some function => exact conclude_fits header room _ _ (routine.start function given ..)
          · split
            · cases given : rtn.stop with
              | none => exact .negative header three ..
              | some function => exact conclude_fits header room _ _ (routine.stop function given ..)
            · cases given : rtn.results with
              | none => exact .negative header three ..
              | some function => exact conclude_fits header room _ _ (routine.results function given ..)

end RoutineControlService

end Uds
