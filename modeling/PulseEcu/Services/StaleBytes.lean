import PulseEcu.Foundation.Agreement
import PulseEcu.Services.DtcReports
import PulseEcu.Services.ServiceSet

open Foundation

namespace Uds

structure SameBytes (one other : Region Byte × Nat) : Prop where
  len : one.2 = other.2
  bytes : Region.Agree one.2 one.1 other.1

structure Answer.Alike {σ : Type} (one other : Answer σ) : Prop where
  send : one.send = other.send
  bytes : SameBytes (one.resp, one.respLen) (other.resp, other.respLen)
  state : one.state = other.state

/-- An application function that reads a buffer takes nothing from behind the bytes it is given. -/
def Reads {α : Type} (function : Region Byte → Nat → α) : Prop :=
  ∀ data other len, Region.Agree len data other → function data len = function other len

structure SameFilled {σ : Type} (one other : Filled × σ) : Prop where
  ok : one.1.ok = other.1.ok
  bytes : SameBytes (one.1.cells, one.1.len) (other.1.cells, other.1.len)
  state : one.2 = other.2

inductive SameRecord (len : Nat) : Option (Region Byte) → Option (Region Byte) → Prop
  | absent : SameRecord len none none
  | present {one other : Region Byte} (agree : Region.Agree len one other) : SameRecord len (some one) (some other)

section

variable {κ μ σ τ : Type} {sid : ServiceId} {reqLen : Nat} {req other : Region Byte}

theorem Answer.Alike.message {one other : Answer σ} (alike : one.Alike other) : one.message = other.message := by
  have len : one.respLen = other.respLen := alike.bytes.len
  have bytes : Region.Agree one.respLen one.resp other.resp := alike.bytes.bytes
  unfold Answer.message
  rw [alike.send, ← len, bytes.load (Nat.le_of_eq (Nat.zero_add _))]

theorem Answer.Alike.map {one other : Handled κ σ} (alike : one.toAnswer.Alike other.toAnswer) (state : σ → τ)
    (call another : κ → μ) : (one.map state call).toAnswer.Alike (other.map state another).toAnswer :=
  ⟨alike.send, alike.bytes, congrArg state alike.state⟩

theorem Answer.Alike.ite {c : Prop} [Decidable c] {one two other another : Handled κ σ}
    (yes : c → one.toAnswer.Alike two.toAnswer) (no : ¬ c → other.toAnswer.Alike another.toAnswer) :
    (if c then one else other).toAnswer.Alike (if c then two else another).toAnswer := by
  by_cases holds : c
  · rw [if_pos holds, if_pos holds]
    exact yes holds
  · rw [if_neg holds, if_neg holds]
    exact no holds

theorem negative_alike (resp before : Region Byte) (nrc : NrcCode) (state : σ) (calls others : List κ) :
    (negative resp sid nrc state calls).toAnswer.Alike (negative before sid nrc state others).toAnswer :=
  ⟨rfl, ⟨rfl, Region.Agree.written resp before [ServiceId.negativeResponse, sid, nrc.toByte]⟩, rfl⟩

theorem stored_alike (resp before : Region Byte) (send : Bool) (bytes : List Byte) (state : σ) :
    Answer.Alike ⟨send, resp.store 0 bytes, bytes.length, state⟩ ⟨send, before.store 0 bytes, bytes.length, state⟩ :=
  ⟨rfl, ⟨rfl, Region.Agree.written resp before bytes⟩, rfl⟩

theorem grafted_alike (resp before : Region Byte) (send : Bool) (bytes : List Byte) {one other : Region Byte × Nat}
    (same : SameBytes one other) (state : σ) :
    Answer.Alike ⟨send, (resp.store 0 bytes).graft bytes.length one.1, bytes.length + one.2, state⟩
      ⟨send, (before.store 0 bytes).graft bytes.length other.1, bytes.length + other.2, state⟩ :=
  ⟨rfl, ⟨congrArg (bytes.length + ·) same.len, (Region.Agree.written resp before bytes).graft same.bytes⟩, rfl⟩

theorem optionRecord_same (same : Region.Agree reqLen req other) :
    SameRecord (optionLen reqLen) (optionRecord req reqLen) (optionRecord other reqLen) := by
  unfold optionLen optionRecord
  by_cases long : reqLen > 4
  · simp only [if_pos long]
    exact .present (same.advance 4)
  · simp only [if_neg long]
    exact .absent

theorem identifierAt_same (same : Region.Agree reqLen req other) {offset : Nat} (inside : offset + 1 < reqLen) :
    identifierAt req offset = identifierAt other offset := by
  rw [identifierAt, identifierAt, same offset (by omega), same (offset + 1) inside]

theorem parseAddress_same (same : Region.Agree reqLen req other) {offset : Nat} {format : Byte}
    (inside : offset + addrLenOf format ≤ reqLen) : parseAddress req offset format = parseAddress other offset format := by
  rw [parseAddress, parseAddress, same.load inside]

theorem parseSize_same (same : Region.Agree reqLen req other) (target : Target) {offset : Nat} {format : Byte}
    (inside : offset + addrLenOf format + sizeLenOf format ≤ reqLen) :
    parseSize req offset format target = parseSize other offset format target := by
  rw [parseSize, parseSize, same.load inside]

end

section

variable {σ : Type} {reqLen : Nat} {req other : Region Byte} (same : Region.Agree reqLen req other)
  (resp before : Region Byte) (respLen : Nat) (session : UdsSession)

include same

theorem DiagnosticSessionControlService.handle_alike (svc : DiagnosticSessionControlService σ) (state : σ) :
    (svc.handle req reqLen resp respLen session state).1.toAnswer.Alike
      (svc.handle other reqLen before respLen session state).1.toAnswer := by
  unfold handle
  by_cases short : reqLen < 2
  · simp only [if_pos short]
    exact negative_alike ..
  · rw [if_neg short, if_neg short, same 1 (by omega)]
    dsimp only
    by_cases outside : other 1 &&& 0x7F < 0x01 ∨ other 1 &&& 0x7F > 0x03
    · simp only [if_pos outside]
      exact negative_alike ..
    · simp only [if_neg outside]
      by_cases entered : (session.transition (SessionType.ofByte (other 1 &&& 0x7F))).1 = true
      · simp only [if_pos entered]
        cases svc.callback with
        | none => exact stored_alike resp before _ (positive _ _) _
        | some callback => exact stored_alike resp before _ (positive _ _) _
      · simp only [if_neg entered]
        exact negative_alike ..

theorem TesterPresentService.handle_alike (state : σ) :
    (handle req reqLen resp respLen session state).1.toAnswer.Alike
      (handle other reqLen before respLen session state).1.toAnswer := by
  unfold handle
  by_cases short : reqLen < 2
  · simp only [if_pos short]
    exact negative_alike ..
  · rw [if_neg short, if_neg short, same 1 (by omega)]
    dsimp only
    by_cases unknown : other 1 &&& 0x7F ≠ 0x00
    · simp only [if_pos unknown]
      exact negative_alike ..
    · simp only [if_neg unknown]
      exact stored_alike resp before _ [serviceId + 0x40, other 1 &&& 0x7F] _

theorem EcuResetService.handle_alike (svc : EcuResetService σ) (state : σ) :
    (svc.handle req reqLen resp respLen session state).toAnswer.Alike
      (svc.handle other reqLen before respLen session state).toAnswer := by
  unfold handle
  refine .ite (fun _ => negative_alike ..) fun long => ?_
  rw [same 1 (by omega)]
  refine .ite (fun _ => negative_alike ..) fun _ => ?_
  cases svc.callback with
  | none => exact stored_alike resp before _ [serviceId + 0x40, other 1 &&& 0x7F] _
  | some callback => exact stored_alike resp before _ [serviceId + 0x40, other 1 &&& 0x7F] _

theorem CommunicationControlService.handle_alike (svc : CommunicationControlService σ) (state : σ) :
    (svc.handle req reqLen resp respLen session state).toAnswer.Alike
      (svc.handle other reqLen before respLen session state).toAnswer := by
  unfold handle
  refine .ite (fun _ => negative_alike ..) fun long => ?_
  rw [same 1 (by omega), same 2 (by omega)]
  refine .ite (fun _ => negative_alike ..) fun _ => .ite (fun _ => negative_alike ..) fun _ => ?_
  cases svc.callback with
  | none => exact stored_alike resp before _ [serviceId + 0x40, other 1 &&& 0x7F] _
  | some callback => exact stored_alike resp before _ [serviceId + 0x40, other 1 &&& 0x7F] _

theorem LinkControlService.handle_alike (svc : LinkControlService σ) (world : σ) :
    (svc.handle req reqLen resp respLen session world).toAnswer.Alike
      (svc.handle other reqLen before respLen session world).toAnswer := by
  have positive_alike : ∀ (sub : Byte) (suppress : Bool) (state : LinkControlService σ × σ)
      (calls others : List LinkControlCall),
      (positive sub suppress resp state calls).toAnswer.Alike (positive sub suppress before state others).toAnswer :=
    fun sub _ _ _ _ => stored_alike resp before _ [serviceId + 0x40, sub] _
  unfold handle
  refine .ite (fun _ => negative_alike ..) fun long => ?_
  rw [same 1 (by omega)]
  refine .ite (fun _ => negative_alike ..) fun _ => .ite (fun _ => ?_) fun _ => ?_
  · refine .ite (fun _ => negative_alike ..) fun long => ?_
    rw [same 3 (by omega)]
    exact .ite (fun _ => negative_alike ..) fun _ => positive_alike ..
  · refine .ite (fun _ => .ite (fun _ => negative_alike ..) fun _ => ?_) fun _ => negative_alike ..
    cases svc.callback with
    | none => exact positive_alike ..
    | some callback => exact positive_alike ..

theorem ResponseOnEventService.handle_alike (svc : ResponseOnEventService) :
    (svc.handle req reqLen resp respLen session).toAnswer.Alike
      (svc.handle other reqLen before respLen session).toAnswer := by
  have positive_alike : ∀ (sub window : Byte) (suppress : Bool) (svc : ResponseOnEventService),
      (positive sub window suppress resp svc).toAnswer.Alike (positive sub window suppress before svc).toAnswer :=
    fun sub window _ svc => stored_alike resp before _ [serviceId + 0x40, sub, window, svc.eventType] _
  unfold handle
  refine .ite (fun _ => negative_alike ..) fun long => ?_
  rw [same 1 (by omega), same 2 (by omega), same 3 (by omega)]
  exact .ite (fun _ => positive_alike ..) fun _ => .ite (fun _ => positive_alike ..) fun _ =>
    .ite (fun _ => positive_alike ..) fun _ => negative_alike ..

end

namespace ControlDtcSettingService

variable {σ : Type}

def Tidy (svc : ControlDtcSettingService σ) : Prop :=
  ∀ callback, svc.callback = some callback → ∀ type one other len state, SameRecord len one other →
    callback type one len state = callback type other len state

theorem handle_alike {svc : ControlDtcSettingService σ} (tidy : svc.Tidy) {reqLen : Nat} {req other : Region Byte}
    (same : Region.Agree reqLen req other) (resp before : Region Byte) (respLen : Nat) (session : UdsSession) (state : σ) :
    (svc.handle req reqLen resp respLen session state).toAnswer.Alike
      (svc.handle other reqLen before respLen session state).toAnswer := by
  unfold handle
  refine .ite (fun _ => negative_alike ..) fun long => ?_
  rw [same 1 (by omega)]
  refine .ite (fun _ => negative_alike ..) fun _ => .ite (fun _ => negative_alike ..) fun _ => ?_
  cases given : svc.callback with
  | none => exact stored_alike resp before _ [serviceId + 0x40, other 1 &&& 0x7F] _
  | some callback =>
    have record : SameRecord (if reqLen > 2 then reqLen - 2 else 0) (if reqLen > 2 then some (req.advance 2) else none)
        (if reqLen > 2 then some (other.advance 2) else none) := by
      split
      · exact .present (same.advance 2)
      · exact .absent
    dsimp only
    rw [tidy callback given _ _ _ _ _ record]
    exact stored_alike resp before _ [serviceId + 0x40, other 1 &&& 0x7F] _

end ControlDtcSettingService

namespace WriteDataByIdentifierService

variable {σ : Type}

def Tidy (svc : WriteDataByIdentifierService σ) : Prop :=
  ∀ did ∈ svc.dids, ∀ writeFn, did.writeFn = some writeFn → Reads writeFn

theorem handle_alike {svc : WriteDataByIdentifierService σ} (tidy : svc.Tidy) {reqLen : Nat} {req other : Region Byte}
    (same : Region.Agree reqLen req other) (resp before : Region Byte) (respLen : Nat) (session : UdsSession) (state : σ) :
    (svc.handle req reqLen resp respLen session state).toAnswer.Alike
      (svc.handle other reqLen before respLen session state).toAnswer := by
  unfold handle
  refine .ite (fun _ => negative_alike ..) fun long => ?_
  rw [identifierAt_same same (by omega)]
  dsimp only
  cases found : svc.findDid (identifierAt other 1) with
  | none => exact negative_alike ..
  | some did =>
    dsimp only
    cases writable : did.writable with
    | false => exact negative_alike ..
    | true =>
      cases given : did.writeFn with
      | none => exact negative_alike ..
      | some writeFn =>
        have reads := tidy did (List.mem_of_find?_eq_some found) writeFn given
        dsimp only
        rw [reads _ _ _ (same.advance 3)]
        refine .ite (fun _ => ?_) fun _ => negative_alike ..
        exact stored_alike resp before _ [serviceId + 0x40, highByte (identifierAt other 1), lowByte (identifierAt other 1)] _

end WriteDataByIdentifierService

namespace InputOutputControlByIdentifierService

variable {σ : Type}

def Tidy (svc : InputOutputControlByIdentifierService σ) : Prop :=
  ∀ ctrl ∈ svc.controls, ∀ action one other len cells before room state, SameRecord len one other →
    SameFilled (ctrl.control action one len cells room state) (ctrl.control action other len before room state)

theorem handle_alike {svc : InputOutputControlByIdentifierService σ} (tidy : svc.Tidy) {reqLen : Nat}
    {req other : Region Byte} (same : Region.Agree reqLen req other) (resp before : Region Byte) (respLen : Nat)
    (session : UdsSession) (state : σ) :
    (svc.handle req reqLen resp respLen session state).toAnswer.Alike
      (svc.handle other reqLen before respLen session state).toAnswer := by
  unfold handle
  refine .ite (fun _ => negative_alike ..) fun long => ?_
  rw [identifierAt_same same (by omega), same 3 (by omega)]
  dsimp only
  cases found : svc.find (identifierAt other 1) with
  | none => exact negative_alike ..
  | some ctrl =>
    refine .ite (fun _ => negative_alike ..) fun _ => ?_
    have filled := tidy ctrl (List.mem_of_find?_eq_some found) (other 3) _ _ _
      ((resp.store 0 [serviceId + 0x40, highByte (identifierAt other 1), lowByte (identifierAt other 1), other 3]).advance 4)
      ((before.store 0 [serviceId + 0x40, highByte (identifierAt other 1), lowByte (identifierAt other 1), other 3]).advance 4)
      (respLen - 4) state (optionRecord_same same)
    rw [← filled.ok, ← filled.state]
    exact .ite (fun _ => grafted_alike resp before _ [_, _, _, _] filled.bytes _) fun _ => negative_alike ..

end InputOutputControlByIdentifierService

namespace RoutineControlService

variable {σ : Type}

structure TidyRoutine (rtn : RoutineEntry σ) : Prop where
  start : ∀ function, rtn.start = some function → ∀ one other len cells before recLen state, SameRecord len one other →
    SameFilled (function one len cells recLen state)
      (function other len before recLen state)
  stop : ∀ function, rtn.stop = some function → ∀ one other len cells before recLen state, SameRecord len one other →
    SameFilled (function one len cells recLen state)
      (function other len before recLen state)
  results : ∀ function, rtn.results = some function → ∀ cells before recLen state,
    SameFilled (function cells recLen state) (function before recLen state)

def Tidy (svc : RoutineControlService σ) : Prop := ∀ rtn ∈ svc.routines, TidyRoutine rtn

theorem conclude_alike {one other : Filled × σ} (filled : SameFilled one other) (resp before : Region Byte)
    {bytes : List Byte} (four : bytes.length = 4) (call another : Bool → RoutineCall) :
    (conclude (resp.store 0 bytes) call one).toAnswer.Alike (conclude (before.store 0 bytes) another other).toAnswer := by
  unfold conclude
  rw [← filled.ok, ← filled.state, ← four]
  exact .ite (fun _ => grafted_alike resp before true bytes filled.bytes _) fun _ => negative_alike ..

theorem handle_alike {svc : RoutineControlService σ} (tidy : svc.Tidy) {reqLen : Nat} {req other : Region Byte}
    (same : Region.Agree reqLen req other) (resp before : Region Byte) (respLen : Nat) (session : UdsSession) (state : σ) :
    (svc.handle req reqLen resp respLen session state).toAnswer.Alike
      (svc.handle other reqLen before respLen session state).toAnswer := by
  unfold handle
  refine .ite (fun _ => negative_alike ..) fun long => ?_
  rw [same 1 (by omega), identifierAt_same same (by omega)]
  refine .ite (fun _ => negative_alike ..) fun _ => ?_
  cases found : svc.findRoutine (identifierAt other 2) with
  | none => exact negative_alike ..
  | some rtn =>
    have routine := tidy rtn (List.mem_of_find?_eq_some found)
    have record := optionRecord_same same
    refine .ite (fun _ => negative_alike ..) fun _ => .ite (fun _ => ?_) fun _ => .ite (fun _ => ?_) fun _ => ?_
    · cases given : rtn.start with
      | none => exact negative_alike ..
      | some function => exact conclude_alike (routine.start function given _ _ _ _ _ _ _ record) resp before rfl ..
    · cases given : rtn.stop with
      | none => exact negative_alike ..
      | some function => exact conclude_alike (routine.stop function given _ _ _ _ _ _ _ record) resp before rfl ..
    · cases given : rtn.results with
      | none => exact negative_alike ..
      | some function => exact conclude_alike (routine.results function given _ _ _ _) resp before rfl ..

end RoutineControlService

namespace ReadDataByIdentifierService

variable {σ : Type}

def Tidy (svc : ReadDataByIdentifierService σ) : Prop :=
  ∀ did ∈ svc.dids, ∀ readFn, did.readFn = some readFn → ∀ cells before room state,
    SameBytes (readFn cells room state).1 (readFn before room state).1 ∧
      (readFn cells room state).2 = (readFn before room state).2

theorem readDids_alike {svc : ReadDataByIdentifierService σ} (tidy : svc.Tidy) {reqLen : Nat} {req other : Region Byte}
    (same : Region.Agree reqLen req other) (respLen : Nat) (left : Nat) {i : Nat} (inside : 2 * (i + left) < reqLen)
    {resp before : Region Byte} {pos : Nat} (written : Region.Agree pos resp before) (state : σ)
    (calls others : List ReadDidCall) :
    (svc.readDids req respLen left i resp pos state calls).toAnswer.Alike
      (svc.readDids other respLen left i before pos state others).toAnswer := by
  induction left generalizing i resp before pos state calls others with
  | zero => exact ⟨rfl, ⟨rfl, written⟩, rfl⟩
  | succ left ih =>
    have identifier : didAt req i = didAt other i := by
      rw [didAt, didAt, same (1 + i * 2) (by omega), same (2 + i * 2) (by omega)]
    simp only [readDids, identifier]
    cases found : svc.findDid (didAt other i) with
    | none => exact negative_alike ..
    | some did =>
      dsimp only
      cases given : did.readFn with
      | none => exact negative_alike ..
      | some readFn =>
        refine .ite (fun _ => negative_alike ..) fun _ => ?_
        have header := written.store [(didAt other i >>> 8).setWidth 8, (didAt other i &&& 0xFF).setWidth 8]
        obtain ⟨bytes, after⟩ := tidy did (List.mem_of_find?_eq_some found) readFn given
          ((resp.store pos [(didAt other i >>> 8).setWidth 8, (didAt other i &&& 0xFF).setWidth 8]).advance (pos + 2))
          ((before.store pos [(didAt other i >>> 8).setWidth 8, (didAt other i &&& 0xFF).setWidth 8]).advance (pos + 2))
          (respLen - (pos + 2)) state
        rw [← after, ← bytes.len]
        exact .ite (fun _ => negative_alike ..) fun _ => ih (by omega) (header.graft bytes.bytes) ..

theorem handle_alike {svc : ReadDataByIdentifierService σ} (tidy : svc.Tidy) {reqLen : Nat} {req other : Region Byte}
    (same : Region.Agree reqLen req other) (resp before : Region Byte) (respLen : Nat) (session : UdsSession) (state : σ) :
    (svc.handle req reqLen resp respLen session state).toAnswer.Alike
      (svc.handle other reqLen before respLen session state).toAnswer := by
  unfold handle
  refine .ite (fun _ => negative_alike ..) fun whole => ?_
  exact readDids_alike tidy same respLen _ (by omega) (Region.Agree.written resp before [serviceId + 0x40]) ..

end ReadDataByIdentifierService

namespace ReadMemoryByAddressService

variable {σ : Type}

def Tidy (svc : ReadMemoryByAddressService σ) : Prop :=
  ∀ callback, svc.callback = some callback → ∀ address cells before len state,
    SameBytes (callback address cells len state).1 (callback address before len state).1 ∧
      (callback address cells len state).2 = (callback address before len state).2

theorem handle_alike {svc : ReadMemoryByAddressService σ} (tidy : svc.Tidy) (target : Target) {reqLen : Nat}
    {req other : Region Byte} (same : Region.Agree reqLen req other) (resp before : Region Byte) (respLen : Nat)
    (session : UdsSession) (state : σ) :
    (svc.handle target req reqLen resp respLen session state).toAnswer.Alike
      (svc.handle target other reqLen before respLen session state).toAnswer := by
  unfold handle
  refine .ite (fun _ => negative_alike ..) fun long => ?_
  rw [same 1 (by omega)]
  refine .ite (fun _ => negative_alike ..) fun fields => ?_
  obtain ⟨_, _, inside⟩ := not_or.mp fields |>.imp_right not_or.mp
  rw [parseAddress_same same (by omega), parseSize_same same target (by omega)]
  refine .ite (fun _ => negative_alike ..) fun _ => ?_
  cases given : svc.callback with
  | none => exact negative_alike ..
  | some callback =>
    obtain ⟨bytes, after⟩ := tidy callback given (parseAddress other 2 (other 1))
      ((resp.store 0 [serviceId + 0x40]).advance 1) ((before.store 0 [serviceId + 0x40]).advance 1)
      (parseSize other 2 (other 1) target).toNat state
    have read := grafted_alike resp before true [serviceId + 0x40] bytes (callback (parseAddress other 2 (other 1))
      ((resp.store 0 [serviceId + 0x40]).advance 1) (parseSize other 2 (other 1) target).toNat state).2
    rw [← bytes.len] at read
    dsimp only
    rw [← after, ← bytes.len]
    exact .ite (fun _ => negative_alike ..) fun _ => read

end ReadMemoryByAddressService

namespace WriteMemoryByAddressService

variable {σ : Type}

def Tidy (svc : WriteMemoryByAddressService σ) : Prop :=
  ∀ callback, svc.callback = some callback → ∀ address, Reads (callback address)

def Overreads (target : Target) (req : Region Byte) (reqLen : Nat) : Prop :=
  WellFormed req reqLen ∧ PassesSizeCheck target req reqLen ∧
    reqLen < dataStart req + declaredSize req 2 (req 1) % 2 ^ target.sizeBits

theorem handle_alike {svc : WriteMemoryByAddressService σ} (tidy : svc.Tidy) (target : Target) {reqLen : Nat}
    {req other : Region Byte} (same : Region.Agree reqLen req other) (held : ¬ Overreads target other reqLen)
    (resp before : Region Byte) (respLen : Nat) (session : UdsSession) (state : σ) :
    (svc.handle target req reqLen resp respLen session state).toAnswer.Alike
      (svc.handle target other reqLen before respLen session state).toAnswer := by
  unfold handle
  refine .ite (fun _ => negative_alike ..) fun long => ?_
  have start : dataStart req = dataStart other := by rw [dataStart, dataStart, same 1 (by omega)]
  rw [start, same 1 (by omega)]
  refine .ite (fun _ => negative_alike ..) fun fields => ?_
  have inside : 2 + addrLenOf (other 1) + sizeLenOf (other 1) ≤ reqLen :=
    Nat.le_of_not_lt fun few => fields (Or.inr (Or.inr few))
  rw [parseAddress_same same (by omega), parseSize_same same target (by omega)]
  refine .ite (fun _ => negative_alike ..) fun checked => ?_
  have data : (parseSize other 2 (other 1) target).toNat ≤ reqLen - dataStart other := by
    have wellFormed : WellFormed other reqLen := ⟨Nat.le_of_not_lt long, fun none => fields (Or.inl none),
      fun none => fields (Or.inr (Or.inl none)), inside⟩
    have passes : PassesSizeCheck target other reqLen := by
      rw [checked_sum] at checked
      exact Nat.le_of_not_lt checked
    have enough := Nat.le_of_not_lt fun more => held ⟨wellFormed, passes, more⟩
    rw [parseSize_toNat]
    omega
  cases given : svc.callback with
  | none => exact negative_alike ..
  | some callback =>
    have reads := tidy callback given (parseAddress other 2 (other 1)) _ _ _ ((same.advance (dataStart other)).mono data)
    dsimp only
    rw [reads, same.load (show 2 + addrLenOf (other 1) ≤ reqLen by omega)]
    refine .ite (fun _ => ?_) fun _ => negative_alike ..
    have written := (Region.Agree.written resp before [serviceId + 0x40, other 1]).store
      (other.load 2 (addrLenOf (other 1)))
    rw [Region.load_length] at written
    exact ⟨rfl, ⟨rfl, written⟩, rfl⟩

end WriteMemoryByAddressService

namespace RequestDownloadService

variable {σ : Type}

theorem handle_alike (svc : RequestDownloadService σ) (target : Target) {reqLen : Nat} {req other : Region Byte}
    (same : Region.Agree reqLen req other) (resp before : Region Byte) (respLen : Nat) (session : UdsSession) (state : σ) :
    (svc.handle target req reqLen resp respLen session state).toAnswer.Alike
      (svc.handle target other reqLen before respLen session state).toAnswer := by
  unfold handle
  refine .ite (fun _ => negative_alike ..) fun long => .ite (fun _ => negative_alike ..) fun _ =>
    .ite (fun _ => negative_alike ..) fun _ => ?_
  rw [same 2 (by omega)]
  refine .ite (fun _ => negative_alike ..) fun fields => ?_
  have parsed : parse target req = parse target other := by
    rw [parse, parse, same 1 (by omega), same 2 (by omega), parseAddress_same same (by omega),
      parseSize_same same target (by omega)]
  cases svc.callback with
  | none => exact negative_alike ..
  | some callback =>
    dsimp only
    rw [parsed]
    refine .ite (fun _ => ?_) fun _ => negative_alike ..
    exact stored_alike resp before true [serviceId + 0x40, 0x20,
      BitVec.ofNat 8 ((callback (parse target other) state).1.2 >>> 8),
      BitVec.ofNat 8 ((callback (parse target other) state).1.2 &&& 0xFF)] _

end RequestDownloadService

namespace RequestUploadService

variable {σ : Type}

theorem handle_alike (svc : RequestUploadService σ) (target : Target) {reqLen : Nat} {req other : Region Byte}
    (same : Region.Agree reqLen req other) (resp before : Region Byte) (respLen : Nat) (session : UdsSession) (state : σ) :
    (svc.handle target req reqLen resp respLen session state).toAnswer.Alike
      (svc.handle target other reqLen before respLen session state).toAnswer := by
  unfold handle
  refine .ite (fun _ => negative_alike ..) fun long => .ite (fun _ => negative_alike ..) fun _ => ?_
  rw [same 2 (by omega)]
  refine .ite (fun _ => negative_alike ..) fun fields => ?_
  have parsed : parse target req = parse target other := by
    rw [parse, parse, same 1 (by omega), same 2 (by omega), parseAddress_same same (by omega),
      parseSize_same same target (by omega)]
  cases svc.callback with
  | none => exact negative_alike ..
  | some callback =>
    dsimp only
    rw [parsed]
    refine .ite (fun _ => ?_) fun _ => negative_alike ..
    exact stored_alike resp before true [serviceId + 0x40, 0x20,
      BitVec.ofNat 8 ((callback (parse target other) state).1.2 >>> 8),
      BitVec.ofNat 8 ((callback (parse target other) state).1.2 &&& 0xFF)] _

end RequestUploadService

namespace TransferDataService

variable {σ : Type}

def Tidy (svc : TransferDataService σ) : Prop := ∀ callback, svc.callback = some callback → ∀ seq, Reads (callback seq)

theorem handle_alike {svc : TransferDataService σ} (tidy : svc.Tidy) {reqLen : Nat} {req other : Region Byte}
    (same : Region.Agree reqLen req other) (resp before : Region Byte) (respLen : Nat) (session : UdsSession) (state : σ) :
    (svc.handle req reqLen resp respLen session state).toAnswer.Alike
      (svc.handle other reqLen before respLen session state).toAnswer := by
  have advanced_alike : ∀ (seq : Byte) (state : σ) (calls others : List TransferCall),
      (svc.advanced seq resp state calls).toAnswer.Alike (svc.advanced seq before state others).toAnswer :=
    fun seq _ _ _ => stored_alike resp before true [serviceId + 0x40, seq] _
  unfold handle
  refine .ite (fun _ => negative_alike ..) fun long => .ite (fun _ => negative_alike ..) fun _ => ?_
  rw [same 1 (by omega)]
  refine .ite (fun _ => negative_alike ..) fun _ => ?_
  cases given : svc.callback with
  | none => exact advanced_alike ..
  | some callback =>
    dsimp only
    rw [tidy callback given _ _ _ _ (same.advance 2)]
    exact .ite (fun _ => advanced_alike ..) fun _ => negative_alike ..

theorem handle_callback (svc : TransferDataService σ) (req : Region Byte) (reqLen : Nat) (resp : Region Byte)
    (respLen : Nat) (session : UdsSession) (state : σ) :
    (svc.handle req reqLen resp respLen session state).state.1.callback = svc.callback := by
  cases svc.handle_turn req reqLen resp respLen session state with
  | denied nrc unaccepted same => rw [same]; rfl
  | failed after accepted no same => rw [same]; rfl
  | taken after accepted takes same => rw [same]; rfl

end TransferDataService

namespace RequestTransferExitService

variable {σ : Type}

def Tidy (svc : RequestTransferExitService σ) : Prop :=
  ∀ callback, svc.callback = some callback → ∀ one other len cells before room world, SameRecord len one other →
    (callback one len cells room world).1.1 = (callback other len before room world).1.1 ∧
      SameBytes (callback one len cells room world).1.2 (callback other len before room world).1.2 ∧
      (callback one len cells room world).2 = (callback other len before room world).2

theorem handle_alike {δ τ : Type} {svc : RequestTransferExitService σ} (tidy : svc.Tidy) {reqLen : Nat}
    {req other : Region Byte} (same : Region.Agree reqLen req other) (resp before : Region Byte) (respLen : Nat)
    (session : UdsSession) (state : RequestDownloadService δ × TransferDataService τ × σ) :
    (svc.handle req reqLen resp respLen session state).toAnswer.Alike
      (svc.handle other reqLen before respLen session state).toAnswer := by
  obtain ⟨dl, td, world⟩ := state
  unfold handle
  refine .ite (fun _ => negative_alike ..) fun _ => ?_
  cases given : svc.callback with
  | none => exact stored_alike resp before true [serviceId + 0x40] _
  | some callback =>
    have record : SameRecord (paramLen reqLen) (param req reqLen) (param other reqLen) := by
      unfold paramLen param
      split
      · exact .present (same.advance 1)
      · exact .absent
    obtain ⟨ok, bytes, after⟩ := tidy callback given _ _ _ ((resp.store 0 [serviceId + 0x40]).advance 1)
      ((before.store 0 [serviceId + 0x40]).advance 1) (respLen - 1) world record
    dsimp only
    rw [← ok, ← after]
    exact .ite (fun _ => grafted_alike resp before true [serviceId + 0x40] bytes _) fun _ => negative_alike ..

theorem handle_callback {δ τ : Type} (svc : RequestTransferExitService σ) (req : Region Byte) (reqLen : Nat)
    (resp : Region Byte) (respLen : Nat) (session : UdsSession) (dl : RequestDownloadService δ)
    (td : TransferDataService τ) (world : σ) :
    (svc.handle req reqLen resp respLen session (dl, td, world)).state.2.1.callback = td.callback := by
  cases svc.handle_turn req reqLen resp respLen session dl td world with
  | denied idle same => rw [same]; rfl
  | failed callback running given no same => rw [same]; rfl
  | silent running given same => rw [same]; rfl
  | closed callback running given takes same => rw [same]; rfl

end RequestTransferExitService

namespace SecurityAccessService

variable {ω : Type}

def Tidy (svc : SecurityAccessService ω) : Prop :=
  svc.Configured fun level => ∀ seed seedLen, Reads (level.verifyKey seed seedLen)

theorem handle_alike {svc : SecurityAccessService ω} (tidy : svc.Tidy) {reqLen : Nat} {req other : Region Byte}
    (same : Region.Agree reqLen req other) (resp before : Region Byte) (respLen : Nat) (session : UdsSession) (world : ω) :
    (svc.handle req reqLen resp respLen session world).toAnswer.Alike
      (svc.handle other reqLen before respLen session world).toAnswer := by
  have seed_alike : ∀ (sub : Byte) (seed : List Byte) (len : Nat) (length : seed.length = len)
      (state : SecurityAccessService ω × ω),
      Answer.Alike ⟨true, (resp.store 0 [serviceId + 0x40, sub]).store 2 seed, 2 + len, state⟩
        ⟨true, (before.store 0 [serviceId + 0x40, sub]).store 2 seed, 2 + len, state⟩ := by
    intro sub seed len length state
    rw [← length]
    exact ⟨rfl, ⟨rfl, (Region.Agree.written resp before [serviceId + 0x40, sub]).store seed⟩, rfl⟩
  unfold handle
  refine .ite (fun _ => negative_alike ..) fun long => ?_
  rw [same 1 (by omega)]
  dsimp only
  cases found : svc.findLevel (other 1) with
  | none => exact negative_alike ..
  | some lvl =>
    refine .ite (fun _ => negative_alike ..) fun _ => .ite (fun _ => negative_alike ..) fun _ =>
      .ite (fun _ => ?_) fun _ => ?_
    · refine .ite (fun _ => seed_alike _ _ _ (List.length_replicate ..) _) fun _ => ?_
      exact seed_alike _ _ _ (Region.load_length ..) _
    · have reads := tidy lvl (List.mem_of_find?_eq_some found) lvl.seed lvl.seedLen _ _ _ (same.advance 2)
      unfold sendKey
      dsimp only
      rw [reads]
      refine .ite (fun _ => negative_alike ..) fun _ => .ite (fun _ => ?_) fun _ => ?_
      · exact .ite (fun _ => negative_alike ..) fun _ => negative_alike ..
      · exact stored_alike resp before true [serviceId + 0x40, other 1] _

end SecurityAccessService

namespace ClearDiagnosticInformationService

theorem handle_alike (manager : Dtc.DtcManager) {reqLen : Nat} {req other : Region Byte}
    (same : Region.Agree reqLen req other) (resp before : Region Byte) (respLen : Nat) (session : UdsSession) :
    (handle req reqLen resp respLen session manager).toAnswer.Alike
      (handle other reqLen before respLen session manager).toAnswer := by
  unfold handle
  refine .ite (fun _ => negative_alike ..) fun long => ?_
  have group : groupOf req = groupOf other := by
    rw [groupOf, groupOf, same 1 (by omega), same 2 (by omega), same 3 (by omega)]
  rw [group]
  exact stored_alike resp before true [serviceId + 0x40] _

end ClearDiagnosticInformationService

namespace ReadDtcInformationService

theorem handleReportByStatus_same (manager : Dtc.DtcManager) (mask : Byte) {pos max : Nat} {resp before : Region Byte}
    (written : Region.Agree pos resp before) :
    SameBytes (handleReportByStatus manager mask resp pos max) (handleReportByStatus manager mask before pos max) := by
  obtain ⟨len, bytes⟩ := visit_writes mask manager.dtcs ⟨resp, pos, max, mask⟩
  obtain ⟨len', bytes'⟩ := visit_writes mask manager.dtcs ⟨before, pos, max, mask⟩
  refine ⟨len.trans len'.symm, Region.Agree.of_load ?_⟩
  have start : resp.load 0 pos = before.load 0 pos := written.load (Nat.le_of_eq (Nat.zero_add pos))
  have lens : (Dtc.DtcManager.visit mask writeDtc manager.dtcs ⟨before, pos, max, mask⟩).pos =
      (Dtc.DtcManager.visit mask writeDtc manager.dtcs ⟨resp, pos, max, mask⟩).pos := len'.trans len.symm
  rw [lens, ← start] at bytes'
  exact bytes.trans bytes'.symm

theorem handleReportCount_same (manager : Dtc.DtcManager) (mask : Byte) {pos : Nat} {resp before : Region Byte}
    (written : Region.Agree pos resp before) :
    SameBytes (handleReportCount manager mask resp pos) (handleReportCount manager mask before pos) :=
  ⟨rfl, written.store [0xFF, 0x01, BitVec.ofNat 8 (manager.countByStatus mask >>> 8),
    BitVec.ofNat 8 (manager.countByStatus mask &&& 0xFF)]⟩

theorem handle_alike (manager : Dtc.DtcManager) {reqLen : Nat} {req other : Region Byte}
    (same : Region.Agree reqLen req other) (resp before : Region Byte) (respLen : Nat) (session : UdsSession) :
    (handle req reqLen resp respLen session manager).toAnswer.Alike
      (handle other reqLen before respLen session manager).toAnswer := by
  unfold handle
  refine .ite (fun _ => negative_alike ..) fun long => ?_
  rw [same 1 (by omega)]
  have header := Region.Agree.written resp before [serviceId + 0x40, other 1]
  refine .ite (fun _ => ?_) fun _ => .ite (fun _ => ?_) fun _ => negative_alike ..
  · refine .ite (fun _ => negative_alike ..) fun more => ?_
    rw [same 2 (by omega)]
    exact ⟨rfl, handleReportCount_same manager (other 2) header, rfl⟩
  · refine .ite (fun _ => negative_alike ..) fun more => ?_
    rw [same 2 (by omega)]
    exact ⟨rfl, handleReportByStatus_same manager (other 2) (header.store [0xFF]), rfl⟩

end ReadDtcInformationService

/-- The application functions take nothing from buffers but what they are given, and leave
    nothing in them but what they report. -/
structure Handlers.Tidy {ω : Type} (handlers : Handlers ω) : Prop where
  readData : handlers.readData.Tidy
  readMemory : handlers.readMemory.Tidy
  securityAccess : handlers.securityAccess.Tidy
  writeData : handlers.writeData.Tidy
  ioControl : handlers.ioControl.Tidy
  routineControl : handlers.routineControl.Tidy
  transferData : handlers.transferData.Tidy
  transferExit : handlers.transferExit.Tidy
  writeMemory : handlers.writeMemory.Tidy
  dtcSetting : handlers.dtcSetting.Tidy

namespace Service

variable {ω : Type} {handlers : Handlers ω}

/-- No answer of the service set depends on what lies behind the request, or on what the response
    buffer held before. -/
theorem handle_alike (tidy : handlers.Tidy) (target : Target) (service : Service) (world : ω) {reqLen : Nat}
    {req other : Region Byte} (same : Region.Agree reqLen req other)
    (held : service = .writeMemoryByAddress → ¬ WriteMemoryByAddressService.Overreads target other reqLen)
    (resp before : Region Byte) (respLen : Nat) (session : UdsSession) :
    (service.handle target (handlers, world) req reqLen resp respLen session).1.toAnswer.Alike
        (service.handle target (handlers, world) other reqLen before respLen session).1.toAnswer ∧
      (service.handle target (handlers, world) req reqLen resp respLen session).2 =
        (service.handle target (handlers, world) other reqLen before respLen session).2 := by
  cases service with
  | diagnosticSessionControl =>
    have alike := handlers.sessionControl.handle_alike same resp before respLen session world
    refine ⟨alike.map .., ?_⟩
    simp only [handle, DiagnosticSessionControlService.handle_session]
    have asked : DiagnosticSessionControlService.asked req reqLen = DiagnosticSessionControlService.asked other reqLen := by
      unfold DiagnosticSessionControlService.asked
      by_cases short : reqLen < 2
      · rw [if_pos (Or.inl short), if_pos (Or.inl short)]
      · rw [same 1 (by omega)]
    rw [asked]
  | testerPresent =>
    have alike := TesterPresentService.handle_alike same resp before respLen session world
    refine ⟨alike.map .., ?_⟩
    simp only [handle, TesterPresentService.handle_session]
    have accepts : TesterPresentService.Accepts req reqLen ↔ TesterPresentService.Accepts other reqLen :=
      and_congr_right fun long => by rw [same 1 (by omega)]
    simp only [accepts]
  | ecuReset => exact ⟨(handlers.ecuReset.handle_alike same resp before respLen session world).map .., rfl⟩
  | clearDiagnosticInformation =>
    have alike := ClearDiagnosticInformationService.handle_alike handlers.dtcManager same resp before respLen session
    exact ⟨alike.map .., rfl⟩
  | readDtcInformation =>
    have alike := ReadDtcInformationService.handle_alike handlers.dtcManager same resp before respLen session
    exact ⟨alike.map .., rfl⟩
  | readDataByIdentifier =>
    have alike := ReadDataByIdentifierService.handle_alike tidy.readData same resp before respLen session world
    exact ⟨alike.map .., rfl⟩
  | readMemoryByAddress =>
    have alike := ReadMemoryByAddressService.handle_alike tidy.readMemory target same resp before respLen session world
    exact ⟨alike.map .., rfl⟩
  | securityAccess =>
    have alike := SecurityAccessService.handle_alike tidy.securityAccess same resp before respLen session world
    exact ⟨alike.map .., rfl⟩
  | communicationControl =>
    exact ⟨(handlers.communicationControl.handle_alike same resp before respLen session world).map .., rfl⟩
  | writeDataByIdentifier =>
    have alike := WriteDataByIdentifierService.handle_alike tidy.writeData same resp before respLen session world
    exact ⟨alike.map .., rfl⟩
  | inputOutputControlByIdentifier =>
    have alike := InputOutputControlByIdentifierService.handle_alike tidy.ioControl same resp before respLen session world
    exact ⟨alike.map .., rfl⟩
  | routineControl =>
    have alike := RoutineControlService.handle_alike tidy.routineControl same resp before respLen session world
    exact ⟨alike.map .., rfl⟩
  | requestDownload =>
    exact ⟨(handlers.requestDownload.handle_alike target same resp before respLen session world).map .., rfl⟩
  | requestUpload =>
    exact ⟨(handlers.requestUpload.handle_alike target same resp before respLen session world).map .., rfl⟩
  | transferData =>
    have alike := TransferDataService.handle_alike tidy.transferData same resp before respLen session world
    exact ⟨alike.map .., rfl⟩
  | requestTransferExit =>
    have alike := RequestTransferExitService.handle_alike tidy.transferExit same resp before respLen session
      (handlers.requestDownload, handlers.transferData, world)
    exact ⟨alike.map .., rfl⟩
  | writeMemoryByAddress =>
    have alike := WriteMemoryByAddressService.handle_alike tidy.writeMemory target same (held rfl) resp before respLen
      session world
    exact ⟨alike.map .., rfl⟩
  | controlDtcSetting =>
    exact ⟨(ControlDtcSettingService.handle_alike tidy.dtcSetting same resp before respLen session world).map .., rfl⟩
  | responseOnEvent => exact ⟨(handlers.responseOnEvent.handle_alike same resp before respLen session).map .., rfl⟩
  | linkControl => exact ⟨(handlers.linkControl.handle_alike same resp before respLen session world).map .., rfl⟩

theorem handle_tidy (tidy : handlers.Tidy) (target : Target) (service : Service) (world : ω) (req : Region Byte)
    (reqLen : Nat) (resp : Region Byte) (respLen : Nat) (session : UdsSession) :
    (service.handle target (handlers, world) req reqLen resp respLen session).1.state.1.Tidy ∧
      (service.handle target (handlers, world) req reqLen resp respLen session).1.state.1.sessionControl =
        handlers.sessionControl := by
  cases service with
  | securityAccess =>
    have levels : (handlers.securityAccess.handle req reqLen resp respLen session world).state.1.Tidy :=
      tidy.securityAccess.handle req reqLen resp respLen session world
    exact ⟨{ tidy with securityAccess := levels }, rfl⟩
  | transferData =>
    have callback := handlers.transferData.handle_callback req reqLen resp respLen session world
    have data : (handlers.transferData.handle req reqLen resp respLen session world).state.1.Tidy := by
      rw [TransferDataService.Tidy, callback]
      exact tidy.transferData
    exact ⟨{ tidy with transferData := data }, rfl⟩
  | requestTransferExit =>
    have callback := handlers.transferExit.handle_callback req reqLen resp respLen session handlers.requestDownload
      handlers.transferData world
    have data : (handlers.transferExit.handle req reqLen resp respLen session
        (handlers.requestDownload, handlers.transferData, world)).state.2.1.Tidy := by
      rw [TransferDataService.Tidy, callback]
      exact tidy.transferData
    exact ⟨{ tidy with transferData := data }, rfl⟩
  | _ => exact ⟨{ tidy with }, rfl⟩

end Service

end Uds
