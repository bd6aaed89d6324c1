import Mathlib.Logic.Function.Basic
import PulseEcu.Foundation.LastWrite
import PulseEcu.Services.ReadDidFold
import PulseEcu.Services.ServiceSet

open Foundation

namespace Uds

structure Ask where
  service : Service
  req : Region Byte
  reqLen : Nat
  resp : Region Byte
  respLen : Nat
  session : UdsSession

def serviceSet (ω : Type) (target : Target) : Machine (Ecu ω) Ask (List Byte) where
  step ecu ask :=
    let handled := (ask.service.handle target ecu ask.req ask.reqLen ask.resp ask.respLen ask.session).1
    (handled.state, handled.message)

abbrev AskEntry (ω : Type) := Machine.Entry (Ecu ω) Ask (List Byte)

def AskEntry.Positive {ω : Type} (entry : AskEntry ω) (service : Service) : Prop :=
  entry.event.service = service ∧ entry.output.head? = some (service.serviceId + 0x40)

instance {ω : Type} (entry : AskEntry ω) (service : Service) : Decidable (AskEntry.Positive entry service) :=
  inferInstanceAs (Decidable (_ ∧ _))

section

variable {ω : Type} (value : ω → BitVec 16 → List Byte)

/-- The read functions hand out the value kept for their identifier where there is room for it, and
    else nothing; they change none. -/
def ReadDataByIdentifierService.Presents (svc : ReadDataByIdentifierService ω) : Prop :=
  ∀ did ∈ svc.dids, ∀ readFn, did.readFn = some readFn → ∀ cells room world,
    value (readFn cells room world).2 = value world ∧
      if (value world did.did).length ≤ room then
        (readFn cells room world).1.1.load 0 (readFn cells room world).1.2 = value world did.did
      else (readFn cells room world).1.2 = 0

/-- The write functions keep the data for their identifier, unless they refuse them. -/
def WriteDataByIdentifierService.Stores (svc : WriteDataByIdentifierService ω) : Prop :=
  ∀ did ∈ svc.dids, ∀ writeFn, did.writeFn = some writeFn → ∀ data len world,
    value (writeFn data len world).2 =
      if (writeFn data len world).1 then Function.update (value world) did.did (data.load 0 len) else value world

end

namespace ReadDataByIdentifierService

variable {ω : Type}

def presentOne (svc : ReadDataByIdentifierService ω) (respLen : Nat) (values : BitVec 16 → List Byte)
    (message : List Byte) (did : BitVec 16) : Except NrcCode (List Byte) :=
  match svc.dids.find? fun entry => entry.did = did with
  | none => .error .requestOutOfRange
  | some entry =>
    if entry.readFn.isNone then .error .conditionsNotCorrect
    else if message.length + 2 > respLen - 1 then .error .responseTooLong
    else if values did = [] ∨ message.length + 2 + (values did).length > respLen then .error .conditionsNotCorrect
    else .ok (message ++ didBytes did ++ values did)

def presented (svc : ReadDataByIdentifierService ω) (req : Region Byte) (reqLen respLen : Nat)
    (values : BitVec 16 → List Byte) : List Byte :=
  if reqLen < 3 ∨ (reqLen - 1) % 2 ≠ 0 then
    [ServiceId.negativeResponse, serviceId, NrcCode.incorrectMessageLengthOrInvalidFormat.toByte]
  else
    match (requestedDids req reqLen).foldlM (svc.presentOne respLen values) [serviceId + 0x40] with
    | .ok message => message
    | .error nrc => [ServiceId.negativeResponse, serviceId, nrc.toByte]

variable {value : ω → BitVec 16 → List Byte} {svc : ReadDataByIdentifierService ω}

theorem readOne_presents (presents : svc.Presents value) (respLen : Nat) (reading : Reading ω) (did : BitVec 16) :
    (svc.readOne respLen reading did).map Reading.message =
        svc.presentOne respLen (value reading.state) reading.message did ∧
      ∀ next, svc.readOne respLen reading did = .ok next → value next.state = value reading.state := by
  simp only [readOne, presentOne]
  cases found : svc.dids.find? (fun entry => entry.did = did) with
  | none => exact ⟨rfl, fun _ none => nomatch none⟩
  | some entry =>
    have known := List.find?_some found
    have same : entry.did = did := of_decide_eq_true known
    have member := List.mem_of_find?_eq_some found
    dsimp only
    cases given : entry.readFn with
    | none => exact ⟨rfl, fun _ none => nomatch none⟩
    | some readFn =>
      obtain ⟨kept, handed⟩ := presents entry member readFn given
        ((reading.buffer.store reading.message.length (didBytes did)).advance (reading.message.length + 2))
        (respLen - (reading.message.length + 2)) reading.state
      rw [same] at handed
      have call : readFn
          ((reading.buffer.store reading.message.length (didBytes did)).advance (reading.message.length + 2))
          (respLen - (reading.message.length + 2)) reading.state = reading.call respLen did readFn := rfl
      rw [call] at kept handed
      dsimp only [Option.isNone_some]
      generalize reading.call respLen did readFn = result at kept handed ⊢
      rw [if_neg Bool.false_ne_true]
      by_cases full : reading.message.length + 2 > respLen - 1
      · rw [if_pos full, if_pos full]
        exact ⟨rfl, fun _ none => nomatch none⟩
      · rw [if_neg full, if_neg full]
        by_cases fits : (value reading.state did).length ≤ respLen - (reading.message.length + 2)
        · rw [if_pos fits] at handed
          have count : result.1.2 = (value reading.state did).length := by rw [← handed, Region.load_length]
          by_cases empty : value reading.state did = []
          · rw [if_pos (Or.inl empty), if_pos (by rw [count, empty]; rfl)]
            exact ⟨rfl, fun _ none => nomatch none⟩
          · have some : ¬ result.1.2 = 0 := by
              rw [count]
              exact fun none => empty (List.length_eq_zero_iff.mp none)
            have room : ¬ (value reading.state did = [] ∨
                reading.message.length + 2 + (value reading.state did).length > respLen) :=
              not_or.mpr ⟨empty, by omega⟩
            rw [if_neg some, if_neg room]
            constructor
            · exact congrArg (fun bytes => Except.ok (reading.message ++ didBytes did ++ bytes)) handed
            · intro next read
              cases read
              exact kept
        · rw [if_neg fits] at handed
          have long : reading.message.length + 2 + (value reading.state did).length > respLen := by omega
          rw [if_pos handed, if_pos (Or.inr long)]
          exact ⟨rfl, fun _ none => nomatch none⟩

theorem foldlM_presents (presents : svc.Presents value) (respLen : Nat) (dids : List (BitVec 16)) (reading : Reading ω) :
    (dids.foldlM (svc.readOne respLen) reading).map Reading.message =
      dids.foldlM (svc.presentOne respLen (value reading.state)) reading.message := by
  induction dids generalizing reading with
  | nil => rfl
  | cons did dids ih =>
    obtain ⟨one, kept⟩ := readOne_presents presents respLen reading did
    rw [List.foldlM_cons, List.foldlM_cons, ← one]
    cases read : svc.readOne respLen reading did with
    | error nrc => rfl
    | ok next =>
      have rest := ih next
      rw [kept next read] at rest
      exact rest

theorem handle_presented (presents : svc.Presents value) (req : Region Byte) (reqLen : Nat) (resp : Region Byte)
    (respLen : Nat) (session : UdsSession) (world : ω) :
    (svc.handle req reqLen resp respLen session world).message = svc.presented req reqLen respLen (value world) := by
  unfold handle presented
  by_cases malformed : reqLen < 3 ∨ (reqLen - 1) % 2 ≠ 0
  · rw [if_pos malformed, if_pos malformed]
    exact negative_message ..
  · rw [if_neg malformed, if_neg malformed]
    have looped := svc.readDids_message req respLen ((reqLen - 1) / 2) 0 (opened_tracks resp world) []
    have values := foldlM_presents presents respLen (requestedDids req reqLen) (opened resp world)
    have first : (opened resp world).message = [serviceId + 0x40] := rfl
    have before : (opened resp world).state = world := rfl
    rw [← requestedDids_eq] at looped
    rw [before, first] at values
    rw [← values]
    refine looped.trans ?_
    cases (requestedDids req reqLen).foldlM (svc.readOne respLen) (opened resp world) with
    | error nrc => rfl
    | ok reading => rfl

theorem readDids_keeps (presents : svc.Presents value) (req : Region Byte) (respLen left i : Nat) (resp : Region Byte)
    (pos : Nat) (world : ω) (calls : List ReadDidCall) :
    value (svc.readDids req respLen left i resp pos world calls).state = value world := by
  induction left generalizing i resp pos world calls with
  | zero => rfl
  | succ left ih =>
    simp only [readDids]
    split
    · rfl
    · rename_i did found
      split
      · rfl
      · rename_i readFn given
        have kept := fun cells room => (presents did (List.mem_of_find?_eq_some found) readFn given cells room world).1
        split
        · rfl
        · split
          · exact kept _ _
          · exact (ih _ _ _ _ _).trans (kept _ _)

theorem handle_keeps (presents : svc.Presents value) (req : Region Byte) (reqLen : Nat) (resp : Region Byte)
    (respLen : Nat) (session : UdsSession) (world : ω) :
    value (svc.handle req reqLen resp respLen session world).state = value world := by
  unfold handle
  split
  · rfl
  · exact readDids_keeps presents ..

end ReadDataByIdentifierService

namespace WriteDataByIdentifierService

variable {ω : Type} {value : ω → BitVec 16 → List Byte} {svc : WriteDataByIdentifierService ω}

def Stored (value : ω → BitVec 16 → List Byte) (req : Region Byte) (reqLen : Nat) (before : ω)
    (handled : Handled WriteDidCall ω) : Prop :=
  handled.message.head? = some (serviceId + 0x40) ∧
      value handled.state = Function.update (value before) (identifierAt req 1) (req.load 3 (reqLen - 3)) ∨
    handled.message.head? ≠ some (serviceId + 0x40) ∧ value handled.state = value before

theorem stored_refused {req : Region Byte} {reqLen : Nat} {before after : ω} (kept : value after = value before)
    (resp : Region Byte) (nrc : NrcCode) (calls : List WriteDidCall) :
    Stored value req reqLen before (negative resp serviceId nrc after calls) := by
  refine Or.inr ⟨?_, kept⟩
  rw [negative_message]
  exact fun head => absurd (Option.some.inj head) (by decide)

theorem handle_stores (stores : svc.Stores value) (req : Region Byte) (reqLen : Nat) (resp : Region Byte)
    (respLen : Nat) (session : UdsSession) (world : ω) :
    Stored value req reqLen world (svc.handle req reqLen resp respLen session world) := by
  unfold handle
  by_cases short : reqLen < 4
  · rw [if_pos short]
    exact stored_refused rfl ..
  · rw [if_neg short]
    dsimp only
    cases found : svc.findDid (identifierAt req 1) with
    | none => exact stored_refused rfl ..
    | some did =>
      have known := List.find?_some found
      have same : did.did = identifierAt req 1 := of_decide_eq_true known
      have member := List.mem_of_find?_eq_some found
      dsimp only
      cases writable : did.writable with
      | false => exact stored_refused rfl ..
      | true =>
        cases given : did.writeFn with
        | none => exact stored_refused rfl ..
        | some writeFn =>
          have kept := stores did member writeFn given (req.advance 3) (reqLen - 3) world
          rw [same] at kept
          dsimp only
          cases verdict : (writeFn (req.advance 3) (reqLen - 3) world).1 with
          | false =>
            rw [verdict, if_neg Bool.false_ne_true] at kept
            exact stored_refused kept ..
          | true =>
            rw [verdict, if_pos rfl] at kept
            have data : (req.advance 3).load 0 (reqLen - 3) = req.load 3 (reqLen - 3) :=
              Region.load_congr fun i _ => by rw [Region.advance, Nat.zero_add]
            rw [data] at kept
            exact Or.inl ⟨rfl, kept⟩

end WriteDataByIdentifierService

namespace AskEntry

variable {ω : Type}

def wroteIdentifier (entry : AskEntry ω) (did : BitVec 16) : Option (List Byte) :=
  if AskEntry.Positive entry .writeDataByIdentifier ∧ identifierAt entry.event.req 1 = did then
    some (entry.event.req.load 3 (entry.event.reqLen - 3))
  else none

end AskEntry

section

variable {ω : Type} {target : Target} {value : ω → BitVec 16 → List Byte} {handlers : Handlers ω}

def SameDids (handlers : Handlers ω) (ecu : Ecu ω) : Prop :=
  ecu.1.readData = handlers.readData ∧ ecu.1.writeData = handlers.writeData

theorem SameDids.next (ecu : Ecu ω) (ask : Ask) (same : SameDids handlers ecu) :
    SameDids handlers ((serviceSet ω target).next ecu ask) := by
  obtain ⟨service, req, reqLen, resp, respLen, session⟩ := ask
  cases service <;> exact same

/-- What a request does to the values, if it is one of the two services that work on them. -/
theorem entry_wrote (presents : handlers.readData.Presents value) (stores : handlers.writeData.Stores value)
    {ecu : Ecu ω} (same : SameDids handlers ecu) (ask : Ask)
    (apart : ask.service ≠ .readDataByIdentifier → ask.service ≠ .writeDataByIdentifier →
      value ((serviceSet ω target).next ecu ask).2 = value ecu.2) (did : BitVec 16) :
    value ((serviceSet ω target).next ecu ask).2 did =
      (AskEntry.wroteIdentifier ((serviceSet ω target).entry ecu ask) did).getD (value ecu.2 did) := by
  obtain ⟨service, req, reqLen, resp, respLen, session⟩ := ask
  by_cases writes : service = .writeDataByIdentifier
  · subst writes
    obtain ⟨_, writeData⟩ := same
    have stored := WriteDataByIdentifierService.handle_stores stores req reqLen resp respLen session ecu.2
    rw [← writeData] at stored
    rcases stored with ⟨positive, kept⟩ | ⟨negative, kept⟩
    · have after : value ((serviceSet ω target).next ecu ⟨.writeDataByIdentifier, req, reqLen, resp, respLen, session⟩).2 =
          Function.update (value ecu.2) (identifierAt req 1) (req.load 3 (reqLen - 3)) := kept
      have answered : AskEntry.Positive ((serviceSet ω target).entry ecu
          ⟨.writeDataByIdentifier, req, reqLen, resp, respLen, session⟩) .writeDataByIdentifier := ⟨rfl, positive⟩
      rw [after]
      by_cases this : identifierAt req 1 = did
      · rw [AskEntry.wroteIdentifier, if_pos ⟨answered, this⟩, ← this, Function.update_self]
        rfl
      · rw [AskEntry.wroteIdentifier, if_neg fun both => this both.2, Function.update_of_ne (Ne.symm this)]
        rfl
    · have after : value ((serviceSet ω target).next ecu ⟨.writeDataByIdentifier, req, reqLen, resp, respLen, session⟩).2 =
          value ecu.2 := kept
      rw [after, AskEntry.wroteIdentifier, if_neg fun both => negative both.1.2]
      rfl
  · have silent : AskEntry.wroteIdentifier
        ((serviceSet ω target).entry ecu ⟨service, req, reqLen, resp, respLen, session⟩) did = none :=
      if_neg fun both => writes both.1.1
    rw [silent]
    by_cases reads : service = .readDataByIdentifier
    · subst reads
      rw [← same.1] at presents
      have kept := ReadDataByIdentifierService.handle_keeps presents req reqLen resp respLen session ecu.2
      exact congrFun kept did
    · exact congrFun (apart reads writes) did

end

/-- A tester reads what it wrote: along any run, in which the other services leave the values of the
    identifiers alone, the response to a read request is made of the values that the last positively
    answered write requests carried, and of those from the start for the identifiers not written. -/
theorem identifiers_stored {ω : Type} (target : Target) (value : ω → BitVec 16 → List Byte) (handlers : Handlers ω)
    (world : ω) (presents : handlers.readData.Presents value) (stores : handlers.writeData.Stores value)
    (asks : List Ask)
    (apart : ∀ entry ∈ (serviceSet ω target).trace (handlers, world) asks,
      entry.event.service ≠ .readDataByIdentifier → entry.event.service ≠ .writeDataByIdentifier →
        value entry.after.2 = value entry.before.2)
    (past later : List (AskEntry ω)) (entry : AskEntry ω)
    (split : (serviceSet ω target).trace (handlers, world) asks = past ++ entry :: later)
    (reads : entry.event.service = .readDataByIdentifier) :
    entry.output = handlers.readData.presented entry.event.req entry.event.reqLen entry.event.respLen
      (stored AskEntry.wroteIdentifier (value world) past) := by
  have initial : SameDids handlers (handlers, world) := ⟨rfl, rfl⟩
  refine (serviceSet ω target).shows_stored (fun ecu => value ecu.2) AskEntry.wroteIdentifier
    (fun values entry => entry.event.service = .readDataByIdentifier → entry.output =
      handlers.readData.presented entry.event.req entry.event.reqLen entry.event.respLen values)
    (fun ecu ask same => SameDids.next ecu ask same) ?_ initial ?_ split reads
  · rintro ecu ⟨service, req, reqLen, resp, respLen, session⟩ same read
    have reading : service = .readDataByIdentifier := read
    subst reading
    have presented := ReadDataByIdentifierService.handle_presented presents req reqLen resp respLen session ecu.2
    rw [← same.1] at presented ⊢
    exact presented
  · intro entry member same did
    have alone := apart entry member
    obtain ⟨ecu, ask, rfl⟩ := (serviceSet ω target).entry_of_mem_trace member
    exact entry_wrote presents stores same ask alone did

abbrev Values := BitVec 16 → List Byte

def presentValue (did : BitVec 16) (cells : Region Byte) (room : Nat) (values : Values) : (Region Byte × Nat) × Values :=
  if (values did).length ≤ room then ((cells.store 0 (values did), (values did).length), values)
  else ((cells, 0), values)

def storeValue (did : BitVec 16) (maxLen : Nat) (data : Region Byte) (len : Nat) (values : Values) : Bool × Values :=
  if len ≤ maxLen then (true, Function.update values did (data.load 0 len)) else (false, values)

def keptDids : List (DataIdentifier Values) :=
  [⟨0xF190, false, some (presentValue 0xF190), none⟩,
    ⟨0xF199, true, some (presentValue 0xF199), some (storeValue 0xF199 4)⟩]

theorem presentValue_presents (did : BitVec 16) (cells : Region Byte) (room : Nat) (values : Values) :
    (presentValue did cells room values).2 = values ∧
      if (values did).length ≤ room then
        (presentValue did cells room values).1.1.load 0 (presentValue did cells room values).1.2 = values did
      else (presentValue did cells room values).1.2 = 0 := by
  unfold presentValue
  by_cases fits : (values did).length ≤ room
  · rw [if_pos fits, if_pos fits]
    exact ⟨rfl, Region.load_store cells 0 (values did)⟩
  · rw [if_neg fits, if_neg fits]
    exact ⟨rfl, rfl⟩

theorem keptDids_present : ReadDataByIdentifierService.Presents id ⟨keptDids⟩ := by
  intro did member readFn given cells room values
  rcases List.mem_cons.mp member with rfl | member
  · cases given
    exact presentValue_presents 0xF190 cells room values
  · rw [List.mem_singleton.mp member] at given ⊢
    cases given
    exact presentValue_presents 0xF199 cells room values

theorem keptDids_store : WriteDataByIdentifierService.Stores id ⟨keptDids⟩ := by
  intro did member writeFn given data len values
  rcases List.mem_cons.mp member with rfl | member
  · cases given
  · rw [List.mem_singleton.mp member] at given ⊢
    cases given
    unfold storeValue
    by_cases fits : len ≤ 4
    · rw [if_pos fits]
      rfl
    · rw [if_neg fits]
      rfl

def keeper : Handlers Values := { Handlers.bare with readData := ⟨keptDids⟩, writeData := ⟨keptDids⟩ }

def factoryValues : Values := fun did => if did = 0xF190 then [0x57, 0x56, 0x57] else [0x20, 0x20, 0x01, 0x01]

def asking (service : Service) (bytes : List Byte) : Ask :=
  ⟨service, (Region.fill 0).store 0 bytes, bytes.length, Region.fill 0, 4096, .create kDefaultTiming⟩

def writesServiceDate : List Ask :=
  [asking .writeDataByIdentifier [0x2E, 0xF1, 0x99, 0x20, 0x26, 0x01, 0x31], asking .testerPresent [0x3E, 0x00]]

def readsBoth : Ask := asking .readDataByIdentifier [0x22, 0xF1, 0x99, 0xF1, 0x90]

theorem identifiers_stored_date :
    (serviceSet Values .cortexM).output ((serviceSet Values .cortexM).run (keeper, factoryValues) writesServiceDate)
          readsBoth =
        keeper.readData.presented readsBoth.req 5 4096 (stored AskEntry.wroteIdentifier factoryValues
          ((serviceSet Values .cortexM).trace (keeper, factoryValues) writesServiceDate)) ∧
      (serviceSet Values .cortexM).output ((serviceSet Values .cortexM).run (keeper, factoryValues) writesServiceDate)
          readsBoth = [0x62, 0xF1, 0x99, 0x20, 0x26, 0x01, 0x31, 0xF1, 0x90, 0x57, 0x56, 0x57] := by
  refine ⟨?_, by decide⟩
  refine identifiers_stored .cortexM id keeper factoryValues keptDids_present keptDids_store
    (writesServiceDate ++ [readsBoth]) ?_ _ [] _ (Machine.trace_snoc ..) rfl
  intro entry member reads writes
  rcases List.mem_cons.mp member with rfl | member
  · exact absurd rfl writes
  · rcases List.mem_cons.mp member with rfl | member
    · rfl
    · rw [List.mem_singleton.mp member] at reads
      exact absurd rfl reads

end Uds
