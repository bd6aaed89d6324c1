import PulseEcu.Services.AddressAndLength
import PulseEcu.Services.HandlerContract

open Foundation

namespace Uds

structure ReadMemoryCall where
  address : Word
  len : Nat
  bytesRead : Nat
  deriving DecidableEq

/-- The callback gets the address, the memory from `buf` on and the length; it returns that memory
    and the number of bytes read. -/
structure ReadMemoryByAddressService (σ : Type) where
  callback : Option (Word → Region Byte → Nat → σ → (Region Byte × Nat) × σ)

namespace ReadMemoryByAddressService

variable {σ : Type}

def serviceId : ServiceId := .readMemoryByAddress

def handle (target : Target) (svc : ReadMemoryByAddressService σ) (req : Region Byte) (reqLen : Nat)
    (resp : Region Byte) (respLen : Nat) (_session : UdsSession) (state : σ) : Handled ReadMemoryCall σ :=
  if reqLen < 3 then negative resp serviceId .incorrectMessageLengthOrInvalidFormat state []
  else
    let addrLen := addrLenOf (req 1)
    let memLen := sizeLenOf (req 1)
    if addrLen = 0 ∨ memLen = 0 ∨ reqLen < 2 + addrLen + memLen then
      negative resp serviceId .incorrectMessageLengthOrInvalidFormat state []
    else
      let address := parseAddress req 2 (req 1)
      let memSize := (parseSize req 2 (req 1) target).toNat
      if memSize = 0 ∨ memSize > respLen - 1 then negative resp serviceId .responseTooLong state []
      else
        let header := resp.store 0 [serviceId + 0x40]
        match svc.callback with
        | none => negative header serviceId .conditionsNotCorrect state []
        | some callback =>
          let result := callback address (header.advance 1) memSize state
          let calls := [ReadMemoryCall.mk address memSize result.1.2]
          if result.1.2 = 0 then negative (header.graft 1 result.1.1) serviceId .requestOutOfRange result.2 calls
          else ⟨⟨true, header.graft 1 result.1.1, 1 + result.1.2, result.2⟩, calls⟩

def report (call : ReadMemoryCall) : Report := if call.bytesRead = 0 then .failed else .read

def Accepts (target : Target) (svc : ReadMemoryByAddressService σ) (req : Region Byte) (reqLen respLen : Nat) : Prop :=
  3 ≤ reqLen ∧ ¬ (addrLenOf (req 1) = 0 ∨ sizeLenOf (req 1) = 0 ∨ reqLen < 2 + addrLenOf (req 1) + sizeLenOf (req 1)) ∧
    ¬ ((parseSize req 2 (req 1) target).toNat = 0 ∨ (parseSize req 2 (req 1) target).toNat > respLen - 1) ∧
    svc.callback ≠ none

def Bounded (svc : ReadMemoryByAddressService σ) : Prop :=
  ∀ callback, svc.callback = some callback → ∀ address cells len state,
    (callback address cells len state).1.2 ≤ len ∧ Region.KeptFrom len cells (callback address cells len state).1.1

variable (target : Target) (svc : ReadMemoryByAddressService σ) (req : Region Byte) (reqLen : Nat) (resp : Region Byte)
  (respLen : Nat) (session : UdsSession) (state : σ)

def ask (callback : Word → Region Byte → Nat → σ → (Region Byte × Nat) × σ) : (Region Byte × Nat) × σ :=
  callback (parseAddress req 2 (req 1)) ((resp.store 0 [serviceId + 0x40]).advance 1)
    (parseSize req 2 (req 1) target).toNat state

inductive Turn (handled : Handled ReadMemoryCall σ) : Prop
  | denied (buf : Region Byte) (nrc : NrcCode) (unaccepted : ¬ svc.Accepts target req reqLen respLen)
      (kept : buf = resp ∨ buf = resp.store 0 [serviceId + 0x40])
      (same : handled = negative buf serviceId nrc state [])
  | nothing (callback : Word → Region Byte → Nat → σ → (Region Byte × Nat) × σ)
      (accepted : svc.Accepts target req reqLen respLen) (given : svc.callback = some callback)
      (same : handled = negative ((resp.store 0 [serviceId + 0x40]).graft 1 (ask target req resp state callback).1.1)
        serviceId .requestOutOfRange (ask target req resp state callback).2
        [⟨parseAddress req 2 (req 1), (parseSize req 2 (req 1) target).toNat, 0⟩])
  | read (callback : Word → Region Byte → Nat → σ → (Region Byte × Nat) × σ)
      (accepted : svc.Accepts target req reqLen respLen) (given : svc.callback = some callback)
      (same : handled = ⟨⟨true, (resp.store 0 [serviceId + 0x40]).graft 1 (ask target req resp state callback).1.1,
        1 + (ask target req resp state callback).1.2, (ask target req resp state callback).2⟩,
        [⟨parseAddress req 2 (req 1), (parseSize req 2 (req 1) target).toNat, (ask target req resp state callback).1.2⟩]⟩)

theorem handle_turn : Turn target svc req reqLen resp respLen state
    (svc.handle target req reqLen resp respLen session state) := by
  unfold handle
  by_cases short : reqLen < 3
  · rw [if_pos short]
    exact .denied _ _ (fun accepts => absurd short (Nat.not_lt.mpr accepts.1)) (Or.inl rfl) rfl
  · rw [if_neg short]
    dsimp only
    by_cases malformed : addrLenOf (req 1) = 0 ∨ sizeLenOf (req 1) = 0 ∨
        reqLen < 2 + addrLenOf (req 1) + sizeLenOf (req 1)
    · rw [if_pos malformed]
      exact .denied _ _ (fun accepts => accepts.2.1 malformed) (Or.inl rfl) rfl
    · rw [if_neg malformed]
      by_cases long : (parseSize req 2 (req 1) target).toNat = 0 ∨ (parseSize req 2 (req 1) target).toNat > respLen - 1
      · rw [if_pos long]
        exact .denied _ _ (fun accepts => accepts.2.2.1 long) (Or.inl rfl) rfl
      · rw [if_neg long]
        cases given : svc.callback with
        | none => exact .denied _ _ (fun accepts => accepts.2.2.2 given) (Or.inr rfl) rfl
        | some callback =>
          have accepted : svc.Accepts target req reqLen respLen :=
            ⟨Nat.le_of_not_lt short, malformed, long, by rw [given]; exact Option.some_ne_none _⟩
          dsimp only
          split
          · rename_i nothing
            exact .nothing callback accepted given (by rw [nothing]; rfl)
          · exact .read callback accepted given rfl

theorem handle_serves : Serves serviceId state (fun _ => True) report (svc.Accepts target req reqLen respLen)
    (svc.handle target req reqLen resp respLen session state) := by
  cases handle_turn target svc req reqLen resp respLen session state with
  | denied buf nrc unaccepted kept same =>
    rw [same]
    exact .refuse unaccepted ..
  | nothing callback accepted given same =>
    rw [same]
    exact .fail accepted _ _ True.intro (by simp [report])
  | read callback accepted given same =>
    rw [same]
    exact .answered accepted rfl (Nat.add_pos_left Nat.one_pos _)

theorem handle_asks (accepts : svc.Accepts target req reqLen respLen) :
    ∃ bytesRead, (svc.handle target req reqLen resp respLen session state).calls =
      [⟨parseAddress req 2 (req 1), (parseSize req 2 (req 1) target).toNat, bytesRead⟩] := by
  cases handle_turn target svc req reqLen resp respLen session state with
  | denied buf nrc unaccepted kept same => exact absurd accepts unaccepted
  | nothing callback accepted given same => exact ⟨_, congrArg Handled.calls same⟩
  | read callback accepted given same => exact ⟨_, congrArg Handled.calls same⟩

theorem handle_fits (bounded : svc.Bounded) (room : 3 ≤ respLen) :
    Fits respLen resp (svc.handle target req reqLen resp respLen session state).toAnswer := by
  have whole := Region.KeptFrom.refl respLen resp
  have one : 1 ≤ respLen := by omega
  have header : Region.KeptFrom respLen resp (resp.store 0 [serviceId + 0x40]) := whole.store one
  have asked : ∀ callback, svc.callback = some callback → svc.Accepts target req reqLen respLen →
      1 + (ask target req resp state callback).1.2 ≤ respLen ∧
        Region.KeptFrom respLen resp
          ((resp.store 0 [serviceId + 0x40]).graft 1 (ask target req resp state callback).1.1) := by
    intro callback given accepts
    have called := bounded callback given (parseAddress req 2 (req 1)) ((resp.store 0 [serviceId + 0x40]).advance 1)
      (parseSize req 2 (req 1) target).toNat state
    have fits := accepts.2.2.1
    have space : 1 + (parseSize req 2 (req 1) target).toNat ≤ respLen := by omega
    exact ⟨Nat.le_trans (Nat.add_le_add_left called.1 1) space, header.graft space called.2⟩
  cases handle_turn target svc req reqLen resp respLen session state with
  | denied buf nrc unaccepted kept same =>
    rw [same]
    rcases kept with rfl | rfl
    · exact .negative whole room ..
    · exact .negative header room ..
  | nothing callback accepted given same =>
    rw [same]
    exact .negative (asked callback given accepted).2 room ..
  | read callback accepted given same =>
    rw [same]
    exact ⟨(asked callback given accepted).1, (asked callback given accepted).2⟩

end ReadMemoryByAddressService

structure UploadRequest where
  address : Word
  length : Nat
  compression : Byte
  encryption : Byte
  deriving DecidableEq

structure UploadCall where
  request : UploadRequest
  accepted : Bool
  deriving DecidableEq

/-- The callback says whether the upload is accepted, and fills in `max_block_len`, which comes in as 0. -/
structure RequestUploadService (σ : Type) where
  callback : Option (UploadRequest → σ → (Bool × Nat) × σ)
  active : Bool

namespace RequestUploadService

variable {σ : Type}

def serviceId : ServiceId := .requestUpload

def create (callback : Option (UploadRequest → σ → (Bool × Nat) × σ)) : RequestUploadService σ := ⟨callback, false⟩

def reset (svc : RequestUploadService σ) : RequestUploadService σ := { svc with active := false }

def parse (target : Target) (req : Region Byte) : UploadRequest where
  address := parseAddress req 3 (req 2)
  length := (parseSize req 3 (req 2) target).toNat
  compression := (req 1 >>> 4) &&& 0x0F
  encryption := req 1 &&& 0x0F

def handle (target : Target) (svc : RequestUploadService σ) (req : Region Byte) (reqLen : Nat) (resp : Region Byte)
    (_respLen : Nat) (_session : UdsSession) (world : σ) : Handled UploadCall (RequestUploadService σ × σ) :=
  if reqLen < 3 then negative resp serviceId .incorrectMessageLengthOrInvalidFormat (svc, world) []
  else if svc.active then negative resp serviceId .requestSequenceError (svc, world) []
  else if reqLen < 3 + addrLenOf (req 2) + sizeLenOf (req 2) then
    negative resp serviceId .incorrectMessageLengthOrInvalidFormat (svc, world) []
  else
    match svc.callback with
    | none => negative resp serviceId .uploadDownloadNotAccepted (svc, world) []
    | some callback =>
      let ul := parse target req
      let result := callback ul world
      let calls := [UploadCall.mk ul result.1.1]
      if result.1.1 then
        let maxBlock := result.1.2
        ⟨⟨true, resp.store 0 [serviceId + 0x40, 0x20, BitVec.ofNat 8 (maxBlock >>> 8), BitVec.ofNat 8 (maxBlock &&& 0xFF)], 4,
          ({ svc with active := true }, result.2)⟩, calls⟩
      else negative resp serviceId .uploadDownloadNotAccepted (svc, result.2) calls

def report (call : UploadCall) : Report := if call.accepted then .done else .failed

def Accepts (svc : RequestUploadService σ) (req : Region Byte) (reqLen : Nat) : Prop :=
  3 ≤ reqLen ∧ svc.active = false ∧ 3 + addrLenOf (req 2) + sizeLenOf (req 2) ≤ reqLen ∧ svc.callback ≠ none

variable (target : Target) (svc : RequestUploadService σ) (req : Region Byte) (reqLen : Nat) (resp : Region Byte)
  (respLen : Nat) (session : UdsSession) (world : σ)

def WellFormed (req : Region Byte) (reqLen : Nat) : Prop :=
  3 ≤ reqLen ∧ 3 + addrLenOf (req 2) + sizeLenOf (req 2) ≤ reqLen

def verdict : Bool :=
  match svc.callback with
  | none => false
  | some callback => (callback (parse target req) world).1.1

inductive Turn (handled : Handled UploadCall (RequestUploadService σ × σ)) : Prop
  | denied (nrc : NrcCode) (unaccepted : ¬ svc.Accepts req reqLen)
      (same : handled = negative resp serviceId nrc (svc, world) [])
  | refused (callback : UploadRequest → σ → (Bool × Nat) × σ) (accepted : svc.Accepts req reqLen)
      (no : svc.verdict target req world = false)
      (same : handled = negative resp serviceId .uploadDownloadNotAccepted
        (svc, (callback (parse target req) world).2) [⟨parse target req, false⟩])
  | opened (callback : UploadRequest → σ → (Bool × Nat) × σ) (accepted : svc.Accepts req reqLen)
      (takes : svc.verdict target req world = true)
      (same : handled = ⟨⟨true, resp.store 0 [serviceId + 0x40, 0x20,
        BitVec.ofNat 8 ((callback (parse target req) world).1.2 >>> 8),
        BitVec.ofNat 8 ((callback (parse target req) world).1.2 &&& 0xFF)], 4,
        ({ svc with active := true }, (callback (parse target req) world).2)⟩, [⟨parse target req, true⟩]⟩)

theorem handle_turn : Turn target svc req reqLen resp world
    (svc.handle target req reqLen resp respLen session world) := by
  unfold handle
  by_cases short : reqLen < 3
  · rw [if_pos short]
    exact .denied _ (fun accepts => absurd short (Nat.not_lt.mpr accepts.1)) rfl
  · rw [if_neg short]
    by_cases active : svc.active = true
    · rw [if_pos active]
      exact .denied _ (fun accepts => Bool.noConfusion (active.symm.trans accepts.2.1)) rfl
    · rw [if_neg active]
      by_cases fields : reqLen < 3 + addrLenOf (req 2) + sizeLenOf (req 2)
      · rw [if_pos fields]
        exact .denied _ (fun accepts => absurd fields (Nat.not_lt.mpr accepts.2.2.1)) rfl
      · rw [if_neg fields]
        cases given : svc.callback with
        | none => exact .denied _ (fun accepts => accepts.2.2.2 given) rfl
        | some callback =>
          have accepted : svc.Accepts req reqLen :=
            ⟨Nat.le_of_not_lt short, Bool.not_eq_true _ ▸ active, Nat.le_of_not_lt fields,
              by rw [given]; exact Option.some_ne_none _⟩
          dsimp only
          split
          · rename_i takes
            have taken : svc.verdict target req world = true := by rw [verdict, given]; exact takes
            exact .opened callback accepted taken (by rw [given, takes])
          · rename_i no
            have no : (callback (parse target req) world).1.1 = false := Bool.not_eq_true _ ▸ no
            have refused : svc.verdict target req world = false := by rw [verdict, given]; exact no
            exact .refused callback accepted refused (by rw [no])

theorem handle_serves : Serves serviceId (svc, world) (fun state => state.1 = svc) report (svc.Accepts req reqLen)
    (svc.handle target req reqLen resp respLen session world) := by
  cases handle_turn target svc req reqLen resp respLen session world with
  | denied nrc unaccepted same =>
    rw [same]
    exact .refuse unaccepted ..
  | refused callback accepted no same =>
    rw [same]
    exact .fail accepted _ _ rfl (by simp [report])
  | opened callback accepted takes same =>
    rw [same]
    exact .answered accepted rfl (Nat.succ_pos _)

theorem handle_asks (accepts : svc.Accepts req reqLen) :
    ∃ accepted, (svc.handle target req reqLen resp respLen session world).calls = [⟨parse target req, accepted⟩] := by
  cases handle_turn target svc req reqLen resp respLen session world with
  | denied nrc unaccepted same => exact absurd accepts unaccepted
  | refused callback accepted no same => exact ⟨false, congrArg Handled.calls same⟩
  | opened callback accepted takes same => exact ⟨true, congrArg Handled.calls same⟩

def Opens : Prop := WellFormed req reqLen ∧ svc.active = false ∧ svc.verdict target req world = true

instance : Decidable (WellFormed req reqLen) := inferInstanceAs (Decidable (_ ∧ _))

theorem opens_iff : svc.Opens target req reqLen world ↔
    svc.Accepts req reqLen ∧ svc.verdict target req world = true := by
  constructor
  · intro opens
    obtain ⟨wellFormed, idle, takes⟩ := opens
    refine ⟨⟨wellFormed.1, idle, wellFormed.2, fun none => ?_⟩, takes⟩
    rw [verdict, none] at takes
    cases takes
  · intro both
    obtain ⟨⟨long, idle, fields, _⟩, takes⟩ := both
    exact ⟨⟨long, fields⟩, idle, takes⟩

theorem handle_opened (opens : svc.Opens target req reqLen world) :
    (svc.handle target req reqLen resp respLen session world).message.head? = some (serviceId + 0x40) ∧
      (svc.handle target req reqLen resp respLen session world).state.1 = { svc with active := true } := by
  obtain ⟨accepts, takes⟩ := (opens_iff target svc req reqLen world).mp opens
  cases handle_turn target svc req reqLen resp respLen session world with
  | denied nrc unaccepted same => exact absurd accepts unaccepted
  | refused callback accepted no same => exact Bool.noConfusion (no.symm.trans takes)
  | opened callback accepted takes same =>
    rw [same]
    exact ⟨rfl, rfl⟩

theorem handle_unopened (closed : ¬ svc.Opens target req reqLen world) :
    (svc.handle target req reqLen resp respLen session world).IsNegative serviceId ∧
      (svc.handle target req reqLen resp respLen session world).state.1 = svc := by
  cases handle_turn target svc req reqLen resp respLen session world with
  | denied nrc unaccepted same =>
    rw [same]
    exact ⟨negative_isNegative .., rfl⟩
  | refused callback accepted no same =>
    rw [same]
    exact ⟨negative_isNegative .., rfl⟩
  | opened callback accepted takes same =>
    exact absurd ((opens_iff target svc req reqLen world).mpr ⟨accepted, takes⟩) closed

theorem handle_fits (room : 4 ≤ respLen) :
    Fits respLen resp (svc.handle target req reqLen resp respLen session world).toAnswer := by
  have kept := Region.KeptFrom.refl respLen resp
  have three : 3 ≤ respLen := by omega
  cases handle_turn target svc req reqLen resp respLen session world with
  | denied nrc unaccepted same =>
    rw [same]
    exact .negative kept three ..
  | refused callback accepted no same =>
    rw [same]
    exact .negative kept three ..
  | opened callback accepted takes same =>
    rw [same]
    exact .header kept [serviceId + 0x40, 0x20, BitVec.ofNat 8 ((callback (parse target req) world).1.2 >>> 8),
      BitVec.ofNat 8 ((callback (parse target req) world).1.2 &&& 0xFF)] room ..

end RequestUploadService

end Uds
