import PulseEcu.Services.AddressAndLength
import PulseEcu.Services.HandlerContract

open Foundation

namespace Uds

structure DownloadRequest where
  address : Word
  length : Nat
  compression : Byte
  encryption : Byte
  deriving DecidableEq

inductive TransferCall where
  | accept (request : DownloadRequest)
  | block (seq : Byte) (data : List Byte)
  | exit (param : List Byte)
  deriving DecidableEq

/-- The callback says whether the download is accepted, and fills in `max_block_len`. -/
structure RequestDownloadService (σ : Type) where
  callback : Option (DownloadRequest → σ → (Bool × Nat) × σ)
  active : Bool

/-- The callback gets the block counter and the data with its length. -/
structure TransferDataService (σ : Type) where
  callback : Option (Byte → Region Byte → Nat → σ → Bool × σ)
  expectedSeq : Byte
  active : Bool

/-- The callback gets the parameter, if there is one, its length, the memory from `resp_param` on
    and the space there; it returns its verdict, that memory and the length of the result. -/
structure RequestTransferExitService (σ : Type) where
  callback : Option (Option (Region Byte) → Nat → Region Byte → Nat → σ → (Bool × Region Byte × Nat) × σ)

namespace RequestDownloadService

variable {σ : Type}

def serviceId : ServiceId := .requestDownload

def create (callback : Option (DownloadRequest → σ → (Bool × Nat) × σ)) : RequestDownloadService σ :=
  ⟨callback, false⟩

def reset (svc : RequestDownloadService σ) : RequestDownloadService σ := { svc with active := false }

def parse (target : Target) (req : Region Byte) : DownloadRequest where
  address := parseAddress req 3 (req 2)
  length := (parseSize req 3 (req 2) target).toNat
  compression := (req 1 >>> 4) &&& 0x0F
  encryption := req 1 &&& 0x0F

def handle (target : Target) (svc : RequestDownloadService σ) (req : Region Byte) (reqLen : Nat) (resp : Region Byte)
    (_respLen : Nat) (session : UdsSession) (state : σ) : Handled TransferCall (RequestDownloadService σ × σ) :=
  if reqLen < 3 then negative resp serviceId .incorrectMessageLengthOrInvalidFormat (svc, state) []
  else if session.session ≠ .programming then
    negative resp serviceId .serviceNotSupportedInActiveSession (svc, state) []
  else if svc.active then negative resp serviceId .requestSequenceError (svc, state) []
  else if reqLen < 3 + addrLenOf (req 2) + sizeLenOf (req 2) then
    negative resp serviceId .incorrectMessageLengthOrInvalidFormat (svc, state) []
  else
    match svc.callback with
    | none => negative resp serviceId .uploadDownloadNotAccepted (svc, state) []
    | some callback =>
      let dl := parse target req
      let result := callback dl state
      if result.1.1 then
        let maxBlock := result.1.2
        ⟨⟨true, resp.store 0 [serviceId + 0x40, 0x20, BitVec.ofNat 8 (maxBlock >>> 8),
          BitVec.ofNat 8 (maxBlock &&& 0xFF)], 4, ({ svc with active := true }, result.2)⟩, [.accept dl]⟩
      else negative resp serviceId .uploadDownloadNotAccepted (svc, result.2) [.accept dl]

def WellFormed (req : Region Byte) (reqLen : Nat) : Prop :=
  3 ≤ reqLen ∧ 3 + addrLenOf (req 2) + sizeLenOf (req 2) ≤ reqLen

variable (target : Target) (svc : RequestDownloadService σ) (req : Region Byte) (reqLen : Nat) (resp : Region Byte)
    (respLen : Nat) (session : UdsSession) (state : σ)

def verdict : Bool :=
  match svc.callback with
  | none => false
  | some callback => (callback (parse target req) state).1.1

def Accepts : Prop :=
  WellFormed req reqLen ∧ session.session = .programming ∧ svc.active = false ∧ svc.callback ≠ none

inductive Turn (handled : Handled TransferCall (RequestDownloadService σ × σ)) : Prop
  | denied (nrc : NrcCode) (unaccepted : ¬ svc.Accepts req reqLen session)
      (same : handled = negative resp serviceId nrc (svc, state) [])
  | refused (callback : DownloadRequest → σ → (Bool × Nat) × σ) (accepted : svc.Accepts req reqLen session)
      (given : svc.callback = some callback) (no : svc.verdict target req state = false)
      (same : handled = negative resp serviceId .uploadDownloadNotAccepted
        (svc, (callback (parse target req) state).2) [.accept (parse target req)])
  | opened (callback : DownloadRequest → σ → (Bool × Nat) × σ) (accepted : svc.Accepts req reqLen session)
      (given : svc.callback = some callback) (takes : svc.verdict target req state = true)
      (same : handled = ⟨⟨true, resp.store 0 [serviceId + 0x40, 0x20,
        BitVec.ofNat 8 ((callback (parse target req) state).1.2 >>> 8),
        BitVec.ofNat 8 ((callback (parse target req) state).1.2 &&& 0xFF)], 4,
        ({ svc with active := true }, (callback (parse target req) state).2)⟩, [.accept (parse target req)]⟩)

theorem handle_turn : Turn target svc req reqLen resp session state
    (svc.handle target req reqLen resp respLen session state) := by
  unfold handle
  by_cases short : reqLen < 3
  · rw [if_pos short]
    exact .denied _ (fun accepts => absurd short (Nat.not_lt.mpr accepts.1.1)) rfl
  · rw [if_neg short]
    by_cases gated : session.session ≠ .programming
    · rw [if_pos gated]
      exact .denied _ (fun accepts => gated accepts.2.1) rfl
    · rw [if_neg gated]
      by_cases active : svc.active = true
      · rw [if_pos active]
        exact .denied _ (fun accepts => Bool.noConfusion (active.symm.trans accepts.2.2.1)) rfl
      · rw [if_neg active]
        by_cases fields : reqLen < 3 + addrLenOf (req 2) + sizeLenOf (req 2)
        · rw [if_pos fields]
          exact .denied _ (fun accepts => absurd fields (Nat.not_lt.mpr accepts.1.2)) rfl
        · rw [if_neg fields]
          cases given : svc.callback with
          | none => exact .denied _ (fun accepts => accepts.2.2.2 given) rfl
          | some callback =>
            have accepted : svc.Accepts req reqLen session :=
              ⟨⟨Nat.le_of_not_lt short, Nat.le_of_not_lt fields⟩, Decidable.not_not.mp gated, Bool.not_eq_true _ ▸ active,
                by rw [given]; exact Option.some_ne_none _⟩
            dsimp only
            split
            · rename_i takes
              have takes : svc.verdict target req state = true := by rw [verdict, given]; exact takes
              exact .opened callback accepted given takes (by rw [given])
            · rename_i no
              have no : svc.verdict target req state = false := by rw [verdict, given]; exact Bool.not_eq_true _ ▸ no
              exact .refused callback accepted given no rfl

def Opens : Prop :=
  WellFormed req reqLen ∧ session.session = .programming ∧ svc.active = false ∧ svc.verdict target req state = true

instance : Decidable (WellFormed req reqLen) := inferInstanceAs (Decidable (_ ∧ _))

instance : Decidable (svc.Opens target req reqLen session state) := inferInstanceAs (Decidable (_ ∧ _ ∧ _ ∧ _))

theorem opens_iff : svc.Opens target req reqLen session state ↔
    svc.Accepts req reqLen session ∧ svc.verdict target req state = true := by
  constructor
  · intro opens
    obtain ⟨wellFormed, programming, idle, takes⟩ := opens
    refine ⟨⟨wellFormed, programming, idle, fun none => ?_⟩, takes⟩
    rw [verdict, none] at takes
    cases takes
  · intro both
    obtain ⟨⟨wellFormed, programming, idle, _⟩, takes⟩ := both
    exact ⟨wellFormed, programming, idle, takes⟩

theorem handle_active : ((svc.handle target req reqLen resp respLen session state).state = (svc, state)) ∨
    session.session = .programming ∧ svc.active = false := by
  cases handle_turn target svc req reqLen resp respLen session state with
  | denied nrc unaccepted same => exact Or.inl (by rw [same]; rfl)
  | refused callback accepted given no same => exact Or.inr ⟨accepted.2.1, accepted.2.2.1⟩
  | opened callback accepted given takes same => exact Or.inr ⟨accepted.2.1, accepted.2.2.1⟩

theorem handle_calls (seq : Byte) (data : List Byte) :
    .block seq data ∉ (svc.handle target req reqLen resp respLen session state).calls := by
  cases handle_turn target svc req reqLen resp respLen session state with
  | denied nrc unaccepted same =>
    rw [same]
    exact List.not_mem_nil
  | refused callback accepted given no same =>
    rw [same]
    intro member
    cases List.mem_singleton.mp member
  | opened callback accepted given takes same =>
    rw [same]
    intro member
    cases List.mem_singleton.mp member

theorem handle_asks (accepts : svc.Accepts req reqLen session) :
    (svc.handle target req reqLen resp respLen session state).calls = [.accept (parse target req)] := by
  cases handle_turn target svc req reqLen resp respLen session state with
  | denied nrc unaccepted same => exact absurd accepts unaccepted
  | refused callback accepted given no same => exact congrArg Handled.calls same
  | opened callback accepted given takes same => exact congrArg Handled.calls same

theorem handle_serves (report : TransferCall → Report)
    (reports : svc.verdict target req state = false → ∀ call, report call = .failed) :
    Serves serviceId (svc, state) (fun after => after.1 = svc) report (svc.Accepts req reqLen session)
      (svc.handle target req reqLen resp respLen session state) := by
  cases handle_turn target svc req reqLen resp respLen session state with
  | denied nrc unaccepted same =>
    rw [same]
    exact .refuse unaccepted ..
  | refused callback accepted given no same =>
    rw [same]
    exact .fail accepted _ _ rfl (by rw [reports no]; decide)
  | opened callback accepted given takes same =>
    rw [same]
    exact .answered accepted rfl (Nat.succ_pos _)

theorem handle_opened (opens : svc.Opens target req reqLen session state) :
    (svc.handle target req reqLen resp respLen session state).message.head? = some (serviceId + 0x40) ∧
      (svc.handle target req reqLen resp respLen session state).state.1 = { svc with active := true } := by
  obtain ⟨accepts, takes⟩ := (opens_iff target svc req reqLen session state).mp opens
  cases handle_turn target svc req reqLen resp respLen session state with
  | denied nrc unaccepted same => exact absurd accepts unaccepted
  | refused callback accepted given no same => exact Bool.noConfusion (no.symm.trans takes)
  | opened callback accepted given takes same =>
    rw [same]
    exact ⟨rfl, rfl⟩

theorem handle_accepted (wellFormed : WellFormed req reqLen) (programming : session.session = .programming)
    (idle : svc.active = false) {callback : DownloadRequest → σ → (Bool × Nat) × σ}
    (given : svc.callback = some callback) (accepts : (callback (parse target req) state).1.1 = true) :
    (svc.handle target req reqLen resp respLen session state).message.head? = some (serviceId + 0x40) := by
  have takes : svc.verdict target req state = true := by rw [verdict, given]; exact accepts
  exact (handle_opened target svc req reqLen resp respLen session state ⟨wellFormed, programming, idle, takes⟩).1

theorem handle_unopened (closed : ¬ svc.Opens target req reqLen session state) :
    (svc.handle target req reqLen resp respLen session state).IsNegative serviceId ∧
      (svc.handle target req reqLen resp respLen session state).state.1 = svc := by
  cases handle_turn target svc req reqLen resp respLen session state with
  | denied nrc unaccepted same =>
    rw [same]
    exact ⟨negative_isNegative .., rfl⟩
  | refused callback accepted given no same =>
    rw [same]
    exact ⟨negative_isNegative .., rfl⟩
  | opened callback accepted given takes same =>
    exact absurd ((opens_iff target svc req reqLen session state).mpr ⟨accepted, takes⟩) closed

theorem handle_positive_iff : (svc.handle target req reqLen resp respLen session state).message.head? =
    some (serviceId + 0x40) ↔ svc.Opens target req reqLen session state := by
  constructor
  · intro positive
    exact Decidable.byContradiction fun closed =>
      negative_head (handle_unopened target svc req reqLen resp respLen session state closed).1 (by decide) positive
  · exact fun opens => (handle_opened target svc req reqLen resp respLen session state opens).1

theorem handle_world : (svc.handle target req reqLen resp respLen session state).state.2 = state ∨
    ∃ callback, svc.callback = some callback ∧
      (svc.handle target req reqLen resp respLen session state).state.2 = (callback (parse target req) state).2 := by
  cases handle_turn target svc req reqLen resp respLen session state with
  | denied nrc unaccepted same => exact Or.inl (by rw [same]; rfl)
  | refused callback accepted given no same => exact Or.inr ⟨callback, given, by rw [same]; rfl⟩
  | opened callback accepted given takes same => exact Or.inr ⟨callback, given, by rw [same]⟩

theorem handle_fits (room : 4 ≤ respLen) :
    Fits respLen resp (svc.handle target req reqLen resp respLen session state).toAnswer := by
  have kept := Region.KeptFrom.refl respLen resp
  have three : 3 ≤ respLen := by omega
  cases handle_turn target svc req reqLen resp respLen session state with
  | denied nrc unaccepted same =>
    rw [same]
    exact .negative kept three ..
  | refused callback accepted given no same =>
    rw [same]
    exact .negative kept three ..
  | opened callback accepted given takes same =>
    rw [same]
    exact .header kept [serviceId + 0x40, 0x20, BitVec.ofNat 8 ((callback (parse target req) state).1.2 >>> 8),
      BitVec.ofNat 8 ((callback (parse target req) state).1.2 &&& 0xFF)] room ..

end RequestDownloadService

namespace TransferDataService

variable {σ : Type}

def serviceId : ServiceId := .transferData

def create (callback : Option (Byte → Region Byte → Nat → σ → Bool × σ)) : TransferDataService σ :=
  ⟨callback, 1, false⟩

def start (svc : TransferDataService σ) : TransferDataService σ := { svc with active := true, expectedSeq := 1 }

def reset (svc : TransferDataService σ) : TransferDataService σ := { svc with active := false, expectedSeq := 1 }

def advanced (svc : TransferDataService σ) (seq : Byte) (resp : Region Byte) (state : σ) (calls : List TransferCall) :
    Handled TransferCall (TransferDataService σ × σ) :=
  ⟨⟨true, resp.store 0 [serviceId + 0x40, seq], 2,
    ({ svc with expectedSeq := if seq = 0xFF then 0x00 else seq + 1 }, state)⟩, calls⟩

def handle (svc : TransferDataService σ) (req : Region Byte) (reqLen : Nat) (resp : Region Byte) (_respLen : Nat)
    (_session : UdsSession) (state : σ) : Handled TransferCall (TransferDataService σ × σ) :=
  if reqLen < 2 then negative resp serviceId .incorrectMessageLengthOrInvalidFormat (svc, state) []
  else if svc.active = false then negative resp serviceId .requestSequenceError (svc, state) []
  else
    let seq := req 1
    if seq ≠ svc.expectedSeq then negative resp serviceId .wrongBlockSequenceCounter (svc, state) []
    else
      match svc.callback with
      | none => svc.advanced seq resp state []
      | some callback =>
        let dataLen := reqLen - 2
        let result := callback seq (req.advance 2) dataLen state
        let calls := [TransferCall.block seq (req.load 2 dataLen)]
        if result.1 then svc.advanced seq resp result.2 calls
        else negative resp serviceId .generalProgrammingFailure (svc, result.2) calls

variable (svc : TransferDataService σ) (req : Region Byte) (reqLen : Nat) (resp : Region Byte)
    (respLen : Nat) (session : UdsSession) (state : σ)

def verdict : Bool :=
  match svc.callback with
  | none => true
  | some callback => (callback (req 1) (req.advance 2) (reqLen - 2) state).1

def Accepts : Prop := 2 ≤ reqLen ∧ svc.active = true ∧ req 1 = svc.expectedSeq

instance : Decidable (svc.Accepts req reqLen) := inferInstanceAs (Decidable (_ ∧ _ ∧ _))

inductive Turn (handled : Handled TransferCall (TransferDataService σ × σ)) : Prop
  | denied (nrc : NrcCode) (unaccepted : ¬ svc.Accepts req reqLen)
      (same : handled = negative resp serviceId nrc (svc, state) [])
  | failed (after : σ) (accepted : svc.Accepts req reqLen) (no : svc.verdict req reqLen state = false)
      (same : handled = negative resp serviceId .generalProgrammingFailure (svc, after)
        [.block (req 1) (req.load 2 (reqLen - 2))])
  | taken (after : σ) (accepted : svc.Accepts req reqLen) (takes : svc.verdict req reqLen state = true)
      (same : handled = svc.advanced (req 1) resp after
        (if svc.callback.isSome then [.block (req 1) (req.load 2 (reqLen - 2))] else []))

theorem handle_turn : Turn svc req reqLen resp state (svc.handle req reqLen resp respLen session state) := by
  unfold handle
  by_cases short : reqLen < 2
  · rw [if_pos short]
    exact .denied _ (fun accepts => absurd short (Nat.not_lt.mpr accepts.1)) rfl
  · rw [if_neg short]
    by_cases inactive : svc.active = false
    · rw [if_pos inactive]
      exact .denied _ (fun accepts => Bool.noConfusion (inactive.symm.trans accepts.2.1)) rfl
    · rw [if_neg inactive]
      dsimp only
      by_cases other : req 1 ≠ svc.expectedSeq
      · rw [if_pos other]
        exact .denied _ (fun accepts => other accepts.2.2) rfl
      · rw [if_neg other]
        have accepted : svc.Accepts req reqLen :=
          ⟨Nat.le_of_not_lt short, Bool.not_eq_false _ ▸ inactive, Decidable.not_not.mp other⟩
        cases given : svc.callback with
        | none => exact .taken state accepted (by rw [verdict, given]) (by rw [given]; rfl)
        | some callback =>
          dsimp only
          split
          · rename_i takes
            exact .taken _ accepted (by rw [verdict, given]; exact takes) (by rw [given]; rfl)
          · rename_i no
            exact .failed _ accepted (by rw [verdict, given]; exact Bool.not_eq_true _ ▸ no) rfl

theorem handle_active : (svc.handle req reqLen resp respLen session state).state.1.active = svc.active ∧
    ((svc.handle req reqLen resp respLen session state).calls ≠ [] → svc.active = true) := by
  cases handle_turn svc req reqLen resp respLen session state with
  | denied nrc unaccepted same =>
    rw [same]
    exact ⟨rfl, fun called => absurd rfl called⟩
  | failed after accepted no same =>
    rw [same]
    exact ⟨rfl, fun _ => accepted.2.1⟩
  | taken after accepted takes same =>
    rw [same]
    exact ⟨rfl, fun _ => accepted.2.1⟩

theorem handle_serves (report : TransferCall → Report)
    (reports : svc.verdict req reqLen state = false → ∀ call, report call = .failed) :
    Serves serviceId (svc, state) (fun after => after.1 = svc) report (svc.Accepts req reqLen)
      (svc.handle req reqLen resp respLen session state) := by
  cases handle_turn svc req reqLen resp respLen session state with
  | denied nrc unaccepted same =>
    rw [same]
    exact .refuse unaccepted ..
  | failed after accepted no same =>
    rw [same]
    exact .fail accepted _ _ rfl (by rw [reports no]; decide)
  | taken after accepted takes same =>
    rw [same]
    exact .answered accepted rfl Nat.two_pos

theorem seq_succ (seq : Byte) : (if seq = 0xFF then 0x00 else seq + 1) = seq + 1 := by
  split
  · rename_i last
    rw [last]
    rfl
  · rfl

theorem handle_taken (accepted : svc.Accepts req reqLen) (takes : svc.verdict req reqLen state = true) :
    (svc.handle req reqLen resp respLen session state).message.head? = some (serviceId + 0x40) ∧
      (svc.handle req reqLen resp respLen session state).state.1 = { svc with expectedSeq := svc.expectedSeq + 1 } := by
  cases handle_turn svc req reqLen resp respLen session state with
  | denied nrc unaccepted same => exact absurd accepted unaccepted
  | failed after _ no same => exact Bool.noConfusion (no.symm.trans takes)
  | taken after _ _ same =>
    rw [same, advanced, seq_succ, accepted.2.2]
    exact ⟨rfl, rfl⟩

theorem handle_untaken (refused : ¬ (svc.Accepts req reqLen ∧ svc.verdict req reqLen state = true)) :
    (svc.handle req reqLen resp respLen session state).IsNegative serviceId ∧
      (svc.handle req reqLen resp respLen session state).state.1 = svc := by
  cases handle_turn svc req reqLen resp respLen session state with
  | denied nrc unaccepted same =>
    rw [same]
    exact ⟨negative_isNegative .., rfl⟩
  | failed after accepted no same =>
    rw [same]
    exact ⟨negative_isNegative .., rfl⟩
  | taken after accepted takes same => exact absurd ⟨accepted, takes⟩ refused

theorem handle_positive_iff : (svc.handle req reqLen resp respLen session state).message.head? =
    some (serviceId + 0x40) ↔ svc.Accepts req reqLen ∧ svc.verdict req reqLen state = true := by
  constructor
  · intro positive
    exact Decidable.byContradiction fun refused =>
      negative_head (handle_untaken svc req reqLen resp respLen session state refused).1 (by decide) positive
  · exact fun taken => (handle_taken svc req reqLen resp respLen session state taken.1 taken.2).1

theorem handle_blocks (given : svc.callback ≠ none) : (svc.handle req reqLen resp respLen session state).calls =
    if svc.Accepts req reqLen then [.block (req 1) (req.load 2 (reqLen - 2))] else [] := by
  cases handle_turn svc req reqLen resp respLen session state with
  | denied nrc unaccepted same =>
    rw [same, if_neg unaccepted]
    rfl
  | failed after accepted no same =>
    rw [same, if_pos accepted]
    rfl
  | taken after accepted takes same =>
    rw [same, if_pos accepted]
    exact if_pos (Option.isSome_iff_ne_none.mpr given)

theorem handle_fits (room : 3 ≤ respLen) :
    Fits respLen resp (svc.handle req reqLen resp respLen session state).toAnswer := by
  have kept := Region.KeptFrom.refl respLen resp
  have two : 2 ≤ respLen := by omega
  cases handle_turn svc req reqLen resp respLen session state with
  | denied nrc unaccepted same =>
    rw [same]
    exact .negative kept room ..
  | failed after accepted no same =>
    rw [same]
    exact .negative kept room ..
  | taken after accepted takes same =>
    rw [same]
    exact .header kept [serviceId + 0x40, req 1] two ..

end TransferDataService

namespace RequestTransferExitService

variable {σ : Type}

def serviceId : ServiceId := .requestTransferExit

def param (req : Region Byte) (reqLen : Nat) : Option (Region Byte) := if reqLen > 1 then some (req.advance 1) else none

def paramLen (reqLen : Nat) : Nat := if reqLen > 1 then reqLen - 1 else 0

/-- The two services that the exit service refers to are part of its state. -/
def handle {δ τ : Type} (svc : RequestTransferExitService σ) (req : Region Byte) (reqLen : Nat) (resp : Region Byte)
    (respLen : Nat) (_session : UdsSession)
    (state : RequestDownloadService δ × TransferDataService τ × σ) :
    Handled TransferCall (RequestDownloadService δ × TransferDataService τ × σ) :=
  let (dl, td, world) := state
  if dl.active = false then negative resp serviceId .requestSequenceError state []
  else
    let header := resp.store 0 [serviceId + 0x40]
    match svc.callback with
    | none => ⟨⟨true, header, 1, (dl.reset, td.reset, world)⟩, []⟩
    | some callback =>
      let result := callback (param req reqLen) (paramLen reqLen) (header.advance 1) (respLen - 1) world
      let (ok, cells, respParamLen) := result.1
      let calls := [TransferCall.exit (req.load 1 (paramLen reqLen))]
      if ok then ⟨⟨true, header.graft 1 cells, 1 + respParamLen, (dl.reset, td.reset, result.2)⟩, calls⟩
      else negative (header.graft 1 cells) serviceId .generalProgrammingFailure (dl, td, result.2) calls

section

variable {δ τ : Type} (svc : RequestTransferExitService σ) (req : Region Byte) (reqLen : Nat) (resp : Region Byte)
  (respLen : Nat) (session : UdsSession) (dl : RequestDownloadService δ) (td : TransferDataService τ) (world : σ)

def verdict : Bool :=
  match svc.callback with
  | none => true
  | some callback =>
    (callback (param req reqLen) (paramLen reqLen) ((resp.store 0 [serviceId + 0x40]).advance 1) (respLen - 1) world).1.1

def Accepts : Prop := dl.active = true

def Bounded : Prop :=
  ∀ callback, svc.callback = some callback → ∀ param paramLen cells room world,
    (callback param paramLen cells room world).1.2.2 ≤ room ∧
      Region.KeptFrom room cells (callback param paramLen cells room world).1.2.1

def ask (callback : Option (Region Byte) → Nat → Region Byte → Nat → σ → (Bool × Region Byte × Nat) × σ) :
    (Bool × Region Byte × Nat) × σ :=
  callback (param req reqLen) (paramLen reqLen) ((resp.store 0 [serviceId + 0x40]).advance 1) (respLen - 1) world

inductive Turn (handled : Handled TransferCall (RequestDownloadService δ × TransferDataService τ × σ)) : Prop
  | denied (idle : dl.active = false)
      (same : handled = negative resp serviceId .requestSequenceError (dl, td, world) [])
  | failed (callback : Option (Region Byte) → Nat → Region Byte → Nat → σ → (Bool × Region Byte × Nat) × σ)
      (running : dl.active = true) (given : svc.callback = some callback)
      (no : svc.verdict req reqLen resp respLen world = false)
      (same : handled = negative
        ((resp.store 0 [serviceId + 0x40]).graft 1 (ask req reqLen resp respLen world callback).1.2.1)
        serviceId .generalProgrammingFailure (dl, td, (ask req reqLen resp respLen world callback).2)
        [.exit (req.load 1 (paramLen reqLen))])
  | silent (running : dl.active = true) (given : svc.callback = none)
      (same : handled = ⟨⟨true, resp.store 0 [serviceId + 0x40], 1, (dl.reset, td.reset, world)⟩, []⟩)
  | closed (callback : Option (Region Byte) → Nat → Region Byte → Nat → σ → (Bool × Region Byte × Nat) × σ)
      (running : dl.active = true) (given : svc.callback = some callback)
      (takes : svc.verdict req reqLen resp respLen world = true)
      (same : handled = ⟨⟨true,
        (resp.store 0 [serviceId + 0x40]).graft 1 (ask req reqLen resp respLen world callback).1.2.1,
        1 + (ask req reqLen resp respLen world callback).1.2.2,
        (dl.reset, td.reset, (ask req reqLen resp respLen world callback).2)⟩, [.exit (req.load 1 (paramLen reqLen))]⟩)

theorem handle_turn : Turn svc req reqLen resp respLen dl td world
    (svc.handle req reqLen resp respLen session (dl, td, world)) := by
  simp only [handle]
  by_cases idle : dl.active = false
  · rw [if_pos idle]
    exact .denied idle rfl
  · rw [if_neg idle]
    have running : dl.active = true := Bool.not_eq_false _ ▸ idle
    cases given : svc.callback with
    | none => exact .silent running given rfl
    | some callback =>
      dsimp only
      split
      · rename_i takes
        exact .closed callback running given (by rw [verdict, given]; exact takes) rfl
      · rename_i no
        exact .failed callback running given (by rw [verdict, given]; exact Bool.not_eq_true _ ▸ no) rfl

theorem handle_serves (report : TransferCall → Report)
    (reports : svc.verdict req reqLen resp respLen world = false → ∀ call, report call = .failed) :
    Serves serviceId (dl, td, world) (fun after => after.1 = dl ∧ after.2.1 = td) report (Accepts dl)
      (svc.handle req reqLen resp respLen session (dl, td, world)) := by
  cases handle_turn svc req reqLen resp respLen session dl td world with
  | denied idle same =>
    rw [same]
    exact .refuse (fun accepts => Bool.noConfusion (idle.symm.trans accepts)) ..
  | failed callback running given no same =>
    rw [same]
    exact .fail running _ _ ⟨rfl, rfl⟩ (by rw [reports no]; decide)
  | silent running given same =>
    rw [same]
    exact .answered running rfl Nat.one_pos
  | closed callback running given takes same =>
    rw [same]
    exact .answered running rfl (Nat.add_pos_left Nat.one_pos _)

theorem handle_closed (running : dl.active = true) (ends : svc.verdict req reqLen resp respLen world = true) :
    (svc.handle req reqLen resp respLen session (dl, td, world)).message.head? = some (serviceId + 0x40) ∧
      (svc.handle req reqLen resp respLen session (dl, td, world)).state.1 = dl.reset ∧
      (svc.handle req reqLen resp respLen session (dl, td, world)).state.2.1 = td.reset := by
  cases handle_turn svc req reqLen resp respLen session dl td world with
  | denied idle same => exact Bool.noConfusion (idle.symm.trans running)
  | failed callback _ given no same => exact Bool.noConfusion (no.symm.trans ends)
  | silent _ given same =>
    rw [same]
    exact ⟨rfl, rfl, rfl⟩
  | closed callback _ given _ same =>
    rw [same, message_head _ rfl (Nat.add_pos_left Nat.one_pos _)]
    exact ⟨rfl, rfl, rfl⟩

theorem handle_unclosed (kept : ¬ (dl.active = true ∧ svc.verdict req reqLen resp respLen world = true)) :
    (svc.handle req reqLen resp respLen session (dl, td, world)).IsNegative serviceId ∧
      (svc.handle req reqLen resp respLen session (dl, td, world)).state.1 = dl ∧
      (svc.handle req reqLen resp respLen session (dl, td, world)).state.2.1 = td := by
  cases handle_turn svc req reqLen resp respLen session dl td world with
  | denied idle same =>
    rw [same]
    exact ⟨negative_isNegative .., rfl, rfl⟩
  | failed callback running given no same =>
    rw [same]
    exact ⟨negative_isNegative .., rfl, rfl⟩
  | silent running given same => exact absurd ⟨running, by rw [verdict, given]⟩ kept
  | closed callback running given takes same => exact absurd ⟨running, takes⟩ kept

theorem handle_positive_iff : (svc.handle req reqLen resp respLen session (dl, td, world)).message.head? =
    some (serviceId + 0x40) ↔ dl.active = true ∧ svc.verdict req reqLen resp respLen world = true := by
  constructor
  · intro positive
    exact Decidable.byContradiction fun closed =>
      negative_head (handle_unclosed svc req reqLen resp respLen session dl td world closed).1 (by decide) positive
  · intro closed
    exact (handle_closed svc req reqLen resp respLen session dl td world closed.1 closed.2).1

theorem handle_fits (bounded : svc.Bounded) (room : 3 ≤ respLen) :
    Fits respLen resp (svc.handle req reqLen resp respLen session (dl, td, world)).toAnswer := by
  have kept := Region.KeptFrom.refl respLen resp
  have one : 1 ≤ respLen := by omega
  have header : Region.KeptFrom respLen resp (resp.store 0 [serviceId + 0x40]) := kept.store one
  have space : 1 + (respLen - 1) ≤ respLen := by omega
  cases handle_turn svc req reqLen resp respLen session dl td world with
  | denied idle same =>
    rw [same]
    exact .negative kept room ..
  | failed callback running given no same =>
    have called := bounded callback given (param req reqLen) (paramLen reqLen)
      ((resp.store 0 [serviceId + 0x40]).advance 1) (respLen - 1) world
    rw [same]
    exact .negative (header.graft space called.2) room ..
  | silent running given same =>
    rw [same]
    exact .header kept [serviceId + 0x40] one ..
  | closed callback running given takes same =>
    have called := bounded callback given (param req reqLen) (paramLen reqLen)
      ((resp.store 0 [serviceId + 0x40]).advance 1) (respLen - 1) world
    rw [same]
    exact ⟨Nat.le_trans (Nat.add_le_add_left called.1 1) space, header.graft space called.2⟩

end

theorem handle_active {δ τ : Type} (svc : RequestTransferExitService σ) (req : Region Byte) (reqLen : Nat)
    (resp : Region Byte) (respLen : Nat) (session : UdsSession)
    (state : RequestDownloadService δ × TransferDataService τ × σ) :
    ((svc.handle req reqLen resp respLen session state).state.1.active = false ∧
      (svc.handle req reqLen resp respLen session state).state.2.1.active = false) ∨
    ((svc.handle req reqLen resp respLen session state).state.1 = state.1 ∧
      (svc.handle req reqLen resp respLen session state).state.2.1 = state.2.1) := by
  obtain ⟨dl, td, world⟩ := state
  by_cases closes : dl.active = true ∧ svc.verdict req reqLen resp respLen world = true
  · obtain ⟨_, download, transfer⟩ := handle_closed svc req reqLen resp respLen session dl td world closes.1 closes.2
    rw [download, transfer]
    exact Or.inl ⟨rfl, rfl⟩
  · exact Or.inr (handle_unclosed svc req reqLen resp respLen session dl td world closes).2

theorem handle_calls {δ τ : Type} (svc : RequestTransferExitService σ) (req : Region Byte) (reqLen : Nat)
    (resp : Region Byte) (respLen : Nat) (session : UdsSession)
    (state : RequestDownloadService δ × TransferDataService τ × σ) (seq : Byte) (data : List Byte) :
    .block seq data ∉ (svc.handle req reqLen resp respLen session state).calls := by
  obtain ⟨dl, td, world⟩ := state
  cases handle_turn svc req reqLen resp respLen session dl td world with
  | denied idle same =>
    rw [same]
    exact List.not_mem_nil
  | failed callback running given no same =>
    rw [same]
    intro member
    cases List.mem_singleton.mp member
  | silent running given same =>
    rw [same]
    exact List.not_mem_nil
  | closed callback running given takes same =>
    rw [same]
    intro member
    cases List.mem_singleton.mp member

end RequestTransferExitService

end Uds
