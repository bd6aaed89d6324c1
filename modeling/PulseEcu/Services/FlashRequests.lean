import PulseEcu.Services.FlashRun

open Foundation

namespace Uds.Flash

open RoutineControlService FlashProgram

variable {ρ δ : Type} {target : Target} {flash : IFlash ρ δ}

structure Asks (sub : Byte) (id : BitVec 16) (req : Region Byte) (reqLen : Nat) : Prop where
  sub : req 1 = sub
  routine : identifierAt req 2 = id
  long : 4 ≤ reqLen

section

variable {σ : Type} {svc : RoutineControlService σ} {rtn : RoutineEntry σ} {sub : Byte} {id : BitVec 16} {req : Region Byte}
  {reqLen : Nat} (resp : Region Byte) (respLen : Nat) {session : UdsSession} (state : σ)

theorem routine_gated (asks : Asks sub id req reqLen) (valid : ¬ (sub < 0x01 ∨ sub > 0x03))
    (registered : svc.findRoutine id = some rtn) (programming : rtn.requiredSession = .programming)
    (other : session.session ≠ .programming) : svc.handle req reqLen resp respLen session state =
      negative resp serviceId .serviceNotSupportedInActiveSession state [] := by
  have gated : rtn.requiredSession ≠ .default ∧ rtn.requiredSession ≠ session.session := by
    rw [programming]
    exact ⟨by decide, other.symm⟩
  unfold RoutineControlService.handle
  rw [if_neg (Nat.not_lt.mpr asks.long)]
  dsimp only
  rw [asks.sub, if_neg valid, asks.routine, registered]
  exact if_pos gated

theorem routine_open {σ : Type} {rtn : RoutineEntry σ} {session : UdsSession}
    (programming : rtn.requiredSession = .programming) (same : session.session = .programming) :
    ¬ (rtn.requiredSession ≠ .default ∧ rtn.requiredSession ≠ session.session) :=
  fun gated => gated.2 (programming.trans same.symm)

def header (sub : Byte) (id : BitVec 16) : Region Byte := resp.store 0 [serviceId + 0x40, sub, highByte id, lowByte id]

theorem start_called {function : Option (Region Byte) → Nat → Region Byte → Nat → σ → Filled × σ}
    (asks : Asks RoutineSubFunc.startRoutine id req reqLen) (registered : svc.findRoutine id = some rtn)
    (programming : rtn.requiredSession = .programming) (same : session.session = .programming)
    (start : rtn.start = some function) : svc.handle req reqLen resp respLen session state =
      conclude (header resp RoutineSubFunc.startRoutine id)
        (RoutineCall.mk id RoutineSubFunc.startRoutine (req.load 4 (optionLen reqLen)))
        (function (optionRecord req reqLen) (optionLen reqLen)
          ((header resp RoutineSubFunc.startRoutine id).advance 4) 0 state) := by
  have valid : ¬ (RoutineSubFunc.startRoutine < 0x01 ∨ RoutineSubFunc.startRoutine > 0x03) := by decide
  unfold RoutineControlService.handle
  rw [if_neg (Nat.not_lt.mpr asks.long)]
  dsimp only
  rw [asks.sub, if_neg valid, asks.routine, registered]
  dsimp only
  rw [if_neg (routine_open programming same), if_pos rfl, start]
  rfl

theorem results_called {function : Region Byte → Nat → σ → Filled × σ}
    (asks : Asks RoutineSubFunc.requestResults id req reqLen) (registered : svc.findRoutine id = some rtn)
    (programming : rtn.requiredSession = .programming) (same : session.session = .programming)
    (results : rtn.results = some function) : svc.handle req reqLen resp respLen session state =
      conclude (header resp RoutineSubFunc.requestResults id)
        (RoutineCall.mk id RoutineSubFunc.requestResults (req.load 4 (optionLen reqLen)))
        (function ((header resp RoutineSubFunc.requestResults id).advance 4) 0 state) := by
  have valid : ¬ (RoutineSubFunc.requestResults < 0x01 ∨ RoutineSubFunc.requestResults > 0x03) := by decide
  unfold RoutineControlService.handle
  rw [if_neg (Nat.not_lt.mpr asks.long)]
  dsimp only
  rw [asks.sub, if_neg valid, asks.routine, registered]
  dsimp only
  rw [if_neg (routine_open programming same), if_neg (by decide), if_neg (by decide), results]
  rfl

theorem conclude_message (header : Region Byte) (call : Bool → RoutineCall) (result : Filled × σ)
    (ok : result.1.ok = true) :
    (conclude header call result).message = header.load 0 4 ++ result.1.cells.load 0 result.1.len := by
  rw [conclude, if_pos ok]
  exact Region.load_graft_append header result.1.cells 4 result.1.len

theorem conclude_refused (header : Region Byte) (call : Bool → RoutineCall) (result : Filled × σ)
    (refused : result.1.ok = false) : (conclude header call result).IsNegative serviceId := by
  rw [conclude, if_neg (by rw [refused]; exact Bool.false_ne_true)]
  exact negative_isNegative ..

theorem conclude_state (header : Region Byte) (call : Bool → RoutineCall) (result : Filled × σ) :
    (conclude header call result).state = result.2 := by
  unfold conclude
  split
  · rfl
  · rfl

end

theorem optionLen_eq {reqLen : Nat} (long : 4 ≤ reqLen) : optionLen reqLen = reqLen - 4 := by
  unfold optionLen
  split <;> omega

theorem requested_address (req : Region Byte) : (addressAt (req.advance 4)).toNat = bigEndian (req.load 4 4) :=
  addressAt_toNat (req.advance 4)

theorem option_pointer {req : Region Byte} {reqLen : Nat} (carried : 4 < reqLen) :
    (optionRecord req reqLen).getD (Region.fill 0) = req.advance 4 := by
  rw [optionRecord, if_pos carried]
  rfl

theorem registered_erase {svc : RoutineControlService (FlashMemory ρ δ)} {p : FlashProgram ρ δ} {made : Made ρ δ}
    (shared : Shared target flash p) (member : made ∈ p.made)
    (registered : svc.findRoutine RoutineId.kEraseFlashSector = some made.entry) :
    made.entry = eraseEntry flash ∧ ∃ c, p.memory.eraseCtx = some c := by
  have id : made.entry.id = RoutineId.kEraseFlashSector := by simpa using List.find?_some registered
  obtain ⟨k, stored⟩ := List.mem_iff_getElem?.mp member
  rcases shared.entries made member with erase | verify
  · obtain ⟨c, bound, _⟩ := shared.eraseCtx stored erase
    exact ⟨erase, c, bound⟩
  · rw [verify] at id
    cases id

theorem registered_verify {svc : RoutineControlService (FlashMemory ρ δ)} {p : FlashProgram ρ δ} {made : Made ρ δ}
    (shared : Shared target flash p) (member : made ∈ p.made)
    (registered : svc.findRoutine RoutineId.kVerifyFlash = some made.entry) :
    made.entry = verifyEntry target flash ∧ ∃ c, p.memory.verifyCtx = some c := by
  have id : made.entry.id = RoutineId.kVerifyFlash := by simpa using List.find?_some registered
  obtain ⟨k, stored⟩ := List.mem_iff_getElem?.mp member
  rcases shared.entries made member with erase | verify
  · rw [erase] at id
    cases id
  · obtain ⟨c, bound, _⟩ := shared.verifyCtx stored verify
    exact ⟨verify, c, bound⟩

theorem run_shared (target : Target) (flash : IFlash ρ δ) (device : δ) (events : List (FlashEvent ρ)) :
    Shared target flash ((machine target flash).run (boot device) events) :=
  (machine target flash).run_invariant_all (fun _ event shared => shared.next event) (boot device) events
    (boot_shared device)

def verifiedMessage : List Byte := [serviceId + 0x40, RoutineSubFunc.startRoutine, 0x03, 0x02, 0x01]

/-- The flash was asked to verify all the expected bytes of the request at the address that it names,
    they are as many as its length field declares, and the flash said that they match. -/
def VerifiedAsDeclared (req : Region Byte) (reqLen : Nat) (calls : List (FlashCall ρ)) : Prop :=
  (∃ dev address, calls = [.verify dev address (req.load 12 (reqLen - 12)) .ok] ∧
    address.toNat = bigEndian (req.load 4 4)) ∧ 12 < reqLen ∧ reqLen - 12 = bigEndian (req.load 8 4)

def Mismatch (flash : IFlash ρ δ) (req : Region Byte) (reqLen : Nat) (memory : FlashMemory ρ δ) : Prop :=
  ∀ c, memory.verifyCtx = some c →
    (flash.verify c.flash (addressAt (req.advance 4)) (req.load 12 (reqLen - 12)) memory.device).1 ≠ .ok

theorem mismatch_iff {flash : IFlash ρ δ} {req : Region Byte} {reqLen : Nat} {memory : FlashMemory ρ δ}
    {c : VerifyRoutineCtx ρ} (bound : memory.verifyCtx = some c) : Mismatch flash req reqLen memory ↔
      (flash.verify c.flash (addressAt (req.advance 4)) (req.load 12 (reqLen - 12)) memory.device).1 ≠ .ok := by
  constructor
  · exact fun mismatch => mismatch c bound
  · intro differs other same
    obtain rfl := Option.some.inj (bound.symm.trans same)
    exact differs

theorem option_expected (req : Region Byte) (reqLen : Nat) :
    (req.advance 4).load 8 (reqLen - 4 - 8) = req.load 12 (reqLen - 12) := by
  rw [Nat.sub_sub]
  apply Region.load_congr
  intro i _
  rw [Region.advance, ← Nat.add_assoc]

theorem negative_unverified {answer : Handled RoutineCall (FlashMemory ρ δ)} (no : answer.IsNegative serviceId) :
    answer.message ≠ verifiedMessage := by
  obtain ⟨nrc, message⟩ := no
  rw [message]
  intro same
  have head := (List.cons.inj same).1
  exact absurd head (by decide)

theorem reports_verified (resp : Region Byte) {result : Filled × FlashMemory ρ δ} (call : Bool → RoutineCall)
    (ok : result.1.ok = true) (len : result.1.len = 1) :
    (conclude (header resp RoutineSubFunc.startRoutine RoutineId.kVerifyFlash) call result).message = verifiedMessage ↔
      result.1.cells 0 = 0x01 := by
  rw [conclude_message _ _ _ ok, len]
  show [serviceId + 0x40, RoutineSubFunc.startRoutine, 0x03, 0x02, result.1.cells (0 + 0)] = verifiedMessage ↔ _
  simp [verifiedMessage]

/-- A start of the verify routine is sound exactly if the request is turned down, or carries as many
    bytes to compare as it declares, and at least one, or bytes that do not match. -/
theorem verify_sound_iff (target : Target) (flash : IFlash ρ δ) (device : δ) (events : List (FlashEvent ρ)) {made : Made ρ δ}
    (member : made ∈ ((machine target flash).run (boot device) events).made)
    {svc : RoutineControlService (FlashMemory ρ δ)}
    (registered : svc.findRoutine RoutineId.kVerifyFlash = some made.entry) {req : Region Byte} {reqLen : Nat}
    (asks : Asks RoutineSubFunc.startRoutine RoutineId.kVerifyFlash req reqLen) (resp : Region Byte) (respLen : Nat)
    (session : UdsSession) :
    let before := ((machine target flash).run (boot device) events).memory
    let answer := svc.handle req reqLen resp respLen session before
    (answer.message = verifiedMessage → VerifiedAsDeclared req reqLen (before.received answer.state)) ↔
      session.session ≠ .programming ∨ reqLen < 12 ∨
        12 < reqLen ∧ (reqLen - 12 = bigEndian (req.load 8 4) ∨ Mismatch flash req reqLen before) := by
  have shared := run_shared target flash device events
  generalize (machine target flash).run (boot device) events = p at shared member ⊢
  obtain ⟨entry, c, bound⟩ := registered_verify shared member registered
  dsimp only
  by_cases programming : session.session = .programming
  · have long := asks.long
    rw [start_called resp respLen p.memory asks registered (by rw [entry]; rfl) programming (by rw [entry]; rfl),
      conclude_state]
    have effect := verifyStart_effect target flash bound (optionRecord req reqLen) (optionLen reqLen)
      ((header resp RoutineSubFunc.startRoutine RoutineId.kVerifyFlash).advance 4) 0
    generalize verifyStart target flash (optionRecord req reqLen) (optionLen reqLen)
      ((header resp RoutineSubFunc.startRoutine RoutineId.kVerifyFlash).advance 4) 0 p.memory = result at effect ⊢
    rw [optionLen_eq long] at effect
    cases effect with
    | short bytes refused memory =>
      exact iff_of_true (fun same => absurd same (negative_unverified (conclude_refused _ _ _ refused)))
        (Or.inr (Or.inl (by omega)))
    | trusted bytes ok len cell _ _ calls =>
      apply iff_of_false
      · intro sound
        have verified := sound ((reports_verified resp _ ok len).mpr cell)
        exact absurd verified.2.1 (by omega)
      · intro fine
        rcases fine with other | short | ⟨carried, _⟩
        · exact other programming
        · omega
        · omega
    | compared bytes status returned ok len cell _ _ calls =>
      rw [option_pointer (by omega), option_expected] at returned calls
      rw [reports_verified resp _ ok len, cell, FlashMemory.received_append calls, mismatch_iff bound, ← returned]
      by_cases good : status = .ok
      · rw [if_pos good, good]
        constructor
        · intro sound
          obtain ⟨_, carried, same⟩ := sound rfl
          exact Or.inr (Or.inr ⟨carried, Or.inl same⟩)
        · intro fine _
          rcases fine with other | short | ⟨carried, same | mismatch⟩
          · exact absurd programming other
          · omega
          · exact ⟨⟨_, _, rfl, requested_address req⟩, carried, same⟩
          · exact absurd rfl mismatch
      · rw [if_neg good]
        exact iff_of_true (fun same => absurd same (by decide)) (Or.inr (Or.inr ⟨by omega, Or.inr good⟩))
  · rw [routine_gated resp respLen p.memory asks (by decide) registered (by rw [entry]; rfl) programming]
    exact iff_of_true (fun same => absurd same (negative_unverified (negative_isNegative ..))) (Or.inl programming)

def programmingSession : UdsSession := { UdsSession.create kDefaultTiming with session := .programming }

def startRequest (id : BitVec 16) (option : List Byte) : Region Byte :=
  (Region.fill 0).store 0 ([serviceId, RoutineSubFunc.startRoutine, highByte id, lowByte id] ++ option)

theorem verify_sound_iff_one_byte :
    let before := ((machine .host willing).run (boot ()) [.makeVerify "internal"]).memory
    let req := startRequest RoutineId.kVerifyFlash [0x08, 0x00, 0x00, 0x00, 0x00, 0x00, 0x00, 0x01, 0xA5]
    let answer := (RoutineControlService.mk [verifyEntry .host willing]).handle req 13 (Region.fill 0) 4095
      programmingSession before
    (answer.message = verifiedMessage → VerifiedAsDeclared req 13 (before.received answer.state)) ↔
      programmingSession.session ≠ .programming ∨ 13 < 12 ∨
        12 < 13 ∧ (13 - 12 = bigEndian (req.load 8 4) ∨ Mismatch willing req 13 before) :=
  verify_sound_iff .host willing () [.makeVerify "internal"] List.mem_cons_self rfl ⟨rfl, rfl, by decide⟩ (Region.fill 0)
    4095 programmingSession

/-- A record that declares 65536 bytes and carries none is reported as verified. -/
theorem unverified_image_accepted :
    let before := ((machine .host willing).run (boot ()) [.makeVerify "internal"]).memory
    let req := startRequest RoutineId.kVerifyFlash [0x08, 0x00, 0x00, 0x00, 0x00, 0x01, 0x00, 0x00]
    let answer := (RoutineControlService.mk [verifyEntry .host willing]).handle req 12 (Region.fill 0) 4095
      programmingSession before
    answer.message = verifiedMessage ∧ before.received answer.state = [] ∧
      ¬ VerifiedAsDeclared req 12 (before.received answer.state) := by
  have untouched : ∀ req, ¬ VerifiedAsDeclared req 12 ([] : List (FlashCall String)) := by
    intro req verified
    exact absurd verified.2.1 (by decide)
  exact ⟨by decide, rfl, untouched _⟩

def FlashCall.erases : FlashCall ρ → Bool
  | eraseSector _ _ _ => true
  | _ => false

/-- What a start request of the erase routine makes of the flash: it erases at most once, at the
    address in the first four option bytes, and a request without these erases nothing and is refused. -/
structure ErasesAsked (req : Region Byte) (reqLen : Nat) (calls : List (FlashCall ρ)) (refused : Prop) : Prop where
  once : calls.countP FlashCall.erases ≤ 1
  address : ∀ dev address status, .eraseSector dev address status ∈ calls →
    8 ≤ reqLen ∧ address.toNat = bigEndian (req.load 4 4)
  short : reqLen < 8 → refused

/-- The results record reports 0x10 only after an erase that succeeded. -/
def ResultsSound (svc : RoutineControlService (FlashMemory ρ δ)) (memory : FlashMemory ρ δ) : Prop :=
  ∀ req reqLen resp respLen session, Asks RoutineSubFunc.requestResults RoutineId.kEraseFlashSector req reqLen →
    (svc.handle req reqLen resp respLen session memory).message =
      [serviceId + 0x40, RoutineSubFunc.requestResults, 0x03, 0x01, 0x10] →
    ∃ dev address, .eraseSector dev address .ok ∈ memory.calls

def Busy (flash : IFlash ρ δ) (memory : FlashMemory ρ δ) : Prop :=
  ∃ c, memory.eraseCtx = some c ∧ (flash.isBusy c.flash memory.device).1 = true

theorem results_sound {svc : RoutineControlService (FlashMemory ρ δ)} {p : FlashProgram ρ δ} {made : Made ρ δ}
    (shared : Shared target flash p) (member : made ∈ p.made)
    (registered : svc.findRoutine RoutineId.kEraseFlashSector = some made.entry) : ResultsSound svc p.memory := by
  obtain ⟨entry, c, bound⟩ := registered_erase shared member registered
  intro req reqLen resp respLen session asks message
  by_cases programming : session.session = .programming
  · rw [results_called resp respLen p.memory asks registered (by rw [entry]; rfl) programming (by rw [entry]; rfl),
      eraseResults_bound bound, conclude_message _ _ _ rfl] at message
    have cell := congrArg (fun message => message[4]?) message
    apply shared.erased c bound
    apply (results_cell ((header resp RoutineSubFunc.requestResults RoutineId.kEraseFlashSector).advance 4) c.done).mp
    exact Option.some.inj cell
  · rw [routine_gated resp respLen p.memory asks (by decide) registered (by rw [entry]; rfl) programming,
      negative_message] at message
    have head := (List.cons.inj message).1
    exact absurd head (by decide)

theorem erases_nothing {req : Region Byte} {reqLen : Nat} {calls : List (FlashCall ρ)} {refused : Prop}
    (none : ∀ call ∈ calls, call.erases = false) (no : refused) : ErasesAsked req reqLen calls refused := by
  apply ErasesAsked.mk
  · rw [List.countP_eq_zero.mpr fun call member => by rw [none call member]; exact Bool.false_ne_true]
    exact Nat.zero_le 1
  · intro dev address status member
    cases none _ member
  · exact fun _ => no

theorem erases_one {req : Region Byte} {reqLen : Nat} {refused : Prop} (dev : ρ) (status : FlashStatus) :
    ErasesAsked req reqLen [.isBusy dev, .eraseSector dev
      (if reqLen - 4 ≥ 4 then addressAt ((optionRecord req reqLen).getD (Region.fill 0)) else 0) status] refused ↔
      8 ≤ reqLen := by
  constructor
  · intro asked
    exact (asked.address dev _ status (List.mem_cons_of_mem _ List.mem_cons_self)).1
  · intro enough
    rw [if_pos (by omega), option_pointer (by omega)]
    apply ErasesAsked.mk
    · exact Nat.le_refl 1
    · intro other address status member
      rcases List.mem_cons.mp member with busy | member
      · cases busy
      · cases List.mem_singleton.mp member
        exact ⟨enough, requested_address req⟩
    · intro short
      omega

/-- A start request of the erase routine erases what it asks for and nothing else exactly if it is turned
    down for its session or a busy flash, or carries an address; the results are sound in every reachable state. -/
theorem erase_only_asked_iff (target : Target) (flash : IFlash ρ δ) (device : δ) (events : List (FlashEvent ρ))
    {made : Made ρ δ} (member : made ∈ ((machine target flash).run (boot device) events).made)
    {svc : RoutineControlService (FlashMemory ρ δ)}
    (registered : svc.findRoutine RoutineId.kEraseFlashSector = some made.entry) {req : Region Byte} {reqLen : Nat}
    (asks : Asks RoutineSubFunc.startRoutine RoutineId.kEraseFlashSector req reqLen) (resp : Region Byte) (respLen : Nat)
    (session : UdsSession) :
    let before := ((machine target flash).run (boot device) events).memory
    let answer := svc.handle req reqLen resp respLen session before
    (ErasesAsked req reqLen (before.received answer.state) (answer.IsNegative serviceId) ∧ ResultsSound svc before) ↔
      8 ≤ reqLen ∨ session.session ≠ .programming ∨ Busy flash before := by
  have shared := run_shared target flash device events
  generalize (machine target flash).run (boot device) events = p at shared member ⊢
  dsimp only
  rw [and_iff_left (results_sound shared member registered)]
  obtain ⟨entry, c, bound⟩ := registered_erase shared member registered
  by_cases programming : session.session = .programming
  · have long := asks.long
    rw [start_called resp respLen p.memory asks registered (by rw [entry]; rfl) programming (by rw [entry]; rfl),
      conclude_state]
    have effect := eraseStart_effect flash bound (optionRecord req reqLen) (optionLen reqLen)
      ((header resp RoutineSubFunc.startRoutine RoutineId.kEraseFlashSector).advance 4) 0
    generalize eraseStart flash (optionRecord req reqLen) (optionLen reqLen)
      ((header resp RoutineSubFunc.startRoutine RoutineId.kEraseFlashSector).advance 4) 0 p.memory = result at effect ⊢
    rw [optionLen_eq long] at effect
    have idle : (flash.isBusy c.flash p.memory.device).1 = false → ¬ Busy flash p.memory := by
      intro idle busy
      obtain ⟨other, same, busy⟩ := busy
      obtain rfl := Option.some.inj (bound.symm.trans same)
      exact absurd (idle.symm.trans busy) Bool.false_ne_true
    cases effect with
    | busy is refused _ _ calls =>
      rw [FlashMemory.received_append calls]
      apply iff_of_true _ (Or.inr (Or.inr ⟨c, bound, is⟩))
      exact erases_nothing (List.forall_mem_singleton.mpr rfl) (conclude_refused _ _ _ refused)
    | failed free status _ _ _ calls =>
      rw [FlashMemory.received_append calls, erases_one]
      exact (or_iff_left fun other => other.elim (absurd programming) (idle free)).symm
    | erased free _ _ _ calls =>
      rw [FlashMemory.received_append calls, erases_one]
      exact (or_iff_left fun other => other.elim (absurd programming) (idle free)).symm
  · rw [routine_gated resp respLen p.memory asks (by decide) registered (by rw [entry]; rfl) programming]
    apply iff_of_true _ (Or.inr (Or.inl programming))
    have quiet : p.memory.received p.memory = [] := FlashMemory.received_append (List.append_nil _).symm
    show ErasesAsked req reqLen (p.memory.received p.memory) _
    rw [quiet]
    exact erases_nothing (List.forall_mem_nil _) (negative_isNegative ..)

theorem erase_only_asked_iff_address :
    let before := ((machine .host willing).run (boot ()) [.makeErase "internal"]).memory
    let req := startRequest RoutineId.kEraseFlashSector [0x08, 0x00, 0x40, 0x00]
    let answer := (RoutineControlService.mk [eraseEntry willing]).handle req 8 (Region.fill 0) 4095 programmingSession before
    (ErasesAsked req 8 (before.received answer.state) (answer.IsNegative serviceId) ∧
        ResultsSound (RoutineControlService.mk [eraseEntry willing]) before) ↔
      8 ≤ 8 ∨ programmingSession.session ≠ .programming ∨ Busy willing before :=
  erase_only_asked_iff .host willing () [.makeErase "internal"] List.mem_cons_self rfl ⟨rfl, rfl, by decide⟩ (Region.fill 0)
    4095 programmingSession

/-- A start without an option record erases the sector at address 0 and is answered positively. -/
theorem sector_zero_erased :
    let before := ((machine .host willing).run (boot ()) [.makeErase "internal"]).memory
    let req := startRequest RoutineId.kEraseFlashSector []
    let answer := (RoutineControlService.mk [eraseEntry willing]).handle req 4 (Region.fill 0) 4095 programmingSession before
    before.received answer.state = [.isBusy "internal", .eraseSector "internal" 0 .ok] ∧
      answer.message = [serviceId + 0x40, RoutineSubFunc.startRoutine, 0x03, 0x01, 0x00] ∧
      ¬ ErasesAsked req 4 (before.received answer.state) (answer.IsNegative serviceId) := by
  intro before req answer
  have calls : before.received answer.state = [.isBusy "internal", .eraseSector "internal" 0 .ok] := by decide
  apply And.intro calls
  apply And.intro (by decide)
  rw [calls]
  intro asked
  have enough := (asked.address "internal" 0 .ok (List.mem_cons_of_mem _ List.mem_cons_self)).1
  exact absurd enough (by decide)

end Uds.Flash
