import PulseEcu.Services.HandlerContract

open Foundation

namespace Uds

def kMaxSecurityLevels : Nat := 8
def kMaxAttempts : Nat := 3
def kDelayAfterFail : Word := 10000

/-- `generateSeed` gets the memory from `seed_buf` on and `max_len`, and returns that memory and
    the length; `verifyKey` gets the seed and the key, each with its length. -/
structure SecurityLevel (ω : Type) where
  level : Byte
  seedLen : Byte
  generateSeed : Region Byte → Nat → ω → (Region Byte × Nat) × ω
  verifyKey : Region Byte → Nat → Region Byte → Nat → ω → Bool × ω
  requiredSession : SessionType

structure LevelState (ω : Type) where
  cfg : SecurityLevel ω
  seed : Region Byte
  seedLen : Nat
  seedSent : Bool
  unlocked : Bool
  failCount : Byte
  lockedUntil : Word

inductive SecurityCall where
  | generateSeed (level : Byte) (seed : List Byte)
  | verifyKey (level : Byte) (seed key : List Byte) (valid : Bool)
  deriving DecidableEq

structure SecurityAccessService (ω : Type) where
  levels : List (LevelState ω)
  activeLevel : Byte
  currentTick : Word

namespace SecurityAccessService

variable {ω : Type}

def serviceId : ServiceId := .securityAccess

def create : SecurityAccessService ω := ⟨[], 0, 0⟩

def registerLevel (svc : SecurityAccessService ω) (level : SecurityLevel ω) : Bool × SecurityAccessService ω :=
  if svc.levels.length ≥ kMaxSecurityLevels then (false, svc)
  else if level.level &&& 1 = 0 then (false, svc)
  else (true, { svc with levels := svc.levels ++ [⟨level, Region.fill 0, 0, false, false, 0, 0⟩] })

def lookup (svc : SecurityAccessService ω) (level : Byte) : Option (LevelState ω) :=
  svc.levels.find? fun lvl => lvl.cfg.level = level

def seedSub (level : Byte) : Byte := if level &&& 1 ≠ 0 then level else level - 1

def findLevel (svc : SecurityAccessService ω) (level : Byte) : Option (LevelState ω) := svc.lookup (seedSub level)

/-- Writes through the pointer that `find_level` returned. -/
def put (lvl : LevelState ω) : List (LevelState ω) → List (LevelState ω)
  | [] => []
  | other :: levels => if other.cfg.level = lvl.cfg.level then lvl :: levels else other :: put lvl levels

def store (svc : SecurityAccessService ω) (lvl : LevelState ω) : SecurityAccessService ω :=
  { svc with levels := put lvl svc.levels }

def isUnlocked (svc : SecurityAccessService ω) (level : Byte) : Bool :=
  match svc.lookup level with
  | some lvl => lvl.unlocked
  | none => false

def update (svc : SecurityAccessService ω) (tickMs : Word) : SecurityAccessService ω :=
  { svc with
    currentTick := tickMs
    levels := svc.levels.map fun lvl =>
      if lvl.lockedUntil > 0 ∧ tickMs ≥ lvl.lockedUntil then { lvl with lockedUntil := 0, failCount := 0 } else lvl }

def requestSeed (svc : SecurityAccessService ω) (lvl : LevelState ω) (subFunc : Byte) (resp : Region Byte)
    (world : ω) : Handled SecurityCall (SecurityAccessService ω × ω) :=
  let header := resp.store 0 [serviceId + 0x40, subFunc]
  if lvl.unlocked then
    ⟨⟨true, header.store 2 (List.replicate lvl.cfg.seedLen.toNat 0), 2 + lvl.cfg.seedLen.toNat, (svc, world)⟩, []⟩
  else
    let generated := lvl.cfg.generateSeed lvl.seed 16 world
    let issued := { lvl with seed := generated.1.1, seedLen := generated.1.2, seedSent := true }
    let seed := issued.seed.load 0 issued.seedLen
    ⟨⟨true, header.store 2 seed, 2 + issued.seedLen, ({ svc.store issued with activeLevel := subFunc }, generated.2)⟩,
      [.generateSeed lvl.cfg.level seed]⟩

def sendKey (svc : SecurityAccessService ω) (lvl : LevelState ω) (subFunc : Byte) (req : Region Byte) (reqLen : Nat)
    (resp : Region Byte) (world : ω) : Handled SecurityCall (SecurityAccessService ω × ω) :=
  if lvl.seedSent = false ∨ svc.activeLevel ≠ subFunc - 1 then
    negative resp serviceId .requestSequenceError (svc, world) []
  else
    let keyLen := reqLen - 2
    let verified := lvl.cfg.verifyKey lvl.seed lvl.seedLen (req.advance 2) keyLen world
    let calls := [SecurityCall.verifyKey lvl.cfg.level (lvl.seed.load 0 lvl.seedLen) (req.load 2 keyLen) verified.1]
    if verified.1 = false then
      let failed := { lvl with failCount := lvl.failCount + 1, seedSent := false }
      if failed.failCount.toNat ≥ kMaxAttempts then
        let locked := { failed with lockedUntil := svc.currentTick + kDelayAfterFail }
        negative resp serviceId .exceededNumberOfAttempts (svc.store locked, verified.2) calls
      else negative resp serviceId .invalidKey (svc.store failed, verified.2) calls
    else
      let opened := { lvl with unlocked := true, failCount := 0, seedSent := false }
      ⟨⟨true, resp.store 0 [serviceId + 0x40, subFunc], 2, (svc.store opened, verified.2)⟩, calls⟩

def handle (svc : SecurityAccessService ω) (req : Region Byte) (reqLen : Nat) (resp : Region Byte) (_respLen : Nat)
    (session : UdsSession) (world : ω) : Handled SecurityCall (SecurityAccessService ω × ω) :=
  if reqLen < 2 then negative resp serviceId .incorrectMessageLengthOrInvalidFormat (svc, world) []
  else
    let subFunc := req 1
    match svc.findLevel subFunc with
    | none => negative resp serviceId .subFunctionNotSupported (svc, world) []
    | some lvl =>
      if lvl.lockedUntil ≠ 0 ∧ svc.currentTick < lvl.lockedUntil then
        negative resp serviceId .requiredTimeDelayNotExpired (svc, world) []
      else if lvl.cfg.requiredSession ≠ session.session then
        negative resp serviceId .serviceNotSupportedInActiveSession (svc, world) []
      else if subFunc &&& 1 ≠ 0 then svc.requestSeed lvl subFunc resp world
      else svc.sendKey lvl subFunc req reqLen resp world

section

variable {svc : SecurityAccessService ω} {level : Byte} {lvl : LevelState ω}

theorem lookup_level (found : svc.lookup level = some lvl) : lvl.cfg.level = level := by
  have matched := List.find?_some found
  exact of_decide_eq_true matched

theorem isUnlocked_of_lookup (found : svc.lookup level = some lvl) : svc.isUnlocked level = lvl.unlocked := by
  rw [isUnlocked, found]

theorem find_put (new : LevelState ω) (levels : List (LevelState ω)) (level : Byte) :
    (put new levels).find? (fun lvl => lvl.cfg.level = level) =
      if new.cfg.level = level then (levels.find? fun lvl => lvl.cfg.level = level).map fun _ => new
      else levels.find? fun lvl => lvl.cfg.level = level := by
  induction levels with
  | nil => simp [put]
  | cons other levels ih =>
    unfold put
    by_cases here : other.cfg.level = new.cfg.level
    · rw [if_pos here]
      by_cases same : new.cfg.level = level
      · simp [here, same]
      · simp [here, same]
    · rw [if_neg here, List.find?_cons, ih, List.find?_cons]
      by_cases same : new.cfg.level = level
      · have other' : ¬ other.cfg.level = level := fun equal => here (equal.trans same.symm)
        simp [same, other']
      · simp [same]

theorem lookup_store (new : LevelState ω) (found : svc.lookup new.cfg.level = some lvl) (level : Byte) :
    (svc.store new).lookup level = if new.cfg.level = level then some new else svc.lookup level := by
  unfold lookup store
  rw [find_put]
  by_cases same : new.cfg.level = level
  · rw [if_pos same, if_pos same]
    rw [lookup, same] at found
    rw [found]
    rfl
  · rw [if_neg same, if_neg same]

def expire (tickMs : Word) (lvl : LevelState ω) : LevelState ω :=
  if lvl.lockedUntil > 0 ∧ tickMs ≥ lvl.lockedUntil then { lvl with lockedUntil := 0, failCount := 0 } else lvl

theorem expire_cfg (tickMs : Word) (lvl : LevelState ω) : (expire tickMs lvl).cfg = lvl.cfg := by
  unfold expire
  split
  · rfl
  · rfl

theorem expire_frame (tickMs : Word) (lvl : LevelState ω) : (expire tickMs lvl).seed = lvl.seed ∧
    (expire tickMs lvl).seedLen = lvl.seedLen ∧ (expire tickMs lvl).seedSent = lvl.seedSent ∧
      (expire tickMs lvl).unlocked = lvl.unlocked := by
  unfold expire
  split
  · exact ⟨rfl, rfl, rfl, rfl⟩
  · exact ⟨rfl, rfl, rfl, rfl⟩

theorem lookup_expire (svc : SecurityAccessService ω) (tickMs : Word) (level : Byte) :
    (svc.update tickMs).lookup level = (svc.lookup level).map (expire tickMs) := by
  have mapped : (svc.update tickMs).levels = svc.levels.map (expire tickMs) := rfl
  have same : (fun lvl : LevelState ω => decide (lvl.cfg.level = level)) ∘ expire tickMs =
      fun lvl => decide (lvl.cfg.level = level) := by
    funext lvl
    simp only [Function.comp, expire_cfg]
  rw [lookup, mapped, List.find?_map, same]
  rfl

theorem lookup_update (svc : SecurityAccessService ω) (tickMs : Word) (level : Byte) :
    ∃ f : LevelState ω → LevelState ω, (svc.update tickMs).lookup level = (svc.lookup level).map f ∧
      ∀ lvl, (f lvl).cfg = lvl.cfg ∧ (f lvl).seed = lvl.seed ∧ (f lvl).seedLen = lvl.seedLen ∧
        (f lvl).seedSent = lvl.seedSent ∧ (f lvl).unlocked = lvl.unlocked :=
  ⟨expire tickMs, svc.lookup_expire tickMs level, fun lvl => ⟨expire_cfg tickMs lvl, expire_frame tickMs lvl⟩⟩

theorem registerLevel_frame (svc : SecurityAccessService ω) (new : SecurityLevel ω) :
    (svc.registerLevel new).2.activeLevel = svc.activeLevel ∧
      (svc.registerLevel new).2.currentTick = svc.currentTick := by
  unfold registerLevel
  split
  · exact ⟨rfl, rfl⟩
  · split
    · exact ⟨rfl, rfl⟩
    · exact ⟨rfl, rfl⟩

theorem lookup_register (svc : SecurityAccessService ω) (new : SecurityLevel ω) (level : Byte) :
    (svc.registerLevel new).2.lookup level = svc.lookup level ∨
      (svc.lookup level = none ∧
        (svc.registerLevel new).2.lookup level = some ⟨new, Region.fill 0, 0, false, false, 0, 0⟩) := by
  unfold registerLevel
  split
  · exact Or.inl rfl
  · split
    · exact Or.inl rfl
    · simp only [lookup, List.find?_append]
      cases present : svc.levels.find? fun lvl => lvl.cfg.level = level with
      | some lvl => exact Or.inl rfl
      | none =>
        by_cases same : new.level = level
        · exact Or.inr ⟨rfl, by simp [same]⟩
        · exact Or.inl (by simp [same])

end

inductive Access (svc : SecurityAccessService ω) (req : Region Byte) (reqLen : Nat) (session : UdsSession) :
    Handled SecurityCall (SecurityAccessService ω × ω) → Prop
  | ignored {handled : Handled SecurityCall (SecurityAccessService ω × ω)} (same : handled.state.1 = svc)
      (silent : handled.calls = []) : Access svc req reqLen session handled
  | issued {handled : Handled SecurityCall (SecurityAccessService ω × ω)} (lvl issued : LevelState ω)
      (found : svc.lookup (req 1) = some lvl) (allowed : lvl.cfg.requiredSession = session.session)
      (locked : lvl.unlocked = false) (cfg : issued.cfg = lvl.cfg) (kept : issued.unlocked = lvl.unlocked)
      (state : handled.state.1 = { svc.store issued with activeLevel := req 1 })
      (calls : handled.calls = [.generateSeed (req 1) (issued.seed.load 0 issued.seedLen)]) :
      Access svc req reqLen session handled
  | checked {handled : Handled SecurityCall (SecurityAccessService ω × ω)} (level : Byte) (lvl after : LevelState ω)
      (valid : Bool) (found : svc.lookup level = some lvl) (allowed : lvl.cfg.requiredSession = session.session)
      (sent : lvl.seedSent = true) (active : svc.activeLevel = level)
      (cfg : after.cfg = lvl.cfg) (used : after.seedSent = false)
      (unlocks : after.unlocked = (lvl.unlocked || valid))
      (state : handled.state.1 = svc.store after)
      (calls : handled.calls = [.verifyKey level (lvl.seed.load 0 lvl.seedLen) (req.load 2 (reqLen - 2)) valid]) :
      Access svc req reqLen session handled

/-- The guard at the top of `handle`, until the delay after too many failures is over. -/
def LockedOut (svc : SecurityAccessService ω) (lvl : LevelState ω) : Prop :=
  lvl.lockedUntil ≠ 0 ∧ svc.currentTick < lvl.lockedUntil

/-- The request gets to the level `lvl`: it is long enough, not locked out and in the right session. -/
structure Admitted (svc : SecurityAccessService ω) (req : Region Byte) (reqLen : Nat) (session : UdsSession)
    (lvl : LevelState ω) : Prop where
  length : 2 ≤ reqLen
  found : svc.lookup (seedSub (req 1)) = some lvl
  notLocked : ¬ svc.LockedOut lvl
  session : lvl.cfg.requiredSession = session.session

def seeded (lvl : LevelState ω) (cells : Region Byte) (len : Nat) : LevelState ω :=
  { lvl with seed := cells, seedLen := len, seedSent := true }

def opened (lvl : LevelState ω) : LevelState ω := { lvl with unlocked := true, failCount := 0, seedSent := false }

def failed (tick : Word) (lvl : LevelState ω) : LevelState ω :=
  { lvl with
    failCount := lvl.failCount + 1
    seedSent := false
    lockedUntil := if (lvl.failCount + 1).toNat ≥ kMaxAttempts then tick + kDelayAfterFail else lvl.lockedUntil }

/-- All that a request can do: nothing, issue a seed, turn a key down or accept it. -/
inductive Turn (svc : SecurityAccessService ω) (req : Region Byte) (reqLen : Nat) (session : UdsSession)
    (handled : Handled SecurityCall (SecurityAccessService ω × ω)) : Prop
  | silent (same : handled.state.1 = svc) (calls : handled.calls = [])
  | seed (lvl : LevelState ω) (cells : Region Byte) (len : Nat) (admitted : Admitted svc req reqLen session lvl)
      (odd : req 1 &&& 1 ≠ 0) (locked : lvl.unlocked = false)
      (state : handled.state.1 = { svc.store (seeded lvl cells len) with activeLevel := req 1 })
      (calls : handled.calls = [.generateSeed (seedSub (req 1)) (cells.load 0 len)])
  | key (lvl : LevelState ω) (valid : Bool) (admitted : Admitted svc req reqLen session lvl)
      (even : req 1 &&& 1 = 0) (sent : lvl.seedSent = true) (active : svc.activeLevel = seedSub (req 1))
      (state : handled.state.1 = svc.store (if valid then opened lvl else failed svc.currentTick lvl))
      (calls : handled.calls =
        [.verifyKey (seedSub (req 1)) (lvl.seed.load 0 lvl.seedLen) (req.load 2 (reqLen - 2)) valid])

theorem handle_turn (svc : SecurityAccessService ω) (req : Region Byte) (reqLen : Nat) (resp : Region Byte)
    (respLen : Nat) (session : UdsSession) (world : ω) :
    Turn svc req reqLen session (svc.handle req reqLen resp respLen session world) := by
  unfold handle
  split
  · exact .silent rfl rfl
  · rename_i long
    dsimp only
    cases found : svc.findLevel (req 1) with
    | none => exact .silent rfl rfl
    | some lvl =>
      have level := lookup_level found
      dsimp only
      split
      · exact .silent rfl rfl
      · rename_i notLocked
        split
        · exact .silent rfl rfl
        · rename_i allowed
          have admitted : Admitted svc req reqLen session lvl :=
            ⟨Nat.le_of_not_lt long, found, notLocked, Decidable.not_not.mp allowed⟩
          split
          · rename_i odd
            simp only [requestSeed]
            split
            · exact .silent rfl rfl
            · rename_i locked
              exact .seed lvl (lvl.cfg.generateSeed lvl.seed 16 world).1.1 (lvl.cfg.generateSeed lvl.seed 16 world).1.2
                admitted odd (Bool.not_eq_true _ ▸ locked) rfl (by rw [level])
          · rename_i even
            have even := Decidable.not_not.mp even
            have sub : seedSub (req 1) = req 1 - 1 := if_neg (not_not_intro even)
            simp only [sendKey]
            split
            · exact .silent rfl rfl
            · rename_i usable
              simp only [not_or, Bool.not_eq_false, Decidable.not_not] at usable
              have active : svc.activeLevel = seedSub (req 1) := usable.2.trans sub.symm
              split
              · rename_i invalid
                split
                · rename_i many
                  apply Turn.key lvl false admitted even usable.1 active
                  · simp only [failed, many, if_true]
                    rfl
                  · rw [level, invalid]
                    rfl
                · rename_i few
                  apply Turn.key lvl false admitted even usable.1 active
                  · simp only [failed, few, if_false]
                    rfl
                  · rw [level, invalid]
                    rfl
              · rename_i valid
                rw [Bool.not_eq_false] at valid
                exact .key lvl true admitted even usable.1 active rfl (by rw [level, valid])

theorem handle_currentTick (svc : SecurityAccessService ω) (req : Region Byte) (reqLen : Nat) (resp : Region Byte)
    (respLen : Nat) (session : UdsSession) (world : ω) :
    (svc.handle req reqLen resp respLen session world).state.1.currentTick = svc.currentTick := by
  cases handle_turn svc req reqLen resp respLen session world with
  | silent same => rw [same]
  | seed _ _ _ _ _ _ state => rw [state]; rfl
  | key _ _ _ _ _ _ state => rw [state]; rfl

theorem handle_access (svc : SecurityAccessService ω) (req : Region Byte) (reqLen : Nat) (resp : Region Byte)
    (respLen : Nat) (session : UdsSession) (world : ω) :
    Access svc req reqLen session (svc.handle req reqLen resp respLen session world) := by
  cases handle_turn svc req reqLen resp respLen session world with
  | silent same calls => exact .ignored same calls
  | seed lvl cells len admitted odd locked state calls =>
    have sub : seedSub (req 1) = req 1 := if_pos odd
    have found := admitted.found
    rw [sub] at found calls
    exact .issued lvl (seeded lvl cells len) found admitted.session locked rfl rfl state calls
  | key lvl valid admitted even sent active state calls =>
    cases valid with
    | false =>
      exact .checked (seedSub (req 1)) lvl (failed svc.currentTick lvl) false admitted.found admitted.session sent
        active rfl rfl (Bool.or_false _).symm state calls
    | true =>
      exact .checked (seedSub (req 1)) lvl (opened lvl) true admitted.found admitted.session sent active rfl rfl
        (Bool.or_true _).symm state calls

def report : SecurityCall → Report
  | .generateSeed _ _ => .done
  | .verifyKey _ _ _ valid => if valid then .done else .failed

def Accepts (svc : SecurityAccessService ω) (req : Region Byte) (reqLen : Nat) (session : UdsSession) : Prop :=
  ∃ lvl, Admitted svc req reqLen session lvl ∧
    (req 1 &&& 1 ≠ 0 ∨ lvl.seedSent = true ∧ svc.activeLevel = req 1 - 1)

def Spent (svc : SecurityAccessService ω) (req : Region Byte) (after : SecurityAccessService ω) : Prop :=
  ∃ lvl, svc.findLevel (req 1) = some lvl ∧ after = svc.store (failed svc.currentTick lvl)

def Bounded (svc : SecurityAccessService ω) : Prop :=
  ∀ lvl ∈ svc.levels, ∀ cells maxLen world, (lvl.cfg.generateSeed cells maxLen world).1.2 ≤ maxLen

section

variable (svc : SecurityAccessService ω) (req : Region Byte) (reqLen : Nat) (resp : Region Byte) (respLen : Nat)
  (session : UdsSession) (world : ω)

theorem requestSeed_serves {accepts : Prop} (accepted : accepts) {Left : SecurityAccessService ω × ω → Prop}
    (lvl : LevelState ω) (subFunc : Byte) :
    Serves serviceId (svc, world) Left report accepts (svc.requestSeed lvl subFunc resp world) := by
  have first : ∀ seed, ((resp.store 0 [serviceId + 0x40, subFunc]).store 2 seed) 0 = serviceId + 0x40 :=
    fun seed => Region.store_before _ 2 0 seed Nat.two_pos
  simp only [requestSeed]
  split
  · exact .answered accepted (first (List.replicate lvl.cfg.seedLen.toNat 0)) (Nat.add_pos_left Nat.two_pos _)
  · apply Serves.answered accepted
    · exact first ((lvl.cfg.generateSeed lvl.seed 16 world).1.1.load 0 (lvl.cfg.generateSeed lvl.seed 16 world).1.2)
    · exact Nat.add_pos_left Nat.two_pos _

theorem sendKey_serves (lvl : LevelState ω) (admitted : Admitted svc req reqLen session lvl) (even : req 1 &&& 1 = 0) :
    Serves serviceId (svc, world) (fun after => after.1 = svc ∨ Spent svc req after.1) report
      (svc.Accepts req reqLen session) (svc.sendKey lvl (req 1) req reqLen resp world) := by
  simp only [sendKey]
  by_cases unusable : lvl.seedSent = false ∨ svc.activeLevel ≠ req 1 - 1
  · rw [if_pos unusable]
    have denied : ¬ svc.Accepts req reqLen session := by
      intro accepts
      rcases accepts with ⟨other, known, odd | ⟨sent, active⟩⟩
      · exact odd even
      · rw [Option.some.inj (known.found.symm.trans admitted.found)] at sent
        rcases unusable with unsent | inactive
        · exact Bool.noConfusion (unsent.symm.trans sent)
        · exact inactive active
    exact .refuse denied ..
  · rw [if_neg unusable]
    simp only [not_or, Bool.not_eq_false, Decidable.not_not] at unusable
    have accepted : svc.Accepts req reqLen session := ⟨lvl, admitted, Or.inr unusable⟩
    split
    · rename_i invalid
      have blamed : ∀ seed key, report (.verifyKey lvl.cfg.level seed key
          (lvl.cfg.verifyKey lvl.seed lvl.seedLen (req.advance 2) (reqLen - 2) world).1) ≠ .done := by
        intro seed key
        rw [report, invalid]
        decide
      split
      · rename_i many
        refine .fail accepted _ _ (Or.inr ⟨lvl, admitted.found, ?_⟩) (blamed _ _)
        simp only [failed, many, if_true]
      · rename_i few
        refine .fail accepted _ _ (Or.inr ⟨lvl, admitted.found, ?_⟩) (blamed _ _)
        simp only [failed, few, if_false]
    · exact .answered accepted rfl Nat.two_pos

theorem handle_serves : Serves serviceId (svc, world) (fun after => after.1 = svc ∨ Spent svc req after.1) report
    (svc.Accepts req reqLen session) (svc.handle req reqLen resp respLen session world) := by
  unfold handle
  by_cases short : reqLen < 2
  · rw [if_pos short]
    exact .refuse (fun ⟨_, admitted, _⟩ => absurd short (Nat.not_lt.mpr admitted.length)) ..
  · rw [if_neg short]
    dsimp only
    cases found : svc.findLevel (req 1) with
    | none => exact .refuse (fun ⟨_, admitted, _⟩ => nomatch found.symm.trans admitted.found) ..
    | some lvl =>
      have only : ∀ other, Admitted svc req reqLen session other → other = lvl :=
        fun other admitted => Option.some.inj (admitted.found.symm.trans found)
      dsimp only
      by_cases locked : lvl.lockedUntil ≠ 0 ∧ svc.currentTick < lvl.lockedUntil
      · rw [if_pos locked]
        exact .refuse (fun ⟨other, admitted, _⟩ => admitted.notLocked (only other admitted ▸ locked)) ..
      · rw [if_neg locked]
        by_cases gated : lvl.cfg.requiredSession ≠ session.session
        · rw [if_pos gated]
          exact .refuse (fun ⟨other, admitted, _⟩ => gated (only other admitted ▸ admitted.session)) ..
        · rw [if_neg gated]
          have admitted : Admitted svc req reqLen session lvl :=
            ⟨Nat.le_of_not_lt short, found, locked, Decidable.not_not.mp gated⟩
          by_cases odd : req 1 &&& 1 ≠ 0
          · rw [if_pos odd]
            have accepted : svc.Accepts req reqLen session := ⟨lvl, admitted, Or.inl odd⟩
            exact requestSeed_serves svc resp world accepted ..
          · rw [if_neg odd]
            exact sendKey_serves svc req reqLen resp session world lvl admitted (Decidable.not_not.mp odd)

theorem handle_fits (bounded : svc.Bounded) (room : 257 ≤ respLen) :
    Fits respLen resp (svc.handle req reqLen resp respLen session world).toAnswer := by
  have kept := Region.KeptFrom.refl respLen resp
  have three : 3 ≤ respLen := by omega
  have two : 2 ≤ respLen := by omega
  have header : Region.KeptFrom respLen resp (resp.store 0 [serviceId + 0x40, req 1]) := kept.store two
  have refused : ∀ (nrc : NrcCode) (after : SecurityAccessService ω × ω) (calls : List SecurityCall),
      Fits respLen resp (negative resp serviceId nrc after calls).toAnswer :=
    fun nrc after calls => .negative kept three ..
  unfold handle
  split
  · exact refused ..
  · dsimp only
    split
    · exact refused ..
    · rename_i lvl found
      split
      · exact refused ..
      · split
        · exact refused ..
        · split
          · simp only [requestSeed]
            split
            · have zeros : 2 + lvl.cfg.seedLen.toNat ≤ respLen := by
                have byte := lvl.cfg.seedLen.isLt
                omega
              exact ⟨zeros, header.store (by rw [List.length_replicate]; exact zeros)⟩
            · have generated := bounded lvl (List.mem_of_find?_eq_some found) lvl.seed 16 world
              have seed : 2 + (lvl.cfg.generateSeed lvl.seed 16 world).1.2 ≤ respLen := by omega
              exact ⟨seed, header.store (by rw [Region.load_length]; exact seed)⟩
          · simp only [sendKey]
            split
            · exact refused ..
            · split
              · split
                · exact refused ..
                · exact refused ..
              · exact .header kept [serviceId + 0x40, req 1] two ..

theorem mem_put {lvl other : LevelState ω} {levels : List (LevelState ω)} (member : other ∈ put lvl levels) :
    other = lvl ∨ other ∈ levels := by
  induction levels with
  | nil => cases member
  | cons head levels ih =>
    unfold put at member
    split at member
    · rcases List.mem_cons.mp member with here | later
      · exact Or.inl here
      · exact Or.inr (List.mem_cons_of_mem head later)
    · rcases List.mem_cons.mp member with rfl | later
      · exact Or.inr List.mem_cons_self
      · exact (ih later).imp_right (List.mem_cons_of_mem head)

def Configured (P : SecurityLevel ω → Prop) (svc : SecurityAccessService ω) : Prop := ∀ lvl ∈ svc.levels, P lvl.cfg

section

variable {svc} {P : SecurityLevel ω → Prop}

theorem Configured.store (configured : svc.Configured P) {level : Byte} {old new : LevelState ω}
    (found : svc.lookup level = some old) (same : new.cfg = old.cfg) : (svc.store new).Configured P := by
  intro lvl member
  rcases mem_put member with rfl | kept
  · rw [same]
    exact configured old (List.mem_of_find?_eq_some found)
  · exact configured lvl kept

theorem Configured.handle (configured : svc.Configured P) :
    (svc.handle req reqLen resp respLen session world).state.1.Configured P := by
  cases svc.handle_turn req reqLen resp respLen session world with
  | silent same =>
    rw [same]
    exact configured
  | seed lvl cells len admitted _ _ state =>
    rw [state]
    exact configured.store admitted.found rfl
  | key lvl valid admitted _ _ _ state =>
    rw [state]
    cases valid with
    | false => exact configured.store admitted.found rfl
    | true => exact configured.store admitted.found rfl

theorem Configured.update (configured : svc.Configured P) (tickMs : Word) : (svc.update tickMs).Configured P := by
  intro lvl member
  obtain ⟨old, kept, expired⟩ := List.mem_map.mp member
  have same : lvl.cfg = old.cfg := by
    rw [← expired]
    exact expire_cfg tickMs old
  rw [same]
  exact configured old kept

theorem Configured.register (configured : svc.Configured P) {level : SecurityLevel ω} (holds : P level) :
    (svc.registerLevel level).2.Configured P := by
  unfold registerLevel
  split
  · exact configured
  · split
    · exact configured
    · intro lvl member
      rcases List.mem_append.mp member with kept | added
      · exact configured lvl kept
      · rw [List.mem_singleton.mp added]
        exact holds

end

theorem handle_bounded (bounded : svc.Bounded) :
    (svc.handle req reqLen resp respLen session world).state.1.Bounded := by
  have configured : svc.Configured fun level =>
    ∀ cells maxLen world, (level.generateSeed cells maxLen world).1.2 ≤ maxLen := bounded
  exact configured.handle req reqLen resp respLen session world

end

end SecurityAccessService

end Uds
