import PulseEcu.Foundation.Run
import PulseEcu.Security.SeedKey
import PulseEcu.Services.SecurityAccess

open Foundation

namespace Uds

def SecurityLevel.Keeps {ω : Type} (Good : ω → Prop) (level : SecurityLevel ω) : Prop := ∀ world, Good world →
  (∀ cells maxLen, Good (level.generateSeed cells maxLen world).2) ∧
    ∀ seed seedLen key keyLen, Good (level.verifyKey seed seedLen key keyLen world).2

namespace SecurityAccessService

section

variable {ω : Type} {svc : SecurityAccessService ω} {req resp : Region Byte} {reqLen respLen : Nat}
  {session : UdsSession} {world : ω}

theorem handle_keeps {Good : ω → Prop} (keeps : svc.Configured (SecurityLevel.Keeps Good)) (good : Good world) :
    Good (svc.handle req reqLen resp respLen session world).state.2 := by
  unfold handle
  split
  · exact good
  · dsimp only
    split
    · exact good
    · rename_i lvl found
      have kept := keeps lvl (List.mem_of_find?_eq_some found) world good
      split
      · exact good
      · split
        · exact good
        · split
          · simp only [requestSeed]
            split
            · exact good
            · exact kept.1 lvl.seed 16
          · simp only [sendKey]
            split
            · exact good
            · split
              · split
                · exact kept.2 lvl.seed lvl.seedLen (req.advance 2) (reqLen - 2)
                · exact kept.2 lvl.seed lvl.seedLen (req.advance 2) (reqLen - 2)
              · exact kept.2 lvl.seed lvl.seedLen (req.advance 2) (reqLen - 2)

theorem requestSeed_message (lvl : LevelState ω) (subFunc : Byte) :
    (svc.requestSeed lvl subFunc resp world).message = (serviceId + 0x40) :: subFunc ::
      if lvl.unlocked then List.replicate lvl.cfg.seedLen.toNat 0
      else
        let generated := lvl.cfg.generateSeed lvl.seed 16 world
        generated.1.1.load 0 generated.1.2 := by
  have message : ∀ seed : List Byte, (((resp.store 0 [serviceId + 0x40, subFunc]).store 2 seed).load 0
      (2 + seed.length)) = (serviceId + 0x40) :: subFunc :: seed := by
    intro seed
    have header : (resp.store 0 [serviceId + 0x40, subFunc]).load 0 2 = [serviceId + 0x40, subFunc] :=
      resp.load_store 0 [serviceId + 0x40, subFunc]
    rw [Region.load_store_append, header]
    rfl
  simp only [requestSeed]
  cases unlocked : lvl.unlocked with
  | true =>
    have zeros := message (List.replicate lvl.cfg.seedLen.toNat 0)
    rw [List.length_replicate] at zeros
    exact zeros
  | false =>
    let generated := lvl.cfg.generateSeed lvl.seed 16 world
    have seed := message (generated.1.1.load 0 generated.1.2)
    rw [Region.load_length] at seed
    exact seed

/-- A positive response to requestSeed comes from the level of its sub-function. -/
theorem handle_seed (odd : req 1 &&& 1 ≠ 0)
    (positive : (svc.handle req reqLen resp respLen session world).message.head? = some (serviceId + 0x40)) :
    ∃ lvl, svc.lookup (req 1) = some lvl ∧
      svc.handle req reqLen resp respLen session world = svc.requestSeed lvl (req 1) resp world := by
  have refused : ∀ (nrc : NrcCode) (state : SecurityAccessService ω × ω),
      (negative resp serviceId nrc state ([] : List SecurityCall)).message.head? ≠ some (serviceId + 0x40) := by
    intro nrc state
    rw [negative_message]
    exact fun same => absurd (Option.some.inj same) (by decide)
  unfold handle at positive ⊢
  by_cases short : reqLen < 2
  · rw [if_pos short] at positive
    exact absurd positive (refused _ _)
  · rw [if_neg short] at positive ⊢
    dsimp only at positive ⊢
    cases found : svc.findLevel (req 1) with
    | none =>
      rw [found] at positive
      exact absurd positive (refused _ _)
    | some lvl =>
      rw [found] at positive
      dsimp only at positive ⊢
      have sub : seedSub (req 1) = req 1 := if_pos odd
      rw [findLevel, sub] at found
      by_cases locked : lvl.lockedUntil ≠ 0 ∧ svc.currentTick < lvl.lockedUntil
      · rw [if_pos locked] at positive
        exact absurd positive (refused _ _)
      · rw [if_neg locked] at positive ⊢
        by_cases gated : lvl.cfg.requiredSession ≠ session.session
        · rw [if_pos gated] at positive
          exact absurd positive (refused _ _)
        · rw [if_neg gated, if_pos odd]
          exact ⟨lvl, found, rfl⟩

end

end SecurityAccessService

/-- What the algorithm uses outside the service: its static word and the objects that `ctx` points to. -/
structure XorWorld where
  lfsr : Word
  objects : Nat → Security.XorAlgorithm

def xorLevel (level seedLen : Byte) (requiredSession : SessionType) (ctx : Option Nat) : SecurityLevel XorWorld where
  level := level
  seedLen := seedLen
  generateSeed buf max world :=
    let generated := Security.XorAlgorithm.generateSeed buf max world.lfsr
    (generated.1, { world with lfsr := generated.2 })
  verifyKey seed seedLen key keyLen world :=
    (Security.XorAlgorithm.verifyKey (ctx.map world.objects) seed seedLen key keyLen, world)
  requiredSession := requiredSession

structure XorSecurity where
  sec : SecurityAccessService XorWorld
  session : UdsSession
  world : XorWorld

namespace XorSecurity

inductive Event where
  | register (level seedLen : Byte) (requiredSession : SessionType) (ctx : Option Nat)
  | request (req : Region Byte) (reqLen : Nat) (resp : Region Byte) (respLen : Nat)
  | update (tickMs : Word)
  | sessionChange (session : UdsSession)
  | generateSeed (buf : Region Byte) (max : Nat)
  | objects (objects : Nat → Security.XorAlgorithm)

def machine : Machine XorSecurity Event (List Byte) where
  step s
    | .register level seedLen requiredSession ctx =>
      ({ s with sec := (s.sec.registerLevel (xorLevel level seedLen requiredSession ctx)).2 }, [])
    | .request req reqLen resp respLen =>
      let handled := s.sec.handle req reqLen resp respLen s.session s.world
      ({ s with sec := handled.state.1, world := handled.state.2 }, handled.message)
    | .update tickMs => ({ s with sec := s.sec.update tickMs }, [])
    | .sessionChange session => ({ s with session := session }, [])
    | .generateSeed buf max =>
      ({ s with world.lfsr := (Security.XorAlgorithm.generateSeed buf max s.world.lfsr).2 }, [])
    | .objects objects => ({ s with world.objects := objects }, [])

def start (session : UdsSession) (objects : Nat → Security.XorAlgorithm) : XorSecurity :=
  ⟨.create, session, ⟨Security.kSeedStart, objects⟩⟩

def Xor (level : SecurityLevel XorWorld) : Prop :=
  ∃ number seedLen requiredSession ctx, level = xorLevel number seedLen requiredSession ctx

structure Running (s : XorSecurity) : Prop where
  word : s.world.lfsr ≠ 0
  levels : s.sec.Configured Xor

theorem Xor.keeps {level : SecurityLevel XorWorld} (xor : Xor level) : level.Keeps fun world => world.lfsr ≠ 0 := by
  obtain ⟨number, seedLen, requiredSession, ctx, rfl⟩ := xor
  intro world running
  exact ⟨fun cells maxLen => Security.XorAlgorithm.generateSeed_ne_zero cells running, fun _ _ _ _ => running⟩

theorem Running.next (s : XorSecurity) (event : Event) (running : Running s) : Running (machine.next s event) := by
  obtain ⟨word, levels⟩ := running
  cases event with
  | register level seedLen requiredSession ctx => exact ⟨word, levels.register ⟨level, seedLen, requiredSession, ctx, rfl⟩⟩
  | request req reqLen resp respLen =>
    have keeps : s.sec.Configured (SecurityLevel.Keeps fun world => world.lfsr ≠ 0) :=
      fun lvl member => (levels lvl member).keeps
    exact ⟨SecurityAccessService.handle_keeps keeps word, levels.handle req reqLen resp respLen s.session s.world⟩
  | update tickMs => exact ⟨word, levels.update tickMs⟩
  | sessionChange session => exact ⟨word, levels⟩
  | generateSeed buf max => exact ⟨Security.XorAlgorithm.generateSeed_ne_zero buf word, levels⟩
  | objects objects => exact ⟨word, levels⟩

theorem start_running (session : UdsSession) (objects : Nat → Security.XorAlgorithm) :
    Running (start session objects) := by
  have word : Security.kSeedStart ≠ 0 := by decide
  exact ⟨word, List.forall_mem_nil _⟩

/-- What a tester reads off the seed: zero bytes only for an unlocked level, four bytes that are not all zero for a
    locked one. -/
def Tells (unlocked : Bool) (seed : List Byte) : Prop :=
  (unlocked = true → ∀ b ∈ seed, b = 0) ∧ (unlocked = false → seed.length = 4 ∧ ∃ b ∈ seed, b ≠ 0)

theorem Xor.tells {level : SecurityLevel XorWorld} (xor : Xor level) {world : XorWorld} (word : world.lfsr ≠ 0)
    (cells : Region Byte) (unlocked : Bool) :
    Tells unlocked (if unlocked then List.replicate level.seedLen.toNat 0
      else
        let generated := level.generateSeed cells 16 world
        generated.1.1.load 0 generated.1.2) := by
  obtain ⟨number, seedLen, requiredSession, ctx, rfl⟩ := xor
  cases unlocked with
  | true => exact ⟨fun _ b member => List.eq_of_mem_replicate member, fun other => nomatch other⟩
  | false =>
    have enough : 4 ≤ 16 := by decide
    have generated := Security.XorAlgorithm.generateSeed_enough cells world.lfsr enough
    have seed : (cells.store 0 (Security.seedBytes (Security.xorshift world.lfsr))).load 0 4 =
        Security.seedBytes (Security.xorshift world.lfsr) := cells.load_store 0 _
    simp only [xorLevel, generated, Bool.false_eq_true, if_false, seed]
    exact ⟨fun other => (nomatch other), fun _ => ⟨rfl, Security.seedBytes_ne_zero (Security.xorshift_ne_zero word)⟩⟩

theorem Running.tells {s : XorSecurity} (running : Running s) {req : Region Byte} (odd : req 1 &&& 1 ≠ 0)
    (reqLen : Nat) (resp : Region Byte) (respLen : Nat)
    (positive : (machine.output s (.request req reqLen resp respLen)).head? = some (ServiceId.securityAccess + 0x40)) :
    ∃ seed, machine.output s (.request req reqLen resp respLen) = (ServiceId.securityAccess + 0x40) :: req 1 :: seed ∧
      Tells (s.sec.isUnlocked (req 1)) seed := by
  obtain ⟨lvl, found, same⟩ := SecurityAccessService.handle_seed odd positive
  have message : machine.output s (.request req reqLen resp respLen) =
      (s.sec.requestSeed lvl (req 1) resp s.world).message := by
    rw [← same]
    rfl
  have xor : Xor lvl.cfg := running.levels lvl (List.mem_of_find?_eq_some found)
  rw [message, SecurityAccessService.requestSeed_message, SecurityAccessService.isUnlocked_of_lookup found]
  exact ⟨_, rfl, xor.tells running.word lvl.seed lvl.unlocked⟩

def Telling (entry : Machine.Entry XorSecurity Event (List Byte)) : Prop :=
  ∀ req reqLen resp respLen, entry.event = .request req reqLen resp respLen → req 1 &&& 1 ≠ 0 →
    entry.output.head? = some (ServiceId.securityAccess + 0x40) →
    ∃ seed, entry.output = (ServiceId.securityAccess + 0x40) :: req 1 :: seed ∧
      Tells (entry.before.sec.isUnlocked (req 1)) seed

theorem Running.telling (s : XorSecurity) (event : Event) (running : Running s) : Telling (machine.entry s event) := by
  intro req reqLen resp respLen same odd positive
  have request : event = .request req reqLen resp respLen := same
  subst request
  exact running.tells odd reqLen resp respLen positive

/-- However long the run, a zero seed means an unlocked level, and only that. -/
theorem seeds_tell (session : UdsSession) (objects : Nat → Security.XorAlgorithm) (events : List Event) :
    ∀ entry ∈ machine.trace (start session objects) events, Telling entry :=
  machine.trace_shows Running.next Running.telling (start session objects) events (start_running session objects)

def requestBytes (bytes : List Byte) : Event :=
  .request ((Region.fill 0).store 0 bytes) bytes.length (Region.fill 0) 4096

def exampleStart : XorSecurity :=
  start ((UdsSession.create kDefaultTiming).transition .extended).2 fun _ => ⟨0xDEAD1234⟩

def exampleLevel : Event := .register 1 4 .extended (some 0)

def exampleKey : Event :=
  requestBytes (0x27 :: 0x02 :: Security.seedBytes (Security.xorshift Security.kSeedStart ^^^ 0xDEAD1234))

/-- Asked for a seed before and after the key for the first one. -/
theorem seeds_tell_unlocking :
    let asks := requestBytes [0x27, 0x01]
    let locked := machine.run exampleStart [exampleLevel]
    let unlocked := machine.run exampleStart [exampleLevel, asks, exampleKey]
    (∃ seed, machine.output locked asks = 0x67 :: 0x01 :: seed ∧ Tells false seed) ∧
      ∃ seed, machine.output unlocked asks = 0x67 :: 0x01 :: seed ∧ Tells true seed := by
  intro asks locked unlocked
  have record := seeds_tell ((UdsSession.create kDefaultTiming).transition .extended).2 (fun _ => ⟨0xDEAD1234⟩)
    [exampleLevel, asks, exampleKey, asks]
  have before := record (machine.entry locked asks) (List.mem_cons_of_mem _ List.mem_cons_self)
  have after := record (machine.entry unlocked asks) (List.mem_of_getLast? rfl)
  have closed : locked.sec.isUnlocked 0x01 = false := by decide +kernel
  have opened : unlocked.sec.isUnlocked 0x01 = true := by decide +kernel
  rw [← closed, ← opened]
  exact ⟨before _ _ _ _ rfl (by decide) (by decide +kernel), after _ _ _ _ rfl (by decide) (by decide +kernel)⟩

end XorSecurity

end Uds
