import PulseEcu.Services.XorSeeds

open Foundation

namespace Uds

namespace SecurityAccessService

section

variable {ω : Type} {svc : SecurityAccessService ω} {req : Region Byte} {reqLen : Nat} {session : UdsSession}
  {lvl : LevelState ω}

theorem handle_admitted (admitted : Admitted svc req reqLen session lvl) (resp : Region Byte) (respLen : Nat)
    (world : ω) : svc.handle req reqLen resp respLen session world =
      if req 1 &&& 1 ≠ 0 then svc.requestSeed lvl (req 1) resp world
      else svc.sendKey lvl (req 1) req reqLen resp world := by
  obtain ⟨length, found, notLocked, allowed⟩ := admitted
  have sub : svc.findLevel (req 1) = some lvl := found
  have free : ¬ (lvl.lockedUntil ≠ 0 ∧ svc.currentTick < lvl.lockedUntil) := notLocked
  unfold handle
  rw [if_neg (Nat.not_lt.mpr length)]
  dsimp only
  rw [sub]
  dsimp only
  rw [if_neg free, if_neg (not_not_intro allowed)]

theorem seedSub_odd {level : Byte} (odd : level &&& 1 ≠ 0) : seedSub level = level := if_pos odd

/-- The sub-function of the key is one above that of the seed. -/
theorem seedSub_key : ∀ level : Byte, level &&& 1 ≠ 0 → (level + 1) &&& 1 = 0 ∧ seedSub (level + 1) = level := by
  decide +kernel

theorem requestSeed_locked (svc : SecurityAccessService ω) (locked : lvl.unlocked = false) {cells : Region Byte}
    {len : Nat} {world after : ω} (generates : lvl.cfg.generateSeed lvl.seed 16 world = ((cells, len), after))
    (subFunc : Byte) (resp : Region Byte) : (svc.requestSeed lvl subFunc resp world).state =
      ({ svc.store (seeded lvl cells len) with activeLevel := subFunc }, after) := by
  have closed : ¬ lvl.unlocked = true := by rw [locked]; exact Bool.false_ne_true
  rw [requestSeed, if_neg closed]
  simp only [generates]
  rfl

/-- What becomes of a key that is looked at. -/
theorem sendKey_checked (svc : SecurityAccessService ω) (sent : lvl.seedSent = true) {subFunc : Byte}
    (active : svc.activeLevel = subFunc - 1) (req : Region Byte) (reqLen : Nat) (resp : Region Byte) {world after : ω}
    {valid : Bool}
    (verified : lvl.cfg.verifyKey lvl.seed lvl.seedLen (req.advance 2) (reqLen - 2) world = (valid, after)) :
    (svc.sendKey lvl subFunc req reqLen resp world).state.1 =
        svc.store (if valid then opened lvl else failed svc.currentTick lvl) ∧
      if valid then (svc.sendKey lvl subFunc req reqLen resp world).message = [serviceId + 0x40, subFunc]
      else ∃ nrc : NrcCode, (svc.sendKey lvl subFunc req reqLen resp world).message =
        [ServiceId.negativeResponse, serviceId, nrc.toByte] := by
  have usable : ¬ (lvl.seedSent = false ∨ svc.activeLevel ≠ subFunc - 1) := by
    rw [sent]
    exact not_or.mpr ⟨fun unsent => Bool.noConfusion unsent, not_not_intro active⟩
  rw [sendKey, if_neg usable]
  simp only [verified]
  cases valid with
  | true => exact ⟨rfl, resp.load_store 0 [serviceId + 0x40, subFunc]⟩
  | false =>
    rw [if_pos rfl]
    by_cases many : (lvl.failCount + 1).toNat ≥ kMaxAttempts
    · simp only [if_pos many, failed]
      exact ⟨rfl, .exceededNumberOfAttempts, negative_message ..⟩
    · simp only [if_neg many, failed]
      exact ⟨rfl, .invalidKey, negative_message ..⟩

theorem Configured.odd {svc : SecurityAccessService ω} (odd : svc.Configured fun level => level.level &&& 1 ≠ 0)
    (level : SecurityLevel ω) : (svc.registerLevel level).2.Configured fun level => level.level &&& 1 ≠ 0 := by
  by_cases even : level.level &&& 1 = 0
  · have same : (svc.registerLevel level).2 = svc := by
      unfold registerLevel
      split
      · rfl
      · rfl
    rw [same]
    exact odd
  · exact odd.register even

end

end SecurityAccessService

namespace Security

/-- A word is its four bytes. -/
theorem seedBytes_seedWord (bytes : Region Byte) : seedBytes (seedWord bytes) = bytes.load 0 4 := by
  have first := (bytes 0).isLt
  have second := (bytes 1).isLt
  have third := (bytes 2).isLt
  have fourth := (bytes 3).isLt
  have value : (seedWord bytes).toNat =
      256 * (256 * (256 * (bytes 0).toNat + (bytes 1).toNat) + (bytes 2).toNat) + (bytes 3).toNat := by
    rw [seedWord_shiftIn, shiftIn_toNat (by decide)]
    have read : bytes.load 0 4 = [bytes 0, bytes 1, bytes 2, bytes 3] := rfl
    simp only [read, bigEndian, List.foldl_cons, List.foldl_nil]
    omega
  have read : bytes.load 0 4 = [bytes 0, bytes 1, bytes 2, bytes 3] := rfl
  rw [read, seedBytes]
  congr 1
  · apply BitVec.eq_of_toNat_eq
    rw [BitVec.toNat_setWidth, BitVec.toNat_ushiftRight, Nat.shiftRight_eq_div_pow, value]
    omega
  congr 1
  · apply BitVec.eq_of_toNat_eq
    rw [BitVec.toNat_setWidth, BitVec.toNat_ushiftRight, Nat.shiftRight_eq_div_pow, value]
    omega
  congr 1
  · apply BitVec.eq_of_toNat_eq
    rw [BitVec.toNat_setWidth, BitVec.toNat_ushiftRight, Nat.shiftRight_eq_div_pow, value]
    omega
  congr 1
  · apply BitVec.eq_of_toNat_eq
    rw [BitVec.toNat_setWidth, value]
    omega

theorem seedWord_of_bytes {bytes : Region Byte} {word : Word} (same : bytes.load 0 4 = seedBytes word) :
    seedWord bytes = word := by
  rw [← seedBytes_seedWord] at same
  exact seedBytes_injective same

end Security

namespace XorSecurity

open SecurityAccessService

def OddLevels (s : XorSecurity) : Prop := s.sec.Configured fun level => level.level &&& 1 ≠ 0

theorem OddLevels.next (s : XorSecurity) (event : Event) (odd : OddLevels s) : OddLevels (machine.next s event) := by
  cases event with
  | register level seedLen requiredSession ctx => exact Configured.odd odd _
  | request req reqLen resp respLen => exact Configured.handle req reqLen resp respLen s.session s.world odd
  | update tickMs => exact Configured.update odd tickMs
  | sessionChange session => exact odd
  | generateSeed buf max => exact odd
  | objects objects => exact odd

def Quiet (level : Byte) (tick : Word) : Event → Prop
  | .register .. => True
  | .request req reqLen _ _ => reqLen < 2 ∨ (req 1 &&& 1 = 0 ∧ seedSub (req 1) ≠ level)
  | .update tickMs => tick ≤ tickMs
  | .sessionChange _ => True
  | .generateSeed .. => True
  | .objects _ => False

structure Issued (cfg : SecurityLevel XorWorld) (word tick : Word) (lvl : LevelState XorWorld) : Prop where
  cfg : lvl.cfg = cfg
  sent : lvl.seedSent = true
  locked : lvl.unlocked = false
  length : lvl.seedLen = 4
  seed : lvl.seed.load 0 4 = Security.seedBytes word
  free : lvl.lockedUntil ≤ tick

structure Waits (level : Byte) (cfg : SecurityLevel XorWorld) (word tick : Word)
    (objects : Nat → Security.XorAlgorithm) (s : XorSecurity) : Prop where
  issued : ∃ lvl, s.sec.lookup level = some lvl ∧ Issued cfg word tick lvl
  active : s.sec.activeLevel = level
  later : tick ≤ s.sec.currentTick
  objects : s.world.objects = objects

section

variable {s : XorSecurity} {level : Byte} {cfg : SecurityLevel XorWorld} {word tick : Word}
  {objects : Nat → Security.XorAlgorithm}

theorem handle_objects (s : XorSecurity) (running : Running s) (req : Region Byte) (reqLen : Nat) (resp : Region Byte)
    (respLen : Nat) : (s.sec.handle req reqLen resp respLen s.session s.world).state.2.objects = s.world.objects := by
  have keeps : s.sec.Configured (SecurityLevel.Keeps fun world => world.objects = s.world.objects) := by
    intro lvl member
    obtain ⟨number, seedLen, requiredSession, ctx, same⟩ := running.levels lvl member
    rw [same]
    exact fun world good => ⟨fun _ _ => good, fun _ _ _ _ => good⟩
  exact handle_keeps keeps rfl

theorem Waits.next (waits : Waits level cfg word tick objects s) (running : Running s) {event : Event}
    (quiet : Quiet level tick event) : Waits level cfg word tick objects (machine.next s event) := by
  obtain ⟨⟨lvl, found, issued⟩, active, later, kept⟩ := waits
  cases event with
  | register number seedLen requiredSession ctx =>
    obtain ⟨stays, ticks⟩ := s.sec.registerLevel_frame (xorLevel number seedLen requiredSession ctx)
    refine ⟨⟨lvl, ?_, issued⟩, stays.trans active, ?_, kept⟩
    · rcases s.sec.lookup_register (xorLevel number seedLen requiredSession ctx) level with unchanged | ⟨none, _⟩
      · exact unchanged.trans found
      · cases none.symm.trans found
    · show tick ≤ (s.sec.registerLevel (xorLevel number seedLen requiredSession ctx)).2.currentTick
      rw [ticks]
      exact later
  | request req reqLen resp respLen =>
    have objects := (handle_objects s running req reqLen resp respLen).trans kept
    have ticks := s.sec.handle_currentTick req reqLen resp respLen s.session s.world
    have stays : (s.sec.handle req reqLen resp respLen s.session s.world).state.1.lookup level = some lvl ∧
        (s.sec.handle req reqLen resp respLen s.session s.world).state.1.activeLevel = level := by
      cases s.sec.handle_turn req reqLen resp respLen s.session s.world with
      | silent unchanged _ =>
        rw [unchanged]
        exact ⟨found, active⟩
      | seed other cells len admitted odd _ _ _ =>
        rcases quiet with short | ⟨even, _⟩
        · exact absurd admitted.length (by omega)
        · exact absurd even odd
      | key other valid admitted _ _ _ state _ =>
        rcases quiet with short | ⟨_, apart⟩
        · exact absurd admitted.length (by omega)
        · have number := lookup_level admitted.found
          have other' : s.sec.lookup other.cfg.level = some other := by
            rw [number]
            exact admitted.found
          have elsewhere : other.cfg.level ≠ level := by rwa [number]
          rw [state]
          refine ⟨?_, active⟩
          cases valid with
          | false =>
            have stored := lookup_store (failed s.sec.currentTick other) other' level
            exact (stored.trans (if_neg elsewhere)).trans found
          | true =>
            have stored := lookup_store (opened other) other' level
            exact (stored.trans (if_neg elsewhere)).trans found
    refine ⟨⟨lvl, stays.1, issued⟩, stays.2, ?_, objects⟩
    show tick ≤ (s.sec.handle req reqLen resp respLen s.session s.world).state.1.currentTick
    rw [ticks]
    exact later
  | update tickMs =>
    obtain ⟨cells, lengths, sends, unlocks⟩ := expire_frame tickMs lvl
    have expired := s.sec.lookup_expire tickMs level
    rw [found] at expired
    refine ⟨⟨expire tickMs lvl, expired, (expire_cfg tickMs lvl).trans issued.cfg, sends.trans issued.sent,
      unlocks.trans issued.locked, lengths.trans issued.length, ?_, ?_⟩, active, quiet, kept⟩
    · rw [cells]
      exact issued.seed
    · unfold expire
      split
      · exact BitVec.le_def.mpr (Nat.zero_le _)
      · exact issued.free
  | sessionChange session => exact ⟨⟨lvl, found, issued⟩, active, later, kept⟩
  | generateSeed buf max => exact ⟨⟨lvl, found, issued⟩, active, later, kept⟩
  | objects objects => exact absurd quiet id

theorem Waits.run (waits : Waits level cfg word tick objects s) (running : Running s) (events : List Event)
    (quiet : ∀ event ∈ events, Quiet level tick event) : Waits level cfg word tick objects (machine.run s events) := by
  induction events generalizing s with
  | nil => exact waits
  | cons event events ih =>
    obtain ⟨now, after⟩ := List.forall_mem_cons.mp quiet
    exact ih (waits.next running now) (running.next s event) after

/-- A locked level that is asked in its session and is not delayed sends a seed that is not zero. -/
theorem asked (running : Running s) (odd : OddLevels s) {seedLen : Byte} {requiredSession : SessionType} {ctx : Option Nat}
    {lvl : LevelState XorWorld} (found : s.sec.lookup level = some lvl)
    (xor : lvl.cfg = xorLevel level seedLen requiredSession ctx) (locked : lvl.unlocked = false)
    (session : s.session.session = requiredSession) (free : ¬ s.sec.LockedOut lvl) {req : Region Byte} {reqLen : Nat}
    (length : 2 ≤ reqLen) (sub : req 1 = level) (resp : Region Byte) (respLen : Nat) :
    ∃ word, word ≠ 0 ∧
      machine.output s (.request req reqLen resp respLen) =
        [ServiceId.securityAccess + 0x40, level] ++ Security.seedBytes word ∧
      Waits level (xorLevel level seedLen requiredSession ctx) word s.sec.currentTick s.world.objects
        (machine.next s (.request req reqLen resp respLen)) := by
  have number := lookup_level found
  have parity : level &&& 1 ≠ 0 := by
    rw [← number]
    exact odd lvl (List.mem_of_find?_eq_some found)
  have admitted : Admitted s.sec req reqLen s.session lvl := by
    refine ⟨length, ?_, free, ?_⟩
    · rw [sub, seedSub_odd parity]
      exact found
    · rw [xor, session]
      rfl
  have handled := handle_admitted admitted resp respLen s.world
  rw [sub, if_pos parity] at handled
  have generated := Security.XorAlgorithm.generateSeed_enough lvl.seed s.world.lfsr (show 4 ≤ 16 by decide)
  have generates : lvl.cfg.generateSeed lvl.seed 16 s.world =
      ((lvl.seed.store 0 (Security.seedBytes (Security.xorshift s.world.lfsr)), 4),
        { s.world with lfsr := Security.xorshift s.world.lfsr }) := by
    rw [xor]
    simp only [xorLevel, generated]
  have cells : (lvl.seed.store 0 (Security.seedBytes (Security.xorshift s.world.lfsr))).load 0 4 =
      Security.seedBytes (Security.xorshift s.world.lfsr) := lvl.seed.load_store 0 _
  refine ⟨Security.xorshift s.world.lfsr, Security.xorshift_ne_zero running.word, ?_, ?_⟩
  · show (s.sec.handle req reqLen resp respLen s.session s.world).message = _
    rw [handled, requestSeed_message, locked, if_neg Bool.false_ne_true]
    dsimp only
    rw [generates, cells]
    rfl
  · have state := requestSeed_locked s.sec locked generates level resp
    have next : machine.next s (.request req reqLen resp respLen) =
        { s with
          sec := { s.sec.store (seeded lvl (lvl.seed.store 0 (Security.seedBytes (Security.xorshift s.world.lfsr))) 4)
            with activeLevel := level }
          world := { s.world with lfsr := Security.xorshift s.world.lfsr } } := by
      simp only [Machine.next, machine, handled, state]
    have stored := lookup_store (seeded lvl (lvl.seed.store 0 (Security.seedBytes (Security.xorshift s.world.lfsr))) 4)
      (by rw [← number] at found; exact found) level
    have stored := stored.trans (if_pos number)
    rw [next]
    refine ⟨⟨_, stored, xor, rfl, locked, rfl, cells, ?_⟩, rfl, Nat.le_refl _, rfl⟩
    by_cases none : lvl.lockedUntil = 0
    · show lvl.lockedUntil ≤ s.sec.currentTick
      rw [none]
      exact BitVec.le_def.mpr (Nat.zero_le _)
    · exact BitVec.le_def.mpr (Nat.le_of_not_lt fun early => free ⟨none, BitVec.lt_def.mpr early⟩)

/-- The key to the seed opens the level, and no other key of four bytes does. -/
theorem Waits.answered {seedLen : Byte} {requiredSession : SessionType} {object : Nat}
    (waits : Waits level (xorLevel level seedLen requiredSession (some object)) word tick objects s) (odd : OddLevels s)
    (session : s.session.session = requiredSession) {req : Region Byte} (sub : req 1 = level + 1) (resp : Region Byte)
    (respLen : Nat) :
    if req.load 2 4 = Security.seedBytes (word ^^^ (objects object).secretMask) then
      machine.output s (.request req 6 resp respLen) = [ServiceId.securityAccess + 0x40, level + 1] ∧
        (machine.next s (.request req 6 resp respLen)).sec.isUnlocked level = true
    else
      (∃ nrc : NrcCode, machine.output s (.request req 6 resp respLen) =
        [ServiceId.negativeResponse, ServiceId.securityAccess, nrc.toByte]) ∧
        (machine.next s (.request req 6 resp respLen)).sec.isUnlocked level = false := by
  obtain ⟨⟨lvl, found, issued⟩, active, later, kept⟩ := waits
  have number := lookup_level found
  have parity : level &&& 1 ≠ 0 := by
    rw [← number]
    exact odd lvl (List.mem_of_find?_eq_some found)
  obtain ⟨even, seedSub⟩ := seedSub_key level parity
  have admitted : Admitted s.sec req 6 s.session lvl := by
    refine ⟨by decide, ?_, fun locked => ?_, ?_⟩
    · rw [sub, seedSub]
      exact found
    · have free := BitVec.le_def.mp (BitVec.le_trans issued.free later)
      exact absurd (BitVec.lt_def.mp locked.2) (Nat.not_lt.mpr free)
    · rw [issued.cfg, session]
      rfl
  have handled := handle_admitted admitted resp respLen s.world
  rw [sub, if_neg (not_not_intro even)] at handled
  have seed := Security.seedWord_of_bytes issued.seed
  have key : (req.advance 2).load 0 4 = req.load 2 4 := req.advance_load 2 0 4
  have verified : lvl.cfg.verifyKey lvl.seed lvl.seedLen (req.advance 2) (6 - 2) s.world =
      (decide (req.load 2 4 = Security.seedBytes (word ^^^ (objects object).secretMask)), s.world) := by
    have right : (word ^^^ (objects object).secretMask = Security.seedWord (req.advance 2)) ↔
        req.load 2 4 = Security.seedBytes (word ^^^ (objects object).secretMask) := by
      rw [← key, ← Security.seedBytes_seedWord, Security.seedBytes_injective.eq_iff]
      exact eq_comm
    rw [issued.cfg, issued.length]
    simp only [xorLevel, Option.map_some, Security.XorAlgorithm.verifyKey, seed, kept]
    exact congrArg (fun valid => (valid, s.world)) (decide_eq_decide.mpr right)
  have sequence : s.sec.activeLevel = level + 1 - 1 := by
    rw [active, BitVec.add_sub_cancel]
  obtain ⟨state, message⟩ := sendKey_checked s.sec issued.sent sequence req 6 resp verified
  have next : (machine.next s (.request req 6 resp respLen)).sec =
      (s.sec.sendKey lvl (level + 1) req 6 resp s.world).state.1 := by
    rw [← handled]
    rfl
  have output : machine.output s (.request req 6 resp respLen) =
      (s.sec.sendKey lvl (level + 1) req 6 resp s.world).message := by
    rw [← handled]
    rfl
  have found' : s.sec.lookup lvl.cfg.level = some lvl := by
    rw [number]
    exact found
  rw [output, next, state]
  by_cases right : req.load 2 4 = Security.seedBytes (word ^^^ (objects object).secretMask)
  · rw [decide_eq_true right] at message ⊢
    have stored := (lookup_store (opened lvl) found' level).trans (if_pos number)
    rw [if_pos right]
    exact ⟨message, isUnlocked_of_lookup stored⟩
  · rw [decide_eq_false right] at message ⊢
    have stored := (lookup_store (failed s.sec.currentTick lvl) found' level).trans (if_pos number)
    rw [if_neg right]
    exact ⟨message, (isUnlocked_of_lookup stored).trans issued.locked⟩

end

/-- From every reachable state a tester that knows the mask opens a locked level that is not delayed: it asks for
    the seed in the session of the level, and whatever goes on in between, in that session the seed under
    the mask is the one key that is taken. -/
theorem handshake_opens (session : UdsSession) (objects : Nat → Security.XorAlgorithm) (events : List Event)
    (level seedLen : Byte) (requiredSession : SessionType) (object : Nat) (lvl : LevelState XorWorld) :
    let s := machine.run (start session objects) events
    s.sec.lookup level = some lvl → lvl.cfg = xorLevel level seedLen requiredSession (some object) →
    lvl.unlocked = false → s.session.session = requiredSession → ¬ s.sec.LockedOut lvl →
    ∀ (ask key : Region Byte) (askLen : Nat) (resp : Region Byte) (respLen : Nat) (between : List Event),
      2 ≤ askLen → ask 1 = level → key 1 = level + 1 →
      (∀ event ∈ between, Quiet level s.sec.currentTick event) →
      let asking := machine.next s (.request ask askLen resp respLen)
      let waiting := machine.run asking between
      let opened := machine.next waiting (.request key 6 resp respLen)
      waiting.session.session = requiredSession →
      ∃ word, word ≠ 0 ∧
        machine.output s (.request ask askLen resp respLen) =
          [ServiceId.securityAccess + 0x40, level] ++ Security.seedBytes word ∧
        if key.load 2 4 = Security.seedBytes (word ^^^ (s.world.objects object).secretMask) then
          machine.output waiting (.request key 6 resp respLen) = [ServiceId.securityAccess + 0x40, level + 1] ∧
            opened.sec.isUnlocked level = true
        else
          (∃ nrc : NrcCode, machine.output waiting (.request key 6 resp respLen) =
            [ServiceId.negativeResponse, ServiceId.securityAccess, nrc.toByte]) ∧
            opened.sec.isUnlocked level = false := by
  intro s found xor locked inside free ask key askLen resp respLen between length first second quiet asking waiting
    opened again
  have running : Running s := machine.run_invariant_all Running.next _ events (start_running session objects)
  have odd : OddLevels s := machine.run_invariant_all OddLevels.next _ events (List.forall_mem_nil _)
  obtain ⟨word, nonzero, sent, waits⟩ := asked running odd found xor locked inside free length first resp respLen
  have asks := running.next s (.request ask askLen resp respLen)
  have odds := odd.next s (.request ask askLen resp respLen)
  have later : OddLevels waiting := machine.run_invariant_all OddLevels.next _ between odds
  exact ⟨word, nonzero, sent, (waits.run asks between quiet).answered later again second resp respLen⟩

def exampleAsk : Region Byte := (Region.fill 0).store 0 [0x27, 0x01]

def exampleAnswer : Region Byte :=
  (Region.fill 0).store 0 (0x27 :: 0x02 :: Security.seedBytes (Security.xorshift Security.kSeedStart ^^^ 0xDEAD1234))

def exampleBetween : List Event :=
  [.update 5, .sessionChange (.create kDefaultTiming), .generateSeed (Region.fill 0) 4,
    .sessionChange ((UdsSession.create kDefaultTiming).transition .extended).2]

theorem handshake_opens_example :
    let s := machine.run exampleStart [exampleLevel]
    let asking := machine.next s (.request exampleAsk 2 (Region.fill 0) 4096)
    let waiting := machine.run asking exampleBetween
    let opened := machine.next waiting (.request exampleAnswer 6 (Region.fill 0) 4096)
    ∃ word, word ≠ 0 ∧
      machine.output s (.request exampleAsk 2 (Region.fill 0) 4096) =
        [ServiceId.securityAccess + 0x40, 0x01] ++ Security.seedBytes word ∧
      if exampleAnswer.load 2 4 = Security.seedBytes (word ^^^ (s.world.objects 0).secretMask) then
        machine.output waiting (.request exampleAnswer 6 (Region.fill 0) 4096) =
          [ServiceId.securityAccess + 0x40, 0x01 + 1] ∧ opened.sec.isUnlocked 0x01 = true
      else
        (∃ nrc : NrcCode, machine.output waiting (.request exampleAnswer 6 (Region.fill 0) 4096) =
          [ServiceId.negativeResponse, ServiceId.securityAccess, nrc.toByte]) ∧ opened.sec.isUnlocked 0x01 = false := by
  refine handshake_opens ((UdsSession.create kDefaultTiming).transition .extended).2 (fun _ => ⟨0xDEAD1234⟩)
    [exampleLevel] 0x01 4 .extended 0 ⟨xorLevel 0x01 4 .extended (some 0), Region.fill 0, 0, false, false, 0, 0⟩
    rfl rfl rfl rfl (fun locked => locked.1 rfl) exampleAsk exampleAnswer 2 (Region.fill 0) 4096 exampleBetween
    (by decide) rfl rfl ?_ rfl
  intro event member
  rcases List.mem_cons.mp member with rfl | member
  · exact BitVec.le_def.mpr (Nat.zero_le _)
  · rcases List.mem_cons.mp member with rfl | member
    · trivial
    · rcases List.mem_cons.mp member with rfl | member
      · trivial
      · rw [List.mem_singleton.mp member]
        trivial

end XorSecurity

end Uds
