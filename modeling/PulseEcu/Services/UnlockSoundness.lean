import PulseEcu.Services.SecurityRun

open Foundation

namespace Uds.SecurityAccessService

variable {ω : Type} {svc : SecurityAccessService ω} {record : List (Step ω)} {level : Byte}

def SeedFresh (record : List (Step ω)) (svc : SecurityAccessService ω) : Prop :=
  ∀ level lvl, svc.lookup level = some lvl → lvl.seedSent = true → svc.activeLevel = level →
    ∃ earlier, callsOf record = earlier ++ [.generateSeed level (lvl.seed.load 0 lvl.seedLen)]

/-- The step is a sendKey request for `level`, in its session and not locked out, with a key that
    was found valid for the seed that the last call before it produced for `level`. -/
inductive UnlockedByKey (level : Byte) (past : List (Step ω)) (step : Step ω) : Prop
  | intro (req : Region Byte) (reqLen : Nat) (resp : Region Byte) (respLen : Nat) (session : UdsSession) (world : ω)
      (lvl : LevelState ω) (seed : List Byte) (earlier : List SecurityCall)
      (event : step.event = .request req reqLen resp respLen session world)
      (length : 2 ≤ reqLen) (sendKey : req 1 = level + 1)
      (found : step.before.lookup level = some lvl)
      (inSession : lvl.cfg.requiredSession = session.session)
      (notLocked : ¬ step.before.LockedOut lvl)
      (verified : step.output = [.verifyKey level seed (req.load 2 (reqLen - 2)) true])
      (fresh : callsOf past = earlier ++ [.generateSeed level seed])

theorem SeedFresh.quiet {next : SecurityAccessService ω} (fresh : SeedFresh record svc) (step : Step ω)
    (silent : step.output = []) (active : next.activeLevel = svc.activeLevel)
    (known : ∀ level lvl, next.lookup level = some lvl → lvl.seedSent = true → ∃ old, svc.lookup level = some old ∧
      old.seedSent = true ∧ old.seed = lvl.seed ∧ old.seedLen = lvl.seedLen) : SeedFresh (record ++ [step]) next := by
  intro level lvl found sent current
  obtain ⟨old, was, before, seed, seedLen⟩ := known level lvl found sent
  rw [callsOf_snoc, silent, List.append_nil, ← seed, ← seedLen]
  exact fresh level old was before (active ▸ current)

theorem SeedFresh.turn (fresh : SeedFresh record svc) (step : Step ω) {req : Region Byte} {reqLen : Nat}
    {session : UdsSession} {handled : Handled SecurityCall (SecurityAccessService ω × ω)}
    (turn : Turn svc req reqLen session handled) (output : step.output = handled.calls) :
    SeedFresh (record ++ [step]) handled.state.1 := by
  cases turn with
  | silent same calls =>
    rw [same]
    apply fresh.quiet step (output.trans calls) rfl
    intro level lvl found sent
    exact ⟨lvl, found, sent, rfl, rfl⟩
  | seed lvl cells len admitted odd locked state calls =>
    have sub : seedSub (req 1) = req 1 := if_pos odd
    intro level new found sent current
    have active : handled.state.1.activeLevel = req 1 := by rw [state]
    have here : seedSub (req 1) = level := sub.trans (active.symm.trans current)
    have stored : handled.state.1.lookup level = some (seeded lvl cells len) := by
      rw [state]
      show (svc.store (seeded lvl cells len)).lookup level = _
      rw [admitted.lookup_store (seeded lvl cells len) rfl level, if_pos here]
    rw [stored] at found
    cases found
    refine ⟨callsOf record, ?_⟩
    rw [callsOf_snoc, output, calls, here]
    rfl
  | key lvl valid admitted even sent active state calls =>
    intro level new found issued current
    have kept : handled.state.1.activeLevel = svc.activeLevel := by rw [state]; rfl
    have here : seedSub (req 1) = level := active.symm.trans (kept.symm.trans current)
    have stored := admitted.lookup_store _ (judged_cfg valid svc.currentTick lvl) level
    rw [if_pos here, ← state, found] at stored
    have used := judged_seedSent valid svc.currentTick lvl
    rw [← Option.some.inj stored, issued] at used
    cases used

theorem SeedFresh.next (fresh : SeedFresh record svc) (event : SecurityEvent ω) :
    SeedFresh (record ++ [(securityAccess ω).entry svc event]) ((securityAccess ω).next svc event) := by
  cases event with
  | register new =>
    apply fresh.quiet ((securityAccess ω).entry svc (.register new)) rfl
    · exact (svc.registerLevel_frame new).1
    · intro level lvl found sent
      have found : (svc.registerLevel new).2.lookup level = some lvl := found
      rcases svc.lookup_register new level with same | ⟨_, added⟩
      · rw [same] at found
        exact ⟨lvl, found, sent, rfl, rfl⟩
      · rw [added] at found
        cases found
        cases sent
  | request req reqLen resp respLen session world =>
    exact fresh.turn ((securityAccess ω).entry svc (.request req reqLen resp respLen session world))
      (svc.handle_turn req reqLen resp respLen session world) rfl
  | update tickMs =>
    have active : ((securityAccess ω).next svc (.update tickMs)).activeLevel = svc.activeLevel := rfl
    apply fresh.quiet ((securityAccess ω).entry svc (.update tickMs)) rfl active
    intro level lvl found sent
    have found : (svc.update tickMs).lookup level = some lvl := found
    rw [lookup_expire] at found
    obtain ⟨old, was, rfl⟩ := Option.map_eq_some_iff.mp found
    have frame := expire_frame tickMs old
    exact ⟨old, was, frame.2.2.1.symm.trans sent, frame.1.symm, frame.2.1.symm⟩

theorem isUnlocked_false (found : svc.lookup level = none) : svc.isUnlocked level = false := by
  rw [isUnlocked, found]

theorem next_unlocked (fresh : SeedFresh record svc) (event : SecurityEvent ω) (before : svc.isUnlocked level = false)
    (after : ((securityAccess ω).next svc event).isUnlocked level = true) :
    UnlockedByKey level record ((securityAccess ω).entry svc event) := by
  cases event with
  | register new =>
    have after : (svc.registerLevel new).2.isUnlocked level = true := after
    rcases svc.lookup_register new level with same | ⟨_, added⟩
    · have unchanged : (svc.registerLevel new).2.isUnlocked level = svc.isUnlocked level := by
        rw [isUnlocked, same]
        rfl
      rw [unchanged, before] at after
      cases after
    · rw [isUnlocked_of_lookup added] at after
      cases after
  | update tickMs =>
    have after : (svc.update tickMs).isUnlocked level = true := after
    have expired := svc.lookup_expire tickMs level
    cases found : svc.lookup level with
    | none =>
      rw [found] at expired
      rw [isUnlocked_false expired] at after
      cases after
    | some lvl =>
      rw [found] at expired
      rw [isUnlocked_of_lookup expired, (expire_frame tickMs lvl).2.2.2, ← isUnlocked_of_lookup found, before] at after
      cases after
  | request req reqLen resp respLen session world =>
    have after : (svc.handle req reqLen resp respLen session world).state.1.isUnlocked level = true := after
    have turn := svc.handle_turn req reqLen resp respLen session world
    by_cases asked : seedSub (req 1) = level
    · subst asked
      cases turn with
      | silent same calls =>
        rw [same, before] at after
        cases after
      | seed lvl cells len admitted odd locked state calls =>
        have stored := admitted.lookup_store (seeded lvl cells len) rfl (seedSub (req 1))
        rw [if_pos rfl] at stored
        have still : (svc.handle req reqLen resp respLen session world).state.1.lookup (seedSub (req 1)) =
            some (seeded lvl cells len) := by
          rw [state]
          exact stored
        rw [isUnlocked_of_lookup still] at after
        exact absurd (locked.symm.trans after) (by decide)
      | key lvl valid admitted even sent active state calls =>
        have found := admitted.found
        have stored := admitted.lookup_store _ (judged_cfg valid svc.currentTick lvl) (seedSub (req 1))
        rw [if_pos rfl, ← state] at stored
        rw [isUnlocked_of_lookup stored, judged_unlocked, ← isUnlocked_of_lookup found, before, Bool.or_false] at after
        subst after
        obtain ⟨earlier, issued⟩ := fresh _ lvl found sent active
        apply UnlockedByKey.intro req reqLen resp respLen session world lvl (lvl.seed.load 0 lvl.seedLen) earlier
        · rfl
        · exact admitted.length
        · rw [seedSub, if_neg (not_not_intro even)]
          exact (BitVec.sub_add_cancel (req 1) 1).symm
        · exact found
        · exact admitted.session
        · exact admitted.notLocked
        · exact calls
        · exact issued
    · rw [isUnlocked, turn.lookup_other asked, ← isUnlocked, before] at after
      cases after

theorem SeedFresh.create : SeedFresh [] (create : SecurityAccessService ω) := by
  intro level lvl found
  cases found

/-- A level is unlocked by a fresh, valid key for it and by nothing else, in every run. -/
theorem unlock_sound (events : List (SecurityEvent ω)) (level : Byte) (past later : List (Step ω)) (step : Step ω)
    (split : (securityAccess ω).trace create events = past ++ step :: later)
    (locked : step.before.isUnlocked level = false) (unlocked : step.after.isUnlocked level = true) :
    UnlockedByKey level past step := by
  obtain ⟨first, event, _, _, rfl, rfl, _⟩ := (securityAccess ω).trace_split split
  have fresh := (securityAccess ω).trace_invariant_all
    (fun past svc event (fresh : SeedFresh past svc) => fresh.next event) _ first SeedFresh.create
  exact next_unlocked fresh event locked unlocked

theorem unlock_sound_mirror :
    UnlockedByKey 0x01
      ((securityAccess Unit).trace create [.register SecuritySession.mirrorLevel, extendedRequest [0x27, 0x01]])
      ((securityAccess Unit).entry
        ((securityAccess Unit).run create [.register SecuritySession.mirrorLevel, extendedRequest [0x27, 0x01]])
        (extendedRequest [0x27, 0x02, 0x11, 0x22, 0x33, 0x44])) :=
  unlock_sound [.register SecuritySession.mirrorLevel, extendedRequest [0x27, 0x01],
    extendedRequest [0x27, 0x02, 0x11, 0x22, 0x33, 0x44]] 0x01 _ [] _ rfl (by decide) (by decide)

end Uds.SecurityAccessService
