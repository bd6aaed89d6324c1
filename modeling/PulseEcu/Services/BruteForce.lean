import Mathlib.Algebra.Group.Nat.Defs
import PulseEcu.Services.SecurityRun

open Foundation

namespace Uds.SecurityAccessService

variable {ω : Type} {svc : SecurityAccessService ω} {record : List (Step ω)} {level : Byte} {lvl : LevelState ω}

def fails (level : Byte) : SecurityCall → Bool
  | .generateSeed _ _ => false
  | .verifyKey other _ _ valid => other = level ∧ valid = false

def succeeds (level : Byte) : SecurityCall → Bool
  | .generateSeed _ _ => false
  | .verifyKey other _ _ valid => other = level ∧ valid = true

def expires (level : Byte) (step : Step ω) : Bool :=
  match step.event, step.before.lookup level with
  | .update tickMs, some lvl => lvl.lockedUntil > 0 ∧ tickMs ≥ lvl.lockedUntil
  | _, _ => false

def resets (level : Byte) (step : Step ω) : Bool := step.output.any (succeeds level) || expires level step

def failuresSince (level : Byte) (record : List (Step ω)) : Nat :=
  record.foldl (fun failures step => if resets level step then 0 else failures + step.output.countP (fails level)) 0

def LateUpdate (due : Nat) (step : Step ω) : Prop := ∃ tickMs, step.event = .update tickMs ∧ due ≤ tickMs.toNat

/-- The bound on attempts: at most `kMaxAttempts` failures before a reset, and after the failure
    that reaches it nothing is asked of the level until the delay is over. -/
structure AttemptsBounded (record : List (Step ω)) : Prop where
  bounded : ∀ level, failuresSince level record ≤ kMaxAttempts
  delayed : ∀ level past step waiting later, record = past ++ step :: (waiting ++ later) →
    step.output.any (fails level) = true → failuresSince level (past ++ [step]) = kMaxAttempts →
    (∀ other ∈ waiting, ¬ LateUpdate (step.before.currentTick.toNat + kDelayAfterFail.toNat) other) →
    ∀ other ∈ waiting, ∀ call ∈ other.output, call.level ≠ level

def NoWrap (tick : Word) : Prop := tick.toNat + kDelayAfterFail.toNat < 2 ^ 32

def SetsDeadline (step : Step ω) : Prop :=
  ∃ level lvl, step.before.lookup level = some lvl ∧ step.output.any (fails level) = true ∧
    lvl.failCount.toNat + 1 = kMaxAttempts

structure Counts (tick : Word) (failures : Nat) (lvl : LevelState ω) : Prop where
  counted : lvl.failCount.toNat = failures
  below : lvl.lockedUntil = 0 → failures < kMaxAttempts
  locked : lvl.lockedUntil ≠ 0 → failures = kMaxAttempts ∧ tick < lvl.lockedUntil

structure Counted (record : List (Step ω)) (svc : SecurityAccessService ω) : Prop where
  known : ∀ level lvl, svc.lookup level = some lvl → Counts svc.currentTick (failuresSince level record) lvl
  unknown : ∀ level, svc.lookup level = none → failuresSince level record = 0

theorem failuresSince_snoc (level : Byte) (record : List (Step ω)) (step : Step ω) :
    failuresSince level (record ++ [step]) =
      if resets level step then 0 else failuresSince level record + step.output.countP (fails level) := by
  simp [failuresSince]

theorem deadline_toNat (tick : Word) (noWrap : NoWrap tick) :
    (tick + kDelayAfterFail).toNat = tick.toNat + kDelayAfterFail.toNat := by
  rw [BitVec.toNat_add, Nat.mod_eq_of_lt noWrap]

theorem deadline_later (tick : Word) (noWrap : NoWrap tick) :
    tick + kDelayAfterFail ≠ 0 ∧ tick < tick + kDelayAfterFail := by
  have counted := deadline_toNat tick noWrap
  have delay : kDelayAfterFail.toNat = 10000 := rfl
  have later : tick < tick + kDelayAfterFail := by
    rw [BitVec.lt_def, counted]
    omega
  constructor
  · intro zero
    rw [zero] at later
    exact absurd (BitVec.lt_def.mp later) (Nat.not_lt_zero _)
  · exact later

theorem Counts.fresh (tick : Word) (new : SecurityLevel ω) :
    Counts tick 0 (⟨new, Region.fill 0, 0, false, false, 0, 0⟩ : LevelState ω) where
  counted := rfl
  below _ := by decide
  locked armed := absurd rfl armed

theorem Counts.admitted {failures : Nat} {tick : Word} (counts : Counts tick failures lvl)
    (notLocked : ¬ (lvl.lockedUntil ≠ 0 ∧ tick < lvl.lockedUntil)) :
    lvl.lockedUntil = 0 ∧ failures < kMaxAttempts := by
  by_cases off : lvl.lockedUntil = 0
  · exact ⟨off, counts.below off⟩
  · exact absurd ⟨off, (counts.locked off).2⟩ notLocked

theorem Counts.failed {failures : Nat} {tick : Word} (counts : Counts tick failures lvl) (off : lvl.lockedUntil = 0)
    (few : failures < kMaxAttempts) (noWrap : failures + 1 = kMaxAttempts → NoWrap tick) :
    Counts tick (failures + 1) (failed tick lvl) := by
  have attempts : kMaxAttempts = 3 := rfl
  have one : (1 : Byte).toNat = 1 := rfl
  have count := counts.counted
  have next : (lvl.failCount + 1).toNat = failures + 1 := by
    rw [BitVec.toNat_add, one, count]
    omega
  constructor
  · exact next
  · intro below
    simp only [SecurityAccessService.failed] at below
    split at below
    · rename_i many
      exact absurd below (deadline_later tick (noWrap (by omega))).1
    · omega
  · intro locked
    simp only [SecurityAccessService.failed] at locked ⊢
    split
    · rename_i many
      have last : failures + 1 = kMaxAttempts := by omega
      exact ⟨last, (deadline_later tick (noWrap last)).2⟩
    · rename_i more
      rw [if_neg more] at locked
      exact absurd off locked

theorem Counts.opened {tick : Word} (off : lvl.lockedUntil = 0) : Counts tick 0 (opened lvl) where
  counted := rfl
  below _ := by decide
  locked armed := absurd off armed

theorem Counts.expire {failures : Nat} {tick now : Word} (counts : Counts tick failures lvl) :
    Counts now (if lvl.lockedUntil > 0 ∧ now ≥ lvl.lockedUntil then 0 else failures) (expire now lvl) := by
  unfold SecurityAccessService.expire
  split
  · exact ⟨rfl, fun _ => by decide, fun armed => absurd rfl armed⟩
  · rename_i early
    constructor
    · exact counts.counted
    · exact counts.below
    · intro armed
      have positive : lvl.lockedUntil > 0 := by
        apply BitVec.lt_def.mpr
        exact Nat.pos_of_ne_zero fun zero => armed (BitVec.eq_of_toNat_eq zero)
      exact ⟨(counts.locked armed).1, BitVec.not_le.mp fun late => early ⟨positive, late⟩⟩

theorem Counts.seeded {failures : Nat} {tick : Word} (counts : Counts tick failures lvl) (cells : Region Byte)
    (len : Nat) : Counts tick failures (seeded lvl cells len) := ⟨counts.counted, counts.below, counts.locked⟩

theorem failuresSince_quiet (step : Step ω) (silent : ∀ call ∈ step.output, call.level ≠ level)
    (early : expires level step = false) : failuresSince level (record ++ [step]) = failuresSince level record := by
  have none : step.output.countP (fails level) = 0 := by
    rw [List.countP_eq_zero]
    intro call member
    have other := silent call member
    cases call with
    | generateSeed _ _ => simp [fails]
    | verifyKey other' _ _ _ =>
      have other : other' ≠ level := other
      simp [fails, other]
  have no : step.output.any (succeeds level) = false := by
    rw [List.any_eq_false]
    intro call member
    have other := silent call member
    cases call with
    | generateSeed _ _ => simp [succeeds]
    | verifyKey other' _ _ _ =>
      have other : other' ≠ level := other
      simp [succeeds, other]
  rw [failuresSince_snoc, resets, no, early, none]
  rfl

theorem expires_request {step : Step ω} (other : ∀ tickMs, step.event ≠ .update tickMs) : expires level step = false := by
  unfold expires
  split
  · rename_i tickMs _ event _
    exact absurd event (other tickMs)
  · rfl

theorem Counted.quiet {next : SecurityAccessService ω} (counted : Counted record svc) (step : Step ω)
    (silent : step.output = []) (other : ∀ tickMs, step.event ≠ .update tickMs)
    (tick : next.currentTick = svc.currentTick)
    (known : ∀ level, next.lookup level = svc.lookup level ∨ (svc.lookup level = none ∧
      ∃ new, next.lookup level = some ⟨new, Region.fill 0, 0, false, false, 0, 0⟩)) :
    Counted (record ++ [step]) next := by
  have same : ∀ level, failuresSince level (record ++ [step]) = failuresSince level record := by
    intro level
    apply failuresSince_quiet step
    · rw [silent]
      simp
    · exact expires_request other
  constructor
  · intro level lvl found
    rw [same, tick]
    rcases known level with kept | ⟨absent, new, added⟩
    · exact counted.known level lvl (kept ▸ found)
    · rw [added] at found
      cases found
      rw [counted.unknown level absent]
      exact Counts.fresh svc.currentTick new
  · intro level absent
    rw [same]
    rcases known level with kept | ⟨before, _⟩
    · exact counted.unknown level (kept ▸ absent)
    · exact counted.unknown level before

theorem Counted.stored {next : SecurityAccessService ω} (counted : Counted record svc) (step : Step ω)
    (other : ∀ tickMs, step.event ≠ .update tickMs) (tick : next.currentTick = svc.currentTick) (asked : Byte)
    (new : LevelState ω) (lookup : ∀ level, next.lookup level = if asked = level then some new else svc.lookup level)
    (calls : ∀ call ∈ step.output, call.level = asked)
    (counts : Counts svc.currentTick (failuresSince asked (record ++ [step])) new) : Counted (record ++ [step]) next := by
  have same : ∀ level, asked ≠ level → failuresSince level (record ++ [step]) = failuresSince level record := by
    intro level different
    apply failuresSince_quiet step
    · intro call member level
      exact different ((calls call member).symm.trans level)
    · exact expires_request other
  constructor
  · intro level lvl found
    rw [lookup] at found
    rw [tick]
    by_cases here : asked = level
    · rw [if_pos here] at found
      cases found
      rw [← here]
      exact counts
    · rw [if_neg here] at found
      rw [same level here]
      exact counted.known level lvl found
  · intro level absent
    rw [lookup] at absent
    by_cases here : asked = level
    · rw [if_pos here] at absent
      cases absent
    · rw [if_neg here] at absent
      rw [same level here]
      exact counted.unknown level absent

theorem Counted.turn (counted : Counted record svc) (step : Step ω) {req : Region Byte} {reqLen : Nat}
    {session : UdsSession} {handled : Handled SecurityCall (SecurityAccessService ω × ω)}
    (turn : Turn svc req reqLen session handled) (output : step.output = handled.calls)
    (other : ∀ tickMs, step.event ≠ .update tickMs) (before : step.before = svc)
    (noWrap : SetsDeadline step → NoWrap svc.currentTick) : Counted (record ++ [step]) handled.state.1 := by
  have early : ∀ level, expires level step = false := fun level => expires_request other
  have asked : ∀ call ∈ step.output, call.level = seedSub (req 1) := by
    rw [output]
    exact turn.calls_level
  cases turn with
  | silent same calls =>
    rw [same]
    exact counted.quiet step (output.trans calls) other rfl fun level => Or.inl rfl
  | seed lvl cells len admitted odd locked state calls =>
    have counts := counted.known _ lvl admitted.found
    have output := output.trans calls
    apply counted.stored step other (by rw [state]; rfl) (seedSub (req 1)) (seeded lvl cells len)
    · intro level
      rw [state]
      exact admitted.lookup_store (seeded lvl cells len) rfl level
    · exact asked
    · rw [failuresSince_snoc, resets, early, output]
      exact counts.seeded cells len
  | key lvl valid admitted even sent active state calls =>
    have counts := counted.known _ lvl admitted.found
    have output := output.trans calls
    obtain ⟨off, few⟩ := counts.admitted admitted.notLocked
    apply counted.stored step other (by rw [state]; rfl) (seedSub (req 1))
    · intro level
      rw [state]
      exact admitted.lookup_store _ (judged_cfg valid svc.currentTick lvl) level
    · exact asked
    · rw [failuresSince_snoc, resets, early, output]
      cases valid with
      | false =>
        have counted := counts.failed off few fun last => noWrap ⟨seedSub (req 1), lvl, by rw [before, admitted.found],
          by simp [output, fails], by rw [counts.counted, last]⟩
        simpa [succeeds, fails] using counted
      | true =>
        have counted : Counts svc.currentTick 0 (opened lvl) := Counts.opened off
        simpa [succeeds] using counted

theorem Counted.update (counted : Counted record svc) (tickMs : Word) :
    Counted (record ++ [(securityAccess ω).entry svc (.update tickMs)]) (svc.update tickMs) := by
  have since : ∀ level, failuresSince level (record ++ [(securityAccess ω).entry svc (.update tickMs)]) =
      if expires level ((securityAccess ω).entry svc (.update tickMs)) then 0 else failuresSince level record := by
    intro level
    have output : ((securityAccess ω).entry svc (.update tickMs)).output = [] := rfl
    rw [failuresSince_snoc, resets, output]
    simp
  constructor
  · intro level lvl found
    rw [lookup_expire] at found
    obtain ⟨old, was, rfl⟩ := Option.map_eq_some_iff.mp found
    have counts : Counts tickMs _ (expire tickMs old) := (counted.known level old was).expire
    have tick : (svc.update tickMs).currentTick = tickMs := rfl
    have due : expires level ((securityAccess ω).entry svc (.update tickMs)) =
        decide (old.lockedUntil > 0 ∧ tickMs ≥ old.lockedUntil) := by
      simp [expires, Machine.entry, was]
    rw [since, due, tick]
    simpa using counts
  · intro level absent
    rw [lookup_expire, Option.map_eq_none_iff] at absent
    rw [since, counted.unknown level absent]
    simp

theorem Counted.next (counted : Counted record svc) (event : SecurityEvent ω)
    (noWrap : SetsDeadline ((securityAccess ω).entry svc event) → NoWrap svc.currentTick) :
    Counted (record ++ [(securityAccess ω).entry svc event]) ((securityAccess ω).next svc event) := by
  cases event with
  | register new =>
    have tick : ((securityAccess ω).next svc (.register new)).currentTick = svc.currentTick :=
      (svc.registerLevel_frame new).2
    apply counted.quiet ((securityAccess ω).entry svc (.register new)) rfl (fun _ update => nomatch update) tick
    intro level
    rcases svc.lookup_register new level with same | ⟨absent, added⟩
    · exact Or.inl same
    · exact Or.inr ⟨absent, new, added⟩
  | request req reqLen resp respLen session world =>
    exact counted.turn ((securityAccess ω).entry svc (.request req reqLen resp respLen session world))
      (svc.handle_turn req reqLen resp respLen session world) rfl (fun _ update => nomatch update) rfl noWrap
  | update tickMs => exact counted.update tickMs

def Delayed (level : Byte) (deadline : Word) (svc : SecurityAccessService ω) : Prop :=
  ∃ lvl, svc.lookup level = some lvl ∧ lvl.lockedUntil = deadline ∧ svc.currentTick < deadline

variable {deadline : Word}

theorem Delayed.not_admitted (delayed : Delayed level deadline svc) {req : Region Byte} {reqLen : Nat}
    {session : UdsSession} (admitted : Admitted svc req reqLen session lvl) : seedSub (req 1) ≠ level := by
  intro same
  obtain ⟨old, found, held, early⟩ := delayed
  have here := admitted.found
  rw [same, found] at here
  cases here
  apply admitted.notLocked
  rw [LockedOut, held]
  constructor
  · intro zero
    rw [zero] at early
    exact absurd (BitVec.lt_def.mp early) (Nat.not_lt_zero _)
  · exact early

theorem Delayed.of_lookup {next : SecurityAccessService ω} (delayed : Delayed level deadline svc)
    (same : next.lookup level = svc.lookup level) (tick : next.currentTick = svc.currentTick) :
    Delayed level deadline next := by
  obtain ⟨lvl, found, held, early⟩ := delayed
  exact ⟨lvl, same.trans found, held, tick ▸ early⟩

theorem Delayed.next (delayed : Delayed level deadline svc) (event : SecurityEvent ω)
    (early : ¬ LateUpdate deadline.toNat ((securityAccess ω).entry svc event)) :
    Delayed level deadline ((securityAccess ω).next svc event) ∧
      ∀ call ∈ ((securityAccess ω).entry svc event).output, call.level ≠ level := by
  cases event with
  | register new =>
    have same : (svc.registerLevel new).2.lookup level = svc.lookup level := by
      rcases svc.lookup_register new level with same | ⟨absent, _⟩
      · exact same
      · obtain ⟨lvl, found, _⟩ := delayed
        cases absent.symm.trans found
    constructor
    · exact delayed.of_lookup same (svc.registerLevel_frame new).2
    · intro call member
      cases member
  | update tickMs =>
    obtain ⟨lvl, found, held, _⟩ := delayed
    have before : tickMs < deadline := by
      apply BitVec.not_le.mp
      intro late
      exact early ⟨tickMs, rfl, BitVec.le_def.mp late⟩
    constructor
    · refine ⟨expire tickMs lvl, ?_, ?_, before⟩
      · show (svc.update tickMs).lookup level = _
        rw [lookup_expire, found]
        rfl
      · rw [expire, if_neg]
        · exact held
        · intro passed
          have late := passed.2
          rw [held] at late
          exact absurd before (BitVec.not_lt.mpr late)
    · intro call member
      cases member
  | request req reqLen resp respLen session world =>
    have turn := svc.handle_turn req reqLen resp respLen session world
    show Delayed level deadline (svc.handle req reqLen resp respLen session world).state.1 ∧
      ∀ call ∈ (svc.handle req reqLen resp respLen session world).calls, _
    by_cases asked : seedSub (req 1) = level
    · have quiet := turn.quiet fun lvl admitted => delayed.not_admitted admitted asked
      rw [quiet.1, quiet.2]
      exact ⟨delayed, fun call none => nomatch none⟩
    · constructor
      · exact delayed.of_lookup (turn.lookup_other asked) (svc.handle_currentTick req reqLen resp respLen session world)
      · intro call member
        rw [turn.calls_level call member]
        exact asked

theorem Delayed.waiting (events : List (SecurityEvent ω)) (svc : SecurityAccessService ω)
    (delayed : Delayed level deadline svc)
    (early : ∀ other ∈ (securityAccess ω).trace svc events, ¬ LateUpdate deadline.toNat other) :
    ∀ other ∈ (securityAccess ω).trace svc events, ∀ call ∈ other.output, call.level ≠ level := by
  induction events generalizing svc with
  | nil =>
    intro other member
    cases member
  | cons event events ih =>
    simp only [Machine.trace, List.mem_cons, forall_eq_or_imp] at early ⊢
    have step := delayed.next event early.1
    exact ⟨step.2, ih _ step.1 early.2⟩

theorem Counted.exhausted (counted : Counted record svc) (event : SecurityEvent ω)
    (failure : ((securityAccess ω).entry svc event).output.any (fails level) = true)
    (reached : failuresSince level (record ++ [(securityAccess ω).entry svc event]) = kMaxAttempts)
    (noWrap : SetsDeadline ((securityAccess ω).entry svc event) → NoWrap svc.currentTick) :
    NoWrap svc.currentTick ∧ Delayed level (svc.currentTick + kDelayAfterFail) ((securityAccess ω).next svc event) := by
  cases event with
  | register new => cases failure
  | update tickMs => cases failure
  | request req reqLen resp respLen session world =>
    have output : ((securityAccess ω).entry svc (.request req reqLen resp respLen session world)).output =
      (svc.handle req reqLen resp respLen session world).calls := rfl
    have early : expires level ((securityAccess ω).entry svc (.request req reqLen resp respLen session world)) = false :=
      rfl
    show NoWrap svc.currentTick ∧ Delayed level _ (svc.handle req reqLen resp respLen session world).state.1
    have failing := failure
    rw [failuresSince_snoc, resets, early, output] at reached
    rw [output] at failure
    cases svc.handle_turn req reqLen resp respLen session world with
    | silent same calls =>
      rw [calls] at failure
      cases failure
    | seed lvl cells len admitted odd locked state calls =>
      rw [calls] at failure
      cases failure
    | key lvl valid admitted even sent active state calls =>
      rw [calls] at failure reached
      simp only [fails, List.any_cons, List.any_nil, Bool.or_false, decide_eq_true_eq] at failure
      obtain ⟨rfl, rfl⟩ := failure
      have counts := counted.known _ lvl admitted.found
      have last : lvl.failCount.toNat + 1 = kMaxAttempts := by
        simp [succeeds, fails] at reached
        rw [counts.counted]
        exact reached
      have next : (lvl.failCount + 1).toNat = kMaxAttempts := by
        have attempts : kMaxAttempts = 3 := rfl
        have one : (1 : Byte).toNat = 1 := rfl
        rw [BitVec.toNat_add, one, last]
        rfl
      have noWrap := noWrap ⟨_, lvl, admitted.found, failing, last⟩
      refine ⟨noWrap, failed svc.currentTick lvl, ?_, ?_, ?_⟩
      · rw [state]
        have stored := admitted.lookup_store (failed svc.currentTick lvl) rfl (seedSub (req 1))
        rw [if_pos rfl] at stored
        exact stored
      · simp only [failed, next, ge_iff_le, Nat.le_refl, if_true]
      · rw [state]
        exact (deadline_later svc.currentTick noWrap).2

theorem Counted.create : Counted [] (create : SecurityAccessService ω) where
  known _ _ found := nomatch found
  unknown _ _ := rfl

theorem Counted.bounded (counted : Counted record svc) (level : Byte) : failuresSince level record ≤ kMaxAttempts := by
  cases found : svc.lookup level with
  | none =>
    rw [counted.unknown level found]
    exact Nat.zero_le _
  | some lvl =>
    have counts := counted.known level lvl found
    by_cases off : lvl.lockedUntil = 0
    · exact Nat.le_of_lt (counts.below off)
    · exact Nat.le_of_eq (counts.locked off).1

/-- Guessing keys is bounded in every run in which no deadline wraps around. -/
theorem brute_force_bounded (events : List (SecurityEvent ω))
    (noWrap : ∀ step ∈ (securityAccess ω).trace create events, SetsDeadline step → NoWrap step.before.currentTick) :
    AttemptsBounded ((securityAccess ω).trace create events) := by
  have counts : ∀ begun, (∀ step ∈ (securityAccess ω).trace create begun, SetsDeadline step →
      NoWrap step.before.currentTick) →
      Counted ((securityAccess ω).trace create begun) ((securityAccess ω).run create begun) := by
    intro begun wrapFree
    apply (securityAccess ω).trace_invariant
      (fun past svc event (counted : Counted past svc) allowed => counted.next event allowed) _ begun Counted.create
    intro step member
    obtain ⟨before, event, rfl⟩ := (securityAccess ω).entry_of_mem_trace member
    exact wrapFree _ member
  constructor
  · exact (counts events noWrap).bounded
  · intro level past step waiting later split failure reached early
    have allowed := noWrap step (split ▸ List.mem_append_right _ List.mem_cons_self)
    have earlier : ∀ other ∈ past, SetsDeadline other → NoWrap other.before.currentTick :=
      fun other member => noWrap other (split ▸ List.mem_append_left _ member)
    obtain ⟨first, event, rest, joined, rfl, rfl, others⟩ := (securityAccess ω).trace_split split
    obtain ⟨begun, _, _, rfl, _⟩ := (securityAccess ω).trace_cut others.symm
    obtain ⟨here, delayed⟩ := (counts first earlier).exhausted event failure reached allowed
    apply Delayed.waiting begun _ delayed
    intro other member
    rw [deadline_toNat _ here]
    exact early other member

def guessing : List (SecurityEvent Unit) :=
  .register SecuritySession.mirrorLevel ::
    ((List.replicate 3 [extendedRequest [0x27, 0x01], extendedRequest [0x27, 0x02, 0x00]]).flatten ++
      [.update 9999, extendedRequest [0x27, 0x01]])

theorem brute_force_bounded_guessing : AttemptsBounded ((securityAccess Unit).trace create guessing) :=
  brute_force_bounded guessing (by
    intro step member _
    have early : ∀ step ∈ (securityAccess Unit).trace create guessing,
        step.before.currentTick.toNat + kDelayAfterFail.toNat < 2 ^ 32 := by decide
    exact early step member)

end Uds.SecurityAccessService
