import PulseEcu.Foundation.Run
import PulseEcu.Services.SecurityAccess
import PulseEcu.Services.SessionServices

open Foundation

namespace Uds

/-- The two objects that security depends on, with the service that changes sessions; `ω` is the
    application behind the callbacks. -/
structure SecuritySession (ω : Type) where
  sec : SecurityAccessService ω
  session : UdsSession
  control : DiagnosticSessionControlService ω
  onTimeout : Option (ω → ω)
  world : ω

namespace SecuritySession

variable {ω : Type}

inductive Event where
  | request (req : Region Byte) (reqLen : Nat) (resp : Region Byte) (respLen : Nat)
  | control (req : Region Byte) (reqLen : Nat) (resp : Region Byte) (respLen : Nat)
  | update (tickMs : Word)
  | sessionUpdate (tickMs : Word)
  | keepAlive (tickMs : Word)
  | reset

def machine (ω : Type) : Machine (SecuritySession ω) Event (List SecurityCall) where
  step s
    | .request req reqLen resp respLen =>
      let handled := s.sec.handle req reqLen resp respLen s.session s.world
      ({ s with sec := handled.state.1, world := handled.state.2 }, handled.calls)
    | .control req reqLen resp respLen =>
      let handled := s.control.handle req reqLen resp respLen s.session s.world
      ({ s with session := handled.2, world := handled.1.state }, [])
    | .update tickMs => ({ s with sec := s.sec.update tickMs }, [])
    | .sessionUpdate tickMs =>
      let updated := s.session.update tickMs
      ({ s with session := updated.1, world := if updated.2 then (s.onTimeout.getD id) s.world else s.world }, [])
    | .keepAlive tickMs => ({ s with session := s.session.keepAlive tickMs }, [])
    | .reset => ({ s with session := s.session.reset }, [])

abbrev Entry (ω : Type) := Machine.Entry (SecuritySession ω) Event (List SecurityCall)

def Returned (entry : Entry ω) : Prop :=
  entry.before.session.session ≠ .default ∧ entry.after.session.session = .default

def Issues (level : Byte) (seed : List Byte) (entry : Entry ω) : Prop :=
  .generateSeed level seed ∈ entry.output

def Unlocks (level : Byte) (seed : List Byte) (entry : Entry ω) : Prop :=
  ∃ key, .verifyKey level seed key true ∈ entry.output

def SinceReturn (step : Entry ω → Prop) (past : List (Entry ω)) : Prop :=
  ∃ earlier entry later, past = earlier ++ entry :: later ∧ step entry ∧ ∀ other ∈ later, ¬ Returned other

/-- An unlocked level was unlocked, and the seed of an accepted key was issued, since the last
    return to Default. -/
structure Tied (past : List (Entry ω)) (s : SecuritySession ω) : Prop where
  unlocked : ∀ level, s.sec.isUnlocked level = true →
    SinceReturn (fun entry => ∃ seed, Unlocks level seed entry) past
  accepted : ∀ earlier entry later level seed, past = earlier ++ entry :: later → Unlocks level seed entry →
    SinceReturn (Issues level seed) earlier

def SeedUsable (sec : SecurityAccessService ω) (level : Byte) : Prop :=
  ∃ lvl, sec.lookup level = some lvl ∧ lvl.seedSent = true ∧ sec.activeLevel = level

/-- If the step returns the session to Default, no level is unlocked and no seed usable. -/
def Forgotten (s : SecuritySession ω) (event : Event) : Prop :=
  s.session.session ≠ .default → ((machine ω).next s event).session.session = .default →
    ∀ level, s.sec.isUnlocked level = false ∧ ¬ SeedUsable s.sec level

structure Bound (past : List (Entry ω)) (s : SecuritySession ω) : Prop extends Tied past s where
  usable : ∀ level lvl, s.sec.lookup level = some lvl → lvl.seedSent = true → s.sec.activeLevel = level →
    SinceReturn (Issues level (lvl.seed.load 0 lvl.seedLen)) past

variable {past : List (Entry ω)} {s : SecuritySession ω}

theorem SinceReturn.snoc {step : Entry ω → Prop} (since : SinceReturn step past) {entry : Entry ω}
    (stays : ¬ Returned entry) : SinceReturn step (past ++ [entry]) := by
  obtain ⟨earlier, source, later, rfl, holds, quiet⟩ := since
  exact ⟨earlier, source, later ++ [entry], by simp, holds, Machine.forall_mem_snoc quiet stays⟩

theorem SinceReturn.last {step : Entry ω → Prop} (past : List (Entry ω)) {entry : Entry ω} (holds : step entry) :
    SinceReturn step (past ++ [entry]) :=
  ⟨past, entry, [], rfl, holds, by simp⟩

theorem Tied.accepted_snoc (tied : Tied past s) {entry : Entry ω}
    (last : ∀ level seed, Unlocks level seed entry → SinceReturn (Issues level seed) past)
    (earlier : List (Entry ω)) (source : Entry ω) (later : List (Entry ω)) (level : Byte) (seed : List Byte)
    (split : past ++ [entry] = earlier ++ source :: later) (unlocks : Unlocks level seed source) :
    SinceReturn (Issues level seed) earlier := by
  rcases Machine.split_snoc split with ⟨rfl, rfl, _⟩ | ⟨rest, _, split⟩
  · exact last level seed unlocks
  · exact tied.accepted earlier source rest level seed split unlocks

theorem Bound.quiet (bound : Bound past s) (entry : Entry ω) (silent : entry.output = [])
    (active : entry.after.sec.activeLevel = s.sec.activeLevel)
    (found : ∀ level lvl, entry.after.sec.lookup level = some lvl → ∃ old, s.sec.lookup level = some old ∧
      lvl.seed = old.seed ∧ lvl.seedLen = old.seedLen ∧ lvl.seedSent = old.seedSent ∧ lvl.unlocked = old.unlocked)
    (forgotten : Returned entry → ∀ level, s.sec.isUnlocked level = false ∧ ¬ SeedUsable s.sec level) :
    Bound (past ++ [entry]) entry.after := by
  refine ⟨⟨fun level unlocked => ?_, bound.accepted_snoc fun level seed unlocks => ?_⟩,
    fun level lvl here sent current => ?_⟩
  · cases here : entry.after.sec.lookup level with
    | none =>
      rw [SecurityAccessService.isUnlocked, here] at unlocked
      cases unlocked
    | some lvl =>
      obtain ⟨old, was, _, _, _, same⟩ := found level lvl here
      rw [SecurityAccessService.isUnlocked_of_lookup here, same,
        ← SecurityAccessService.isUnlocked_of_lookup was] at unlocked
      exact (bound.unlocked level unlocked).snoc fun returned =>
        absurd ((forgotten returned level).1.symm.trans unlocked) (by decide)
  · obtain ⟨key, member⟩ := unlocks
    rw [silent] at member
    cases member
  · obtain ⟨old, was, seed, seedLen, issued, _⟩ := found level lvl here
    rw [active] at current
    rw [issued] at sent
    rw [seed, seedLen]
    exact (bound.usable level old was sent current).snoc fun returned =>
      (forgotten returned level).2 ⟨old, was, sent, current⟩

theorem Bound.session (bound : Bound past s) (entry : Entry ω) (silent : entry.output = [])
    (same : entry.after.sec = s.sec)
    (forgotten : Returned entry → ∀ level, s.sec.isUnlocked level = false ∧ ¬ SeedUsable s.sec level) :
    Bound (past ++ [entry]) entry.after := by
  refine bound.quiet entry silent (congrArg _ same) (fun level lvl here => ?_) forgotten
  rw [same] at here
  exact ⟨lvl, here, rfl, rfl, rfl, rfl⟩

theorem Bound.unlocked_snoc (bound : Bound past s) {entry : Entry ω} (stays : ¬ Returned entry) (new : LevelState ω)
    (lookup : ∀ level, entry.after.sec.lookup level =
      if new.cfg.level = level then some new else s.sec.lookup level)
    (opened : new.unlocked = true →
      SinceReturn (fun other => ∃ seed, Unlocks new.cfg.level seed other) (past ++ [entry]))
    (level : Byte) (unlocked : entry.after.sec.isUnlocked level = true) :
    SinceReturn (fun other => ∃ seed, Unlocks level seed other) (past ++ [entry]) := by
  by_cases same : new.cfg.level = level
  · have here := lookup level
    rw [if_pos same] at here
    rw [SecurityAccessService.isUnlocked_of_lookup here] at unlocked
    rw [← same]
    exact opened unlocked
  · have before : entry.after.sec.isUnlocked level = s.sec.isUnlocked level := by
      rw [SecurityAccessService.isUnlocked, lookup, if_neg same]
      rfl
    rw [before] at unlocked
    exact (bound.unlocked level unlocked).snoc stays

theorem Bound.request (bound : Bound past s) (entry : Entry ω) (req : Region Byte) (reqLen : Nat)
    (session : UdsSession) {handled : Handled SecurityCall (SecurityAccessService ω × ω)}
    (access : SecurityAccessService.Access s.sec req reqLen session handled)
    (state : entry.after.sec = handled.state.1) (output : entry.output = handled.calls)
    (stays : ¬ Returned entry) : Bound (past ++ [entry]) entry.after := by
  cases access with
  | ignored same silent =>
    exact bound.session entry (output.trans silent) (state.trans same) fun returned => absurd returned stays
  | issued lvl issued found allowed locked cfg kept sec calls =>
    have level := SecurityAccessService.lookup_level found
    have stored : issued.cfg.level = req 1 := by rw [cfg, level]
    have lookup : ∀ level, entry.after.sec.lookup level =
        if issued.cfg.level = level then some issued else s.sec.lookup level := by
      intro level
      rw [state, sec]
      exact SecurityAccessService.lookup_store issued (by rw [stored]; exact found) level
    have output := output.trans calls
    refine ⟨⟨bound.unlocked_snoc stays issued lookup fun unlocked => ?_,
      bound.accepted_snoc fun other seed unlocks => ?_⟩, fun other now here sent current => ?_⟩
    · exact absurd ((kept.trans locked).symm.trans unlocked) (by decide)
    · obtain ⟨key, member⟩ := unlocks
      rw [output] at member
      cases List.mem_singleton.mp member
    · have active : entry.after.sec.activeLevel = req 1 := by rw [state, sec]
      rw [active] at current
      rw [lookup, if_pos (stored.trans current)] at here
      cases here
      apply SinceReturn.last past
      rw [Issues, output, current]
      exact List.mem_singleton_self _
  | checked level lvl after valid found allowed sent active cfg used unlocks sec calls =>
    have stored : after.cfg.level = level := by rw [cfg, SecurityAccessService.lookup_level found]
    have lookup : ∀ other, entry.after.sec.lookup other =
        if after.cfg.level = other then some after else s.sec.lookup other := by
      intro other
      rw [state, sec]
      exact SecurityAccessService.lookup_store after (by rw [stored]; exact found) other
    have output := output.trans calls
    refine ⟨⟨bound.unlocked_snoc stays after lookup fun unlocked => ?_,
      bound.accepted_snoc fun other seed opened => ?_⟩, fun other now here issued current => ?_⟩
    · rw [unlocks, Bool.or_eq_true] at unlocked
      rw [stored]
      rcases unlocked with before | accepted
      · rw [← SecurityAccessService.isUnlocked_of_lookup found] at before
        exact (bound.unlocked level before).snoc stays
      · apply SinceReturn.last past
        refine ⟨lvl.seed.load 0 lvl.seedLen, req.load 2 (reqLen - 2), ?_⟩
        rw [output, accepted]
        exact List.mem_singleton_self _
    · obtain ⟨key, member⟩ := opened
      rw [output] at member
      cases List.mem_singleton.mp member
      exact bound.usable level lvl found sent active
    · have still : entry.after.sec.activeLevel = s.sec.activeLevel := by rw [state, sec]; rfl
      -- the key was checked, so the seed of the level is used up
      rw [still, active] at current
      rw [lookup, if_pos (stored.trans current)] at here
      cases here
      exact absurd (used.symm.trans issued) (by decide)

theorem Bound.next (bound : Bound past s) (event : Event) (forgotten : Forgotten s event) :
    Bound (past ++ [(machine ω).entry s event]) ((machine ω).next s event) := by
  have forgets : Returned ((machine ω).entry s event) →
      ∀ level, s.sec.isUnlocked level = false ∧ ¬ SeedUsable s.sec level :=
    fun returned => forgotten returned.1 returned.2
  cases event with
  | request req reqLen resp respLen =>
    exact bound.request ((machine ω).entry s (.request req reqLen resp respLen)) req reqLen s.session
      (s.sec.handle_access req reqLen resp respLen s.session s.world) rfl rfl fun returned => returned.1 returned.2
  | control req reqLen resp respLen =>
    exact bound.session ((machine ω).entry s (.control req reqLen resp respLen)) rfl rfl forgets
  | update tickMs =>
    refine bound.quiet ((machine ω).entry s (.update tickMs)) rfl rfl (fun level lvl here => ?_) forgets
    obtain ⟨f, same, fields⟩ := s.sec.lookup_update tickMs level
    have here : (s.sec.update tickMs).lookup level = some lvl := here
    rw [same] at here
    obtain ⟨old, was, rfl⟩ := Option.map_eq_some_iff.mp here
    exact ⟨old, was, (fields old).2⟩
  | sessionUpdate tickMs => exact bound.session ((machine ω).entry s (.sessionUpdate tickMs)) rfl rfl forgets
  | keepAlive tickMs => exact bound.session ((machine ω).entry s (.keepAlive tickMs)) rfl rfl forgets
  | reset => exact bound.session ((machine ω).entry s .reset) rfl rfl forgets

def boot (levels : List (SecurityLevel ω)) (timing : TimingConfig) (control : DiagnosticSessionControlService ω)
    (onTimeout : Option (ω → ω)) (world : ω) : SecuritySession ω :=
  ⟨levels.foldl (fun svc level => (svc.registerLevel level).2) .create, .create timing, control, onTimeout, world⟩

theorem forgotten_of_levels {sec : SecurityAccessService ω}
    (locked : ∀ lvl ∈ sec.levels, lvl.unlocked = false ∧ lvl.seedSent = false) (level : Byte) :
    sec.isUnlocked level = false ∧ ¬ SeedUsable sec level := by
  constructor
  · unfold SecurityAccessService.isUnlocked
    split
    · rename_i lvl here
      exact (locked lvl (List.mem_of_find?_eq_some here)).1
    · rfl
  · intro usable
    obtain ⟨lvl, here, sent, _⟩ := usable
    rw [(locked lvl (List.mem_of_find?_eq_some here)).2] at sent
    cases sent

theorem boot_bound (levels : List (SecurityLevel ω)) (timing : TimingConfig)
    (control : DiagnosticSessionControlService ω) (onTimeout : Option (ω → ω)) (world : ω) :
    Bound [] (boot levels timing control onTimeout world) := by
  have fresh : ∀ svc : SecurityAccessService ω, (∀ lvl ∈ svc.levels, lvl.unlocked = false ∧ lvl.seedSent = false) →
      ∀ lvl ∈ (levels.foldl (fun svc level => (svc.registerLevel level).2) svc).levels,
        lvl.unlocked = false ∧ lvl.seedSent = false := by
    induction levels with
    | nil => exact fun _ old => old
    | cons level levels ih =>
      intro svc old
      refine ih _ fun lvl member => ?_
      simp only [SecurityAccessService.registerLevel] at member
      split at member
      · exact old lvl member
      · split at member
        · exact old lvl member
        · rcases List.mem_append.mp member with member | member
          · exact old lvl member
          · rw [List.mem_singleton.mp member]
            exact ⟨rfl, rfl⟩
  have fresh := fresh .create (by simp [SecurityAccessService.create])
  refine ⟨⟨fun level unlocked => ?_, fun earlier entry later _ _ split => ?_⟩, fun level lvl here sent _ => ?_⟩
  · cases (forgotten_of_levels fresh level).1.symm.trans unlocked
  · cases earlier <;> cases split
  · exact absurd ((fresh lvl (List.mem_of_find?_eq_some here)).2.symm.trans sent) (by decide)

/-- In every run in which the session only returns to Default while nothing is unlocked and no
    seed is usable, security is tied to the session. -/
theorem security_tied (levels : List (SecurityLevel ω)) (timing : TimingConfig)
    (control : DiagnosticSessionControlService ω) (onTimeout : Option (ω → ω)) (world : ω) (events : List Event)
    (forgotten : ∀ entry ∈ (machine ω).trace (boot levels timing control onTimeout world) events,
      Forgotten entry.before entry.event) :
    Tied ((machine ω).trace (boot levels timing control onTimeout world) events)
      ((machine ω).run (boot levels timing control onTimeout world) events) := by
  have bound := (machine ω).trace_invariant
    (fun past s event (bound : Bound past s) (forgotten : Forgotten s event) => bound.next event forgotten) _ events
    (boot_bound levels timing control onTimeout world) forgotten
  exact bound.toTied

section

def mirrorLevel : SecurityLevel Unit where
  level := 0x01
  seedLen := 4
  generateSeed buf _ _ := ((buf.store 0 [0x11, 0x22, 0x33, 0x44], 4), ())
  verifyKey seed seedLen key keyLen _ := (decide (key.load 0 keyLen = seed.load 0 seedLen), ())
  requiredSession := .extended

def mirror : SecuritySession Unit := boot [mirrorLevel] kDefaultTiming ⟨none⟩ none ()

def asks (sub : Byte) : Event := .control ((Region.fill 0).store 0 [0x10, sub]) 2 (Region.fill 0) 4096

def sends (bytes : List Byte) : Event := .request ((Region.fill 0).store 0 bytes) bytes.length (Region.fill 0) 4096

def unlocking : List Event := [asks 0x03, sends [0x27, 0x01], sends [0x27, 0x02, 0x11, 0x22, 0x33, 0x44]]

/-- A wrong key takes the seed back, so that the session may return to Default; then the level is unlocked. -/
def unlockingAgain : List Event :=
  [asks 0x03, sends [0x27, 0x01], sends [0x27, 0x02, 0x00], asks 0x01] ++ unlocking

theorem security_tied_unlocking :
    Tied ((machine Unit).trace mirror unlockingAgain) ((machine Unit).run mirror unlockingAgain) := by
  refine security_tied [mirrorLevel] kDefaultTiming ⟨none⟩ none () unlockingAgain fun entry member => ?_
  have returns : ∀ entry ∈ (machine Unit).trace mirror unlockingAgain,
      (entry.before.session.session ≠ .default → entry.after.session.session = .default →
        ∀ lvl ∈ entry.before.sec.levels, lvl.unlocked = false ∧ lvl.seedSent = false) := by
    decide
  obtain ⟨before, event, rfl⟩ := (machine Unit).entry_of_mem_trace member
  exact fun left lapsed => forgotten_of_levels (returns _ member left lapsed)

theorem security_outlives_session : ¬ Tied ((machine Unit).trace mirror (unlocking ++ [asks 0x01]))
    ((machine Unit).run mirror (unlocking ++ [asks 0x01])) := by
  intro tied
  obtain ⟨earlier, entry, later, split, ⟨seed, key, member⟩, quiet⟩ := tied.unlocked 0x01 (by decide)
  rw [Machine.trace_snoc] at split
  rcases Machine.split_snoc split with ⟨_, rfl, _⟩ | ⟨rest, rfl, _⟩
  · cases member
  · refine quiet _ (List.mem_append_right rest List.mem_cons_self) ⟨?_, ?_⟩
    · decide
    · decide

end

end SecuritySession

end Uds
