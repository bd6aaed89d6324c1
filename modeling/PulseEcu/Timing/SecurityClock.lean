import PulseEcu.Foundation.Clock
import PulseEcu.Services.SecurityRun

open Foundation

namespace Uds

variable {ω : Type}

def SecurityEvent.shift (c : Word) : SecurityEvent ω → SecurityEvent ω
  | register level => .register level
  | request req reqLen resp respLen session world => .request req reqLen resp respLen session world
  | update tickMs => .update (tickMs + c)

inductive SecurityReply (ω : Type) where
  | registered (accepted : Bool)
  | answered (message : List Byte) (world : ω) (calls : List SecurityCall)
  | updated

def securityService (ω : Type) : Machine (SecurityAccessService ω) (SecurityEvent ω) (SecurityReply ω) where
  step svc
    | .register level => ((svc.registerLevel level).2, .registered (svc.registerLevel level).1)
    | .request req reqLen resp respLen session world =>
      let handled := svc.handle req reqLen resp respLen session world
      (handled.state.1, .answered handled.message handled.state.2 handled.calls)
    | .update tickMs => (svc.update tickMs, .updated)

namespace LevelState

def timeless (lvl : LevelState ω) : LevelState ω := { lvl with lockedUntil := 0 }

/-- The last key was one too many, and the delay that it set is not known to be over. -/
def Exhausted (lvl : LevelState ω) : Prop := lvl.failCount.toNat ≥ kMaxAttempts

instance (lvl : LevelState ω) : Decidable lvl.Exhausted := inferInstanceAs (Decidable (_ ≥ _))

def later (c : Word) (lvl : LevelState ω) : LevelState ω :=
  { lvl with lockedUntil := if lvl.Exhausted then lvl.lockedUntil + c else lvl.lockedUntil }

structure Timed (tick : Word) (lvl : LevelState ω) : Prop where
  free : ¬ lvl.Exhausted → lvl.lockedUntil = 0
  running : lvl.Exhausted → tick - (lvl.lockedUntil - kDelayAfterFail) < kDelayAfterFail

end LevelState

namespace SecurityAccessService

def timeless (svc : SecurityAccessService ω) : List (LevelState ω) × Byte :=
  (svc.levels.map LevelState.timeless, svc.activeLevel)

def noteUpdate (_ : SecurityAccessService ω) (event : SecurityEvent ω) (updated : Bool) : Bool :=
  match event with
  | .update _ => true
  | .register _ | .request .. => updated

/-- A lock-out is compared on its lap: by a request, where it must not be taken for none, and by an
    update. One from before the first update, whose delay counts from tick 0, is over at that update. -/
def Steady (noted : SecurityAccessService ω × Bool) : SecurityEvent ω → Prop
  | .register _ => True
  | .request req reqLen _ _ _ _ => ∀ lvl, 2 ≤ reqLen → noted.1.findLevel (req 1) = some lvl → lvl.Exhausted →
      lvl.lockedUntil ≠ 0 ∧ SameLap (lvl.lockedUntil - kDelayAfterFail) lvl.lockedUntil noted.1.currentTick
  | .update tickMs => ∀ lvl ∈ noted.1.levels, lvl.Exhausted →
      if noted.2 then Timely kDelayAfterFail lvl.lockedUntil tickMs
      else lvl.lockedUntil ≠ 0 ∧ tickMs ≥ lvl.lockedUntil

def later (c : Word) (svc : SecurityAccessService ω) : SecurityAccessService ω :=
  { svc with levels := svc.levels.map (LevelState.later c), currentTick := svc.currentTick + c }

def Timed (tick : Word) (levels : List (LevelState ω)) : Prop := ∀ lvl ∈ levels, lvl.Timed tick

variable {c tick : Word} {svc : SecurityAccessService ω} {lvl : LevelState ω} {updated : Bool}

theorem later_free (free : ¬ lvl.Exhausted) : lvl.later c = lvl := by
  rw [LevelState.later, if_neg free]

theorem fresh_free (fresh : lvl.failCount = 0) : ¬ lvl.Exhausted := by
  rw [LevelState.Exhausted, fresh]
  decide

theorem lookup_later (c : Word) (svc : SecurityAccessService ω) (level : Byte) :
    (svc.later c).lookup level = (svc.lookup level).map (LevelState.later c) := by
  unfold lookup later
  exact List.find?_map ..

theorem put_later (c : Word) (lvl : LevelState ω) (levels : List (LevelState ω)) :
    put (lvl.later c) (levels.map (LevelState.later c)) = (put lvl levels).map (LevelState.later c) := by
  induction levels with
  | nil => rfl
  | cons other levels ih =>
    simp only [List.map_cons, put]
    by_cases here : other.cfg.level = lvl.cfg.level
    · have here' : (other.later c).cfg.level = (lvl.later c).cfg.level := here
      rw [if_pos here, if_pos here', List.map_cons]
    · have here' : ¬ (other.later c).cfg.level = (lvl.later c).cfg.level := here
      rw [if_neg here, if_neg here', List.map_cons, ih]

theorem store_later (c : Word) (svc : SecurityAccessService ω) (lvl : LevelState ω) :
    (svc.later c).store (lvl.later c) = (svc.store lvl).later c := by
  unfold store later
  rw [put_later]

theorem put_timed (levels : List (LevelState ω)) (timed : Timed tick levels) (new : lvl.Timed tick) :
    Timed tick (put lvl levels) := by
  induction levels with
  | nil => exact timed
  | cons other levels ih =>
    obtain ⟨first, rest⟩ := List.forall_mem_cons.mp timed
    unfold put
    split
    · exact List.forall_mem_cons.mpr ⟨new, rest⟩
    · exact List.forall_mem_cons.mpr ⟨first, ih rest⟩

structure Kept (c tick : Word) (handled handled' : Handled SecurityCall (SecurityAccessService ω × ω)) : Prop where
  message : handled'.message = handled.message
  world : handled'.state.2 = handled.state.2
  calls : handled'.calls = handled.calls
  state : handled'.state.1 = handled.state.1.later c
  timed : Timed tick handled.state.1.levels

theorem Kept.failed {after after' : SecurityAccessService ω} (state : after' = after.later c)
    (timed : Timed tick after.levels) (resp : Region Byte) (nrc : NrcCode) (world : ω)
    (calls : List SecurityCall) : Kept c tick (negative resp serviceId nrc (after, world) calls)
      (negative resp serviceId nrc (after', world) calls) := ⟨rfl, rfl, rfl, state, timed⟩

theorem Kept.refused (timed : Timed tick svc.levels) (resp : Region Byte) (nrc : NrcCode) (world : ω) :
    Kept c tick (negative resp serviceId nrc (svc, world) [])
      (negative resp serviceId nrc (svc.later c, world) []) := .failed rfl timed resp nrc world []

theorem requestSeed_kept (timed : Timed tick svc.levels) (found : lvl ∈ svc.levels) (subFunc : Byte)
    (resp : Region Byte) (world : ω) : Kept c tick (svc.requestSeed lvl subFunc resp world)
      ((svc.later c).requestSeed (lvl.later c) subFunc resp world) := by
  by_cases unlocked : lvl.unlocked = true
  · have unlocked' : (lvl.later c).unlocked = true := unlocked
    simp only [requestSeed]
    rw [if_pos unlocked, if_pos unlocked']
    exact ⟨rfl, rfl, rfl, rfl, timed⟩
  · have unlocked' : ¬ (lvl.later c).unlocked = true := unlocked
    have stored := store_later c svc (seeded lvl (lvl.cfg.generateSeed lvl.seed 16 world).1.1
      (lvl.cfg.generateSeed lvl.seed 16 world).1.2)
    simp only [requestSeed]
    rw [if_neg unlocked, if_neg unlocked']
    refine ⟨rfl, rfl, rfl, ?_, put_timed svc.levels timed ⟨(timed lvl found).free, (timed lvl found).running⟩⟩
    exact congrArg (fun kept : SecurityAccessService ω => { kept with activeLevel := subFunc }) stored

theorem sendKey_kept (timed : Timed svc.currentTick svc.levels) (found : lvl ∈ svc.levels) (free : ¬ lvl.Exhausted)
    (subFunc : Byte) (req : Region Byte) (reqLen : Nat) (resp : Region Byte) (world : ω) :
    Kept c svc.currentTick (svc.sendKey lvl subFunc req reqLen resp world)
      ((svc.later c).sendKey (lvl.later c) subFunc req reqLen resp world) := by
  have none := (timed lvl found).free free
  rw [later_free free]
  by_cases unusable : lvl.seedSent = false ∨ svc.activeLevel ≠ subFunc - 1
  · have unusable' : lvl.seedSent = false ∨ (svc.later c).activeLevel ≠ subFunc - 1 := unusable
    simp only [sendKey]
    rw [if_pos unusable, if_pos unusable']
    exact .refused timed resp .requestSequenceError world
  · have unusable' : ¬ (lvl.seedSent = false ∨ (svc.later c).activeLevel ≠ subFunc - 1) := unusable
    simp only [sendKey]
    rw [if_neg unusable, if_neg unusable']
    by_cases invalid : (lvl.cfg.verifyKey lvl.seed lvl.seedLen (req.advance 2) (reqLen - 2) world).1 = false
    · rw [if_pos invalid, if_pos invalid]
      by_cases many : (lvl.failCount + 1).toNat ≥ kMaxAttempts
      · -- the delay begins now, in both runs
        have due : svc.currentTick + kDelayAfterFail + c = svc.currentTick + c + kDelayAfterFail := add_right_swap ..
        have stored := store_later c svc { lvl with
          failCount := lvl.failCount + 1
          seedSent := false
          lockedUntil := svc.currentTick + kDelayAfterFail }
        simp only [LevelState.later, LevelState.Exhausted, if_pos many, due] at stored
        rw [if_pos many, if_pos many]
        refine .failed stored (put_timed svc.levels timed ⟨fun fresh => absurd many fresh, fun _ => ?_⟩) ..
        dsimp only
        rw [BitVec.add_sub_cancel, BitVec.sub_self]
        decide
      · have stored := store_later c svc { lvl with failCount := lvl.failCount + 1, seedSent := false }
        have few : ¬ ({ lvl with failCount := lvl.failCount + 1, seedSent := false } : LevelState ω).Exhausted := many
        rw [later_free few] at stored
        rw [if_neg many, if_neg many]
        exact .failed stored (put_timed svc.levels timed ⟨fun _ => none, fun exhausted => absurd exhausted many⟩) ..
    · have fresh : ¬ (opened lvl).Exhausted := fresh_free rfl
      have stored := store_later c svc (opened lvl)
      rw [later_free fresh] at stored
      rw [if_neg invalid, if_neg invalid]
      exact ⟨rfl, rfl, rfl, stored, put_timed svc.levels timed ⟨fun _ => none, fun exhausted => absurd exhausted fresh⟩⟩

/-- A running delay holds where it is compared on its lap. -/
theorem delayed_of_lap (running : tick - (lvl.lockedUntil - kDelayAfterFail) < kDelayAfterFail)
    (lap : SameLap (lvl.lockedUntil - kDelayAfterFail) lvl.lockedUntil tick) : tick < lvl.lockedUntil := by
  have compared := sameLap_sub_iff.mp lap
  exact BitVec.not_le.mp fun late => BitVec.not_le.mpr running (compared.mp late)

theorem handle_kept (timed : Timed svc.currentTick svc.levels) (req : Region Byte) (reqLen : Nat) (resp : Region Byte)
    (respLen : Nat) (session : UdsSession) (world : ω)
    (first : Steady (svc, updated) (.request req reqLen resp respLen session world))
    (second : Steady (svc.later c, updated) (.request req reqLen resp respLen session world)) :
    Kept c svc.currentTick (svc.handle req reqLen resp respLen session world)
      ((svc.later c).handle req reqLen resp respLen session world) := by
  have found' : (svc.later c).findLevel (req 1) = (svc.findLevel (req 1)).map (LevelState.later c) := lookup_later ..
  unfold handle
  by_cases short : reqLen < 2
  · rw [if_pos short, if_pos short]
    exact .refused timed ..
  · have long : 2 ≤ reqLen := Nat.le_of_not_lt short
    rw [if_neg short, if_neg short]
    dsimp only
    rw [found']
    cases found : svc.findLevel (req 1) with
    | none => exact .refused timed ..
    | some lvl =>
      have member : lvl ∈ svc.levels := List.mem_of_find?_eq_some found
      have found' : (svc.later c).findLevel (req 1) = some (lvl.later c) := by rw [found', found]; rfl
      dsimp only [Option.map]
      by_cases exhausted : lvl.Exhausted
      · have running := (timed lvl member).running exhausted
        have due : (lvl.later c).lockedUntil = lvl.lockedUntil + c := if_pos exhausted
        have running' : (svc.later c).currentTick - ((lvl.later c).lockedUntil - kDelayAfterFail) < kDelayAfterFail := by
          rw [due, sub_right_shift]
          show svc.currentTick + c - _ < _
          rw [span_shift]
          exact running
        obtain ⟨armed, lap⟩ := first lvl long found exhausted
        obtain ⟨armed', lap'⟩ := second (lvl.later c) long found' exhausted
        rw [if_pos ⟨armed, delayed_of_lap running lap⟩, if_pos ⟨armed', delayed_of_lap running' lap'⟩]
        exact .refused timed ..
      · have none := (timed lvl member).free exhausted
        have same : lvl.later c = lvl := later_free exhausted
        have undelayed : ∀ tick : Word, ¬ (lvl.lockedUntil ≠ 0 ∧ tick < lvl.lockedUntil) := fun _ late => late.1 none
        rw [if_neg (undelayed _), same, if_neg (undelayed _)]
        by_cases elsewhere : lvl.cfg.requiredSession ≠ session.session
        · rw [if_pos elsewhere, if_pos elsewhere]
          exact .refused timed ..
        · rw [if_neg elsewhere, if_neg elsewhere]
          by_cases odd : req 1 &&& 1 ≠ 0
          · rw [if_pos odd, if_pos odd]
            have seed := requestSeed_kept (c := c) timed member (req 1) resp world
            rw [same] at seed
            exact seed
          · rw [if_neg odd, if_neg odd]
            have key := sendKey_kept (c := c) timed member exhausted (req 1) req reqLen resp world
            rw [same] at key
            exact key

theorem expire_free {now : Word} (none : lvl.lockedUntil = 0) : expire now lvl = lvl := by
  rw [expire, none]
  exact if_neg fun late => absurd late.1 (by decide)

theorem expire_over {now : Word} (late : lvl.lockedUntil ≠ 0 ∧ now ≥ lvl.lockedUntil) :
    expire now lvl = { lvl with lockedUntil := 0, failCount := 0 } := by
  rw [← pos_iff_ne_zero] at late
  exact if_pos late

theorem released_timed (lvl : LevelState ω) (now : Word) :
    ({ lvl with lockedUntil := 0, failCount := 0 } : LevelState ω).Timed now :=
  ⟨fun _ => rfl, fun exhausted => absurd exhausted (fresh_free rfl)⟩

theorem released_later (c : Word) (lvl : LevelState ω) :
    ({ lvl with lockedUntil := 0, failCount := 0 } : LevelState ω).later c =
      { lvl with lockedUntil := 0, failCount := 0 } := later_free (fresh_free rfl)

theorem expire_later {now : Word} (exhausted : lvl.Exhausted) (first : Timely kDelayAfterFail lvl.lockedUntil now)
    (second : Timely kDelayAfterFail (lvl.lockedUntil + c) (now + c)) :
    expire (now + c) (lvl.later c) = (expire now lvl).later c ∧ (expire now lvl).Timed now := by
  have due : (lvl.later c).lockedUntil = lvl.lockedUntil + c := if_pos exhausted
  have same := first.over_shift second
  have counted := timely_iff.mp first
  rw [← due] at same
  by_cases expired : lvl.lockedUntil ≠ 0 ∧ now ≥ lvl.lockedUntil
  · rw [expire_over expired, expire_over (same.mpr expired), released_later]
    exact ⟨rfl, released_timed lvl now⟩
  · have stays := mt same.mp expired
    have running := mt counted.mpr expired
    rw [← pos_iff_ne_zero] at expired stays
    unfold expire
    rw [if_neg expired, if_neg stays]
    exact ⟨rfl, fun fresh => absurd exhausted fresh, fun _ => BitVec.not_le.mp running⟩

/-- A delay that both runs find over is over in both, wherever they count it from. -/
theorem expire_both {earlier now later : Word} (first : lvl.lockedUntil ≠ 0 ∧ now ≥ lvl.lockedUntil)
    (second : (lvl.later earlier).lockedUntil ≠ 0 ∧ later ≥ (lvl.later earlier).lockedUntil) :
    expire later (lvl.later earlier) = (expire now lvl).later c ∧ (expire now lvl).Timed now := by
  rw [expire_over first, expire_over second, released_later]
  exact ⟨rfl, released_timed lvl now⟩

theorem update_later (tickMs : Word) (timed : Timed tick svc.levels) (first : Steady (svc, updated) (.update tickMs))
    (second : Steady (svc.later (if updated then c else 0), updated) (.update (tickMs + c))) :
    (svc.later (if updated then c else 0)).update (tickMs + c) = (svc.update tickMs).later c ∧
      Timed tickMs (svc.update tickMs).levels := by
  have each : ∀ lvl ∈ svc.levels,
      expire (tickMs + c) (lvl.later (if updated then c else 0)) = (expire tickMs lvl).later c ∧
        (expire tickMs lvl).Timed tickMs := by
    intro lvl member
    by_cases exhausted : lvl.Exhausted
    · have here := first lvl member exhausted
      have there := second (lvl.later (if updated then c else 0)) (List.mem_map_of_mem member) exhausted
      cases updated with
      | false => exact expire_both here there
      | true =>
        have due : (lvl.later c).lockedUntil = lvl.lockedUntil + c := if_pos exhausted
        have timely : Timely kDelayAfterFail (lvl.lockedUntil + c) (tickMs + c) := due ▸ there
        exact expire_later exhausted here timely
    · have none := (timed lvl member).free exhausted
      rw [later_free exhausted, expire_free none, expire_free none, later_free exhausted]
      exact ⟨rfl, fun _ => none, fun other => absurd other exhausted⟩
  constructor
  · have levels : (svc.levels.map (LevelState.later (if updated then c else 0))).map (expire (tickMs + c)) =
        (svc.levels.map (expire tickMs)).map (LevelState.later c) := by
      rw [List.map_map, List.map_map]
      exact List.map_congr_left fun lvl member => (each lvl member).1
    exact congrArg (fun levels => SecurityAccessService.mk levels svc.activeLevel (tickMs + c)) levels
  · have levels : (svc.update tickMs).levels = svc.levels.map (expire tickMs) := rfl
    rw [levels]
    intro lvl member
    obtain ⟨before, known, rfl⟩ := List.mem_map.mp member
    exact (each before known).2

theorem registerLevel_later (svc : SecurityAccessService ω) (c : Word) (level : SecurityLevel ω) :
    (svc.later c).registerLevel level = ((svc.registerLevel level).1, (svc.registerLevel level).2.later c) := by
  have length : (svc.later c).levels.length = svc.levels.length := List.length_map ..
  unfold registerLevel
  rw [length]
  split
  · rfl
  · split
    · rfl
    · simp only [later, List.map_append, List.map_cons, List.map_nil]
      rfl

theorem registerLevel_timed (timed : Timed tick svc.levels) (level : SecurityLevel ω) :
    Timed tick (svc.registerLevel level).2.levels := by
  unfold registerLevel
  split
  · exact timed
  · split
    · exact timed
    · refine List.forall_mem_append.mpr ⟨timed, List.forall_mem_singleton.mpr ⟨fun _ => rfl, fun exhausted => ?_⟩⟩
      exact absurd exhausted (fresh_free rfl)

structure Later (c : Word) (pair pair' : SecurityAccessService ω × Bool) : Prop where
  timed : Timed pair.1.currentTick pair.1.levels
  same : pair' = (pair.1.later (if pair.2 then c else 0), pair.2)

theorem Later.step {pair pair' : SecurityAccessService ω × Bool} (related : Later c pair pair')
    (event : SecurityEvent ω) (first : Steady pair event) (second : Steady pair' (event.shift c)) :
    ((securityService ω).noting noteUpdate).output pair event =
        ((securityService ω).noting noteUpdate).output pair' (event.shift c) ∧
      Later c (((securityService ω).noting noteUpdate).next pair event)
        (((securityService ω).noting noteUpdate).next pair' (event.shift c)) := by
  obtain ⟨svc, updated⟩ := pair
  obtain ⟨timed, rfl⟩ := related
  cases event with
  | register level =>
    have registered := svc.registerLevel_later (if updated then c else 0) level
    refine ⟨?_, ?_, Prod.ext (congrArg Prod.snd registered) rfl⟩
    · show SecurityReply.registered (svc.registerLevel level).1 = .registered (registerLevel _ level).1
      rw [registered]
    · have tick := (svc.registerLevel_frame level).2
      show Timed (svc.registerLevel level).2.currentTick _
      rw [tick]
      exact registerLevel_timed timed level
  | request req reqLen resp respLen session world =>
    have kept := handle_kept timed req reqLen resp respLen session world first second
    refine ⟨?_, ?_, Prod.ext kept.state rfl⟩
    · show SecurityReply.answered (svc.handle req reqLen resp respLen session world).message _ _ =
        .answered (handle _ req reqLen resp respLen session world).message _ _
      rw [kept.message, kept.world, kept.calls]
    · have tick := svc.handle_currentTick req reqLen resp respLen session world
      show Timed (svc.handle req reqLen resp respLen session world).state.1.currentTick _
      rw [tick]
      exact kept.timed
  | update tickMs =>
    obtain ⟨same, timed⟩ := update_later tickMs timed first second
    exact ⟨rfl, timed, Prod.ext same rfl⟩

theorem later_timeless (c : Word) (svc : SecurityAccessService ω) : (svc.later c).timeless = svc.timeless := by
  have same : LevelState.timeless ∘ LevelState.later c = (LevelState.timeless : LevelState ω → LevelState ω) := rfl
  rw [timeless, later, List.map_map, same]
  rfl

theorem translates (c : Word) (events : List (SecurityEvent ω))
    (steady : ((securityService ω).noting noteUpdate).AllSteps Steady (create, false) events)
    (steady' : ((securityService ω).noting noteUpdate).AllSteps Steady (create, false)
      (events.map (SecurityEvent.shift c))) :
    (securityService ω).Translates SecurityEvent.shift timeless create c events := by
  have initial : Later c ((create : SecurityAccessService ω), false) (create, false) :=
    ⟨fun _ member => (nomatch member), rfl⟩
  have runs := ((securityService ω).noting noteUpdate).related_runs
    (fun _ _ event related first second => Later.step related event first second)
    _ _ events initial steady steady'
  rw [(securityService ω).noting_trace, (securityService ω).noting_trace] at runs
  refine ⟨runs.1, ?_⟩
  have final := congrArg Prod.fst runs.2.same
  rw [(securityService ω).noting_run, (securityService ω).noting_run] at final
  rw [final, later_timeless]

end SecurityAccessService

end Uds
