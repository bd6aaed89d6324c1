import Mathlib.Algebra.Group.Nat.Defs
import PulseEcu.Server.SessionEffect

open Foundation

namespace Uds

open Transport

variable {σ : Type}

namespace UdsServer

def AsksForAnother (s : UdsServer σ) : Prop :=
  ∃ svc new, s.taker = some (.diagnosticSessionControl svc) ∧
    DiagnosticSessionControlService.asked s.request s.requestLen = some new ∧ new ≠ s.session.session

def TakesTesterPresent (s : UdsServer σ) : Prop :=
  s.taker = some .testerPresent ∧ TesterPresentService.Accepts s.request s.requestLen

def Silent (tick : Word) (s3 : Nat) (s : UdsServer σ) : ServerEvent → Prop
  | .frame _ _ => True
  | .process _ now => s.requestLen = 0 ∧ tick ≤ now ∧ now.toNat < tick.toNat + s3

def KeptAlive (s : UdsServer σ) (can : ICanInterface) (tick : Word) : Prop :=
  (s.process can tick).1.session.session = s.session.session ∧
    ∀ events, (∀ entry ∈ (udsServer σ).trace (s.process can tick).1 events,
        entry.before.Silent tick s.session.timing.s3Ms.toNat entry.event) →
      ((udsServer σ).run (s.process can tick).1 events).session.session = s.session.session

section

variable (s : UdsServer σ) (can : ICanInterface) (tick : Word)

theorem fetch_ready : s.fetch.2.transport.dataReady = false := by
  unfold fetch
  split
  · rename_i ready
    simp [IsoTp.getData, ready]
  · rename_i empty
    exact Bool.not_eq_true _ ▸ empty

theorem requestLen_eq_zero (empty : s.transport.dataReady = false) : s.requestLen = 0 := by
  simp [requestLen, fetch, empty]

theorem sendResponse_ready (mem : Memory) (data : Pointer) (len : Nat) :
    (s.sendResponse can mem data len).1.transport.dataReady = s.transport.dataReady :=
  congrArg RxView.ready (IsoTp.send_rx can mem s.transport (some data) len)

theorem handleRequest_ready (len : Nat) :
    (s.handleRequest can len).1.transport.dataReady = s.transport.dataReady := by
  simp only [handleRequest]
  split
  · rfl
  · cases s.findService (s.reqBuf 0) with
    | none => exact sendResponse_ready ..
    | some svc =>
      dsimp only
      split
      · exact sendResponse_ready ..
      · rfl

theorem finish_ready : (s.finish can tick).transport.dataReady = s.transport.dataReady := by
  have same := congrArg RxView.ready (IsoTp.update_rx can.getTickMs s.transport)
  apply same.trans
  unfold IsoTp.updateRx
  split <;> rfl

theorem process_ready : (s.process can tick).1.transport.dataReady = false := by
  by_cases arrived : s.requestLen > 0
  · rw [process_arrived s can tick arrived, finish_ready, handleRequest_ready]
    exact s.fetch_ready
  · rw [process_silent s can tick arrived, finish_ready]
    exact s.fetch_ready

theorem process_empty : (s.process can tick).1.requestLen = 0 :=
  requestLen_eq_zero _ (s.process_ready can tick)

variable {s tick}

theorem silent_kept (expected : UdsSession) (s3 : Nat) (left : expected.session ≠ .default)
    (deadline : expected.s3Deadline.toNat = tick.toNat + s3) (events : List ServerEvent)
    (same : s.session = expected)
    (silent : ∀ entry ∈ (udsServer σ).trace s events, entry.before.Silent tick s3 entry.event) :
    ((udsServer σ).run s events).session = expected := by
  refine (udsServer σ).run_invariant (fun s event (same : s.session = expected)
    (silent : s.Silent tick s3 event) => ?_) s events same silent
  cases event with
  | frame can frame => exact same
  | process can now =>
    obtain ⟨none, _, early⟩ := silent
    have quiet : s.served now = expected := by
      rw [served, if_neg (by omega)]
      exact same
    have kept := UdsSession.update_kept expected now left (Or.inr (BitVec.lt_def.mpr (by omega)))
    exact (s.process_session can now).trans (by rw [quiet, kept])

end

theorem asks_same (session : UdsSession) (left : session.session ≠ .default) :
    (session.transition session.session).2.session = session.session ∧
      (session.transition session.session).2.s3Deadline = session.s3Deadline := by
  constructor
  · rw [UdsSession.transition_session]
    split <;> rfl
  · rw [UdsSession.transition_deadline, if_neg left]

/-- A request that stays in its session sets the deadline `s3_ms` from its tick; only
    TesterPresent sets it `s3_ms` from tick 0. -/
theorem served_session (s : UdsServer σ) (tick : Word) (left : s.session.session ≠ .default)
    (arrived : s.requestLen > 0) (stays : ¬ s.AsksForAnother) :
    (s.served tick).session = s.session.session ∧
      (¬ s.TakesTesterPresent → (s.served tick).s3Deadline = tick + s.session.timing.s3Ms.setWidth 32) ∧
      (s.TakesTesterPresent → (s.served tick).s3Deadline = 0 + s.session.timing.s3Ms.setWidth 32) := by
  have session := s.session.keepAlive_session tick
  have alive : (s.session.keepAlive tick).session ≠ .default := by
    rw [session]
    exact left
  have deadline := s.session.keepAlive_deadline tick left
  rw [served, if_pos arrived]
  cases taker : s.taker with
  | none =>
    refine ⟨session, fun _ => deadline, fun tester => ?_⟩
    cases taker.symm.trans tester.1
  | some svc =>
    cases svc with
    | diagnosticSessionControl svc =>
      have other : ¬ s.TakesTesterPresent := by
        intro tester
        cases taker.symm.trans tester.1
      refine (fun (kept : _ ∧ _) => ⟨kept.1, fun _ => kept.2, fun tester => absurd tester other⟩) ?_
      simp only [IService.effect]
      cases asked : DiagnosticSessionControlService.asked s.request s.requestLen with
      | none => exact ⟨session, deadline⟩
      | some new =>
        have same : new = (s.session.keepAlive tick).session := by
          rw [session]
          exact Decidable.not_not.mp fun another => stays ⟨svc, new, taker, asked, another⟩
        obtain ⟨kept, due⟩ := asks_same (s.session.keepAlive tick) alive
        rw [same]
        exact ⟨kept.trans session, due.trans deadline⟩
    | testerPresent =>
      simp only [IService.effect]
      split
      · rename_i accepts
        refine ⟨(UdsSession.keepAlive_session ..).trans session, fun other => absurd ⟨taker, accepts⟩ other, ?_⟩
        intro _
        rw [UdsSession.keepAlive_deadline _ _ alive, UdsSession.keepAlive_timing]
      · rename_i refused
        exact ⟨session, fun _ => deadline, fun tester => absurd tester.2 refused⟩
    | reading sid handle =>
      refine ⟨session, fun _ => deadline, fun tester => ?_⟩
      cases taker.symm.trans tester.1

section

variable (s : UdsServer σ) (can : ICanInterface) (tick : Word)

theorem deadline_toNat (session : UdsSession)
    (noWrap : tick.toNat + session.timing.s3Ms.toNat < 2 ^ 32) :
    (tick + session.timing.s3Ms.setWidth 32).toNat = tick.toNat + session.timing.s3Ms.toNat := by
  have small := session.timing.s3Ms.isLt
  rw [BitVec.toNat_add, BitVec.toNat_setWidth]
  omega

theorem keptAlive_of_deadline (left : s.session.session ≠ .default)
    (served : (s.served tick).session = s.session.session)
    (deadline : (s.served tick).s3Deadline.toNat = tick.toNat + s.session.timing.s3Ms.toNat)
    (s3 : 0 < s.session.timing.s3Ms.toNat) : s.KeptAlive can tick := by
  have left' : (s.served tick).session ≠ .default := by
    rw [served]
    exact left
  have session : (s.process can tick).1.session = s.served tick := by
    rw [process_session, UdsSession.update_kept _ _ left' (Or.inr (BitVec.lt_def.mpr (by omega)))]
  refine ⟨(congrArg _ session).trans served, fun events silent => ?_⟩
  rw [silent_kept (s.served tick) s.session.timing.s3Ms.toNat left' deadline events session silent]
  exact served

theorem not_keptAlive_of_deadline (left : s.session.session ≠ .default)
    (served : (s.served tick).session = s.session.session)
    (deadline : (s.served tick).s3Deadline.toNat = s.session.timing.s3Ms.toNat) (late : 0 < tick.toNat)
    (s3 : 0 < s.session.timing.s3Ms.toNat) : ¬ s.KeptAlive can tick := by
  intro kept
  have left' : (s.served tick).session ≠ .default := by
    rw [served]
    exact left
  have armed : (s.served tick).s3Deadline ≠ 0 := by
    intro zero
    rw [zero] at deadline
    exact absurd deadline (Nat.ne_of_lt s3)
  by_cases expired : (s.served tick).s3Deadline ≤ tick
  · -- the call itself ends the session
    have lapsed := UdsSession.update_expired _ _ left' armed expired
    rw [← process_session s can tick] at lapsed
    exact left (kept.1.symm.trans lapsed)
  · -- the deadline is still to come, and a call at it ends the session
    have session : (s.process can tick).1.session = s.served tick := by
      rw [process_session, UdsSession.update_kept _ _ left' (Or.inr (BitVec.not_le.mp expired))]
    have early := BitVec.lt_def.mp (BitVec.not_le.mp expired)
    have silent : ∀ entry ∈ (udsServer σ).trace (s.process can tick).1 [.process can (s.served tick).s3Deadline],
        entry.before.Silent tick s.session.timing.s3Ms.toNat entry.event := by
      intro entry member
      rw [List.mem_singleton.mp member]
      exact ⟨s.process_empty can tick, BitVec.le_of_lt (BitVec.not_le.mp expired), by omega⟩
    have lives := kept.2 _ silent
    have quiet : (s.process can tick).1.served (s.served tick).s3Deadline = s.served tick := by
      have empty := s.process_empty can tick
      rw [UdsServer.served, if_neg (by omega), session]
    have next := (s.process can tick).1.process_session can (s.served tick).s3Deadline
    rw [quiet] at next
    have lapsed := UdsSession.update_expired (s.served tick) _ left' armed (BitVec.le_refl _)
    exact left (lives.symm.trans ((congrArg UdsSession.session next).trans lapsed))

/-- A request that stays in its session keeps it alive, unless it is a TesterPresent that is
    answered positively after tick 0. -/
theorem keep_alive_law (left : s.session.session ≠ .default) (arrived : s.requestLen > 0)
    (stays : ¬ s.AsksForAnother) (s3 : 0 < s.session.timing.s3Ms.toNat)
    (noWrap : tick.toNat + s.session.timing.s3Ms.toNat < 2 ^ 32) :
    s.KeptAlive can tick ↔ ¬ s.TakesTesterPresent ∨ tick = 0 := by
  obtain ⟨served, other, tester⟩ := s.served_session tick left arrived stays
  have counted := deadline_toNat tick s.session noWrap
  constructor
  · intro kept
    by_cases takes : s.TakesTesterPresent
    · refine Or.inr (Decidable.byContradiction fun late => ?_)
      have positive : 0 < tick.toNat := Nat.pos_of_ne_zero fun zero => late (BitVec.eq_of_toNat_eq zero)
      have deadline : (s.served tick).s3Deadline.toNat = s.session.timing.s3Ms.toNat := by
        rw [tester takes, deadline_toNat 0 s.session (by have zero : (0 : Word).toNat = 0 := rfl; omega)]
        exact Nat.zero_add _
      exact not_keptAlive_of_deadline s can tick left served deadline positive s3 kept
    · exact Or.inl takes
  · intro condition
    have deadline : (s.served tick).s3Deadline.toNat = tick.toNat + s.session.timing.s3Ms.toNat := by
      by_cases takes : s.TakesTesterPresent
      · rcases condition with refused | zero
        · exact absurd takes refused
        · rw [tester takes, ← counted, zero]
      · rw [other takes, counted]
    exact keptAlive_of_deadline s can tick left served deadline s3

end

def bench : UdsServer Unit :=
  boot (.create kDefaultIsoTpConfig (Region.fill 0)) kDefaultTiming none (Region.fill 0) (Region.fill 0) ()
    [.diagnosticSessionControl ⟨none⟩, .testerPresent]

def benchCan (tick : Word) : ICanInterface := ⟨tick, fun _ => true⟩

def extendedBench (request : List Byte) : UdsServer Unit :=
  (udsServer Unit).run bench
    [.frame (benchCan 1000) (.make 0x7DF [0x02, 0x10, 0x03] 3), .process (benchCan 1000) 1000,
      .frame (benchCan 6000) (.make 0x7DF (BitVec.ofNat 8 request.length :: request) (BitVec.ofNat 8 (request.length + 1)))]

theorem keep_alive_law_unknown : (extendedBench [0x22, 0xF1, 0x90]).KeptAlive (benchCan 6000) 6000 := by
  have none : (extendedBench [0x22, 0xF1, 0x90]).taker = none := rfl
  refine (keep_alive_law _ (benchCan 6000) 6000 (by decide) (by decide) ?_ (by decide) (by decide)).mpr (Or.inl ?_)
  · intro switches
    obtain ⟨svc, new, taker, _⟩ := switches
    cases none.symm.trans taker
  · intro zeroed
    obtain ⟨taker, _⟩ := zeroed
    cases none.symm.trans taker

theorem keep_alive_tester_present : ¬ (extendedBench [0x3E, 0x00]).KeptAlive (benchCan 6000) 6000 := by
  intro kept
  have lapsed : ((extendedBench [0x3E, 0x00]).process (benchCan 6000) 6000).1.session.session = .default := by decide
  exact absurd (kept.1.symm.trans lapsed) (by decide)

end UdsServer

end Uds
