import PulseEcu.Server.KeepAlive

open Foundation

namespace Uds.UdsServer

open Transport

variable {σ : Type}

def Requested (entry : Entry σ) (tick : Word) : Prop :=
  entry.before.requestLen > 0 ∧ ∃ can, entry.event = .process can tick

def Asked (entry : Entry σ) : Prop := ∃ tick, Requested entry tick

def LeavesDefault (entry : Entry σ) : Prop :=
  entry.before.session.session = .default ∧ entry.after.session.session ≠ .default

/-- A session that is not Default after a call is backed by a request of the last `s3` ms. -/
def Backed (s3 : Nat) (past : List (Entry σ)) (entry : Entry σ) : Prop :=
  ∀ can tick, entry.event = .process can tick → entry.after.session.session ≠ .default →
    ∃ source ∈ past ++ [entry], ∃ asked, Requested source asked ∧ tick.toNat < asked.toNat + s3

/-- The call has no request, and the last one was a request that left Default session, `s3` ms or
    more ago. -/
def Abandoned (s3 : Nat) (past : List (Entry σ)) (entry : Entry σ) : Prop :=
  ¬ Asked entry ∧ ∃ can tick, entry.event = .process can tick ∧
    SinceLast Asked
      (fun source => ∃ asked, Requested source asked ∧ LeavesDefault source ∧ asked.toNat + s3 ≤ tick.toNat) past

/-- The deadline of a session that is not Default comes from the last request: it is off if
    that request left Default session, and else at most `s3` ms after it. -/
def SetBy (s3 : Nat) (deadline : Word) (source : Entry σ) : Prop :=
  ∃ asked, Requested source asked ∧
    ((deadline = 0 ∧ LeavesDefault source) ∨ (deadline ≠ 0 ∧ deadline.toNat ≤ asked.toNat + s3))

structure Timed (s3 : Nat) (past : List (Entry σ)) (s : UdsServer σ) : Prop where
  timing : s.session.timing.s3Ms.toNat = s3
  off : s.session.session = .default → s.session.s3Deadline = 0
  on : s.session.session ≠ .default → SinceLast Asked (SetBy s3 s.session.s3Deadline) past
  opened : SinceLast Asked (fun source => Asked source ∧ LeavesDefault source) past →
    s.session.session ≠ .default ∧ s.session.s3Deadline = 0

variable {s : UdsServer σ} {s3 : Nat} {past : List (Entry σ)}

theorem served_deadline (s : UdsServer σ) (tick : Word) (arrived : s.requestLen > 0)
    (positive : 0 < s.session.timing.s3Ms.toNat)
    (noWrap : tick.toNat + s.session.timing.s3Ms.toNat < 2 ^ 32) (left : (s.served tick).session ≠ .default) :
    (s.session.session = .default ∧ (s.served tick).s3Deadline = s.session.s3Deadline) ∨
      (s.session.session ≠ .default ∧ (s.served tick).s3Deadline ≠ 0 ∧
        (s.served tick).s3Deadline.toNat ≤ tick.toNat + s.session.timing.s3Ms.toNat) := by
  have counted := deadline_toNat tick s.session noWrap
  have fromZero := deadline_toNat 0 s.session (by have zero : (0 : Word).toNat = 0 := rfl; omega)
  have zero : (0 : Word).toNat = 0 := rfl
  have nonzero : ∀ deadline : Word, 0 < deadline.toNat → deadline ≠ 0 := by
    intro deadline some none
    rw [none] at some
    exact absurd some (by decide)
  have effect : (s.served tick).s3Deadline = (s.session.keepAlive tick).s3Deadline ∨
      (s.session.keepAlive tick).session ≠ .default ∧
        (s.served tick).s3Deadline = 0 + (s.session.keepAlive tick).timing.s3Ms.setWidth 32 := by
    rw [served, if_pos arrived] at left ⊢
    cases taker : s.taker with
    | none => exact Or.inl rfl
    | some svc =>
      rw [taker] at left
      exact svc.effect_deadline s.request s.requestLen _ left
  rw [UdsSession.keepAlive_session, UdsSession.keepAlive_timing] at effect
  by_cases session : s.session.session = .default
  · rcases effect with same | ⟨other, _⟩
    · exact Or.inl ⟨session, same.trans (UdsSession.keepAlive_deadline_default _ tick session)⟩
    · exact absurd session other
  · refine Or.inr ⟨session, ?_⟩
    rcases effect with same | ⟨_, same⟩
    · rw [same, UdsSession.keepAlive_deadline _ tick session]
      exact ⟨nonzero _ (by omega), by omega⟩
    · rw [same]
      exact ⟨nonzero _ (by omega), by omega⟩

theorem Timed.later (timed : Timed s3 past s) (entry : Entry σ) (unasked : ¬ Asked entry)
    (same : entry.after.session = s.session) : Timed s3 (past ++ [entry]) entry.after := by
  constructor
  · rw [same]
    exact timed.timing
  · rw [same]
    exact timed.off
  · rw [same]
    intro left
    exact sinceLast_snoc.mpr (Or.inr ⟨unasked, timed.on left⟩)
  · rw [same]
    intro since
    rcases sinceLast_snoc.mp since with ⟨asked, _⟩ | ⟨_, since⟩
    · exact absurd asked unasked
    · exact timed.opened since

theorem Timed.fallen (timed : Timed s3 past s) (entry : Entry σ)
    (timing : entry.after.session.timing.s3Ms.toNat = s3) (session : entry.after.session.session = .default)
    (off : entry.after.session.s3Deadline = 0)
    (kept : ¬ Asked entry → s.session.session ≠ .default → s.session.s3Deadline = 0 →
      entry.after.session.session ≠ .default) : Timed s3 (past ++ [entry]) entry.after := by
  refine ⟨timing, fun _ => off, fun left => absurd session left, fun since => ?_⟩
  rcases sinceLast_snoc.mp since with ⟨_, _, left⟩ | ⟨unasked, since⟩
  · exact absurd session left
  · obtain ⟨left, none⟩ := timed.opened since
    exact absurd session (kept unasked left none)

def NoWrap (s3 : Nat) : ServerEvent → Prop
  | .frame _ _ => True
  | .process _ tick => tick.toNat + s3 < 2 ^ 32

def InOrder : ServerEvent → ServerEvent → Prop
  | .process _ tick, .process _ later => tick ≤ later
  | _, _ => True

theorem quiet_session (s : UdsServer σ) (can : ICanInterface) (tick : Word) (unasked : ¬ s.requestLen > 0) :
    (s.process can tick).1.session = (s.session.update tick).1 := by
  have quiet : s.served tick = s.session := by rw [served, if_neg unasked]
  rw [process_session, quiet]

theorem Timed.next (timed : Timed s3 past s) (positive : 0 < s3) (event : ServerEvent) (noWrap : NoWrap s3 event) :
    Timed s3 (past ++ [(udsServer σ).entry s event]) ((udsServer σ).next s event) := by
  have timing : ((udsServer σ).next s event).session.timing.s3Ms.toNat = s3 := by
    rw [udsServer_next_timing]
    exact timed.timing
  cases event with
  | frame can frame =>
    refine timed.later ((udsServer σ).entry s (.frame can frame)) ?_ rfl
    intro called
    obtain ⟨_, _, _, other⟩ := called
    cases other
  | process can tick =>
    have next : ((udsServer σ).next s (.process can tick)).session = ((s.served tick).update tick).1 :=
      s.process_session can tick
    have asks : s.requestLen > 0 → Asked ((udsServer σ).entry s (.process can tick)) :=
      fun arrived => ⟨tick, arrived, can, rfl⟩
    rcases (s.served tick).update_cases tick with ⟨lapsed, off⟩ | ⟨left, kept, _⟩
    · apply timed.fallen ((udsServer σ).entry s (.process can tick)) timing
        ((congrArg UdsSession.session next).trans lapsed) ((congrArg UdsSession.s3Deadline next).trans off)
      intro unasked stays none
      have after := s.quiet_session can tick (mt asks unasked)
      rw [UdsSession.update_kept s.session tick stays (Or.inl none)] at after
      exact fun session => stays ((congrArg UdsSession.session after).symm.trans session)
    · rw [kept] at next
      by_cases arrived : s.requestLen > 0
      · -- this call becomes the last request
        have noWrap : tick.toNat + s3 < 2 ^ 32 := noWrap
        have stays : ((udsServer σ).next s (.process can tick)).session.session ≠ .default := by
          rw [next]
          exact left
        have deadline := s.served_deadline tick arrived (by rw [timed.timing]; exact positive)
          (by rw [timed.timing]; exact noWrap) left
        rw [timed.timing, ← next] at deadline
        refine ⟨timing, fun session => absurd session stays, fun _ => ?_, fun since => ?_⟩
        · refine sinceLast_snoc.mpr (Or.inl ⟨tick, ⟨arrived, can, rfl⟩, ?_⟩)
          rcases deadline with ⟨session, same⟩ | ⟨_, armed⟩
          · exact Or.inl ⟨same.trans (timed.off session), session, stays⟩
          · exact Or.inr armed
        · rcases sinceLast_snoc.mp since with ⟨_, session, _⟩ | ⟨unasked, _⟩
          · rcases deadline with ⟨_, same⟩ | ⟨other, _⟩
            · exact ⟨stays, same.trans (timed.off session)⟩
            · exact absurd session other
          · exact absurd (asks arrived) unasked
      · have quiet : s.served tick = s.session := by rw [served, if_neg arrived]
        rw [quiet] at next
        apply timed.later ((udsServer σ).entry s (.process can tick)) _ next
        intro asked
        obtain ⟨_, requested, _⟩ := asked
        exact arrived requested

theorem boot_timed (transport : IsoTp) (timing : TimingConfig) (onTimeout : Option (σ → σ))
    (reqBuf respBuf : Region Byte) (state : σ) (services : List (IService σ)) :
    Timed timing.s3Ms.toNat [] (boot transport timing onTimeout reqBuf respBuf state services) := by
  have session := boot_session transport timing onTimeout reqBuf respBuf state services
  refine ⟨by rw [session]; rfl, fun _ => by rw [session]; rfl, fun left => ?_, fun since => ?_⟩
  · rw [session] at left
    exact absurd rfl left
  · obtain ⟨earlier, source, between, split, _⟩ := since
    simp at split

theorem Timed.backed (timed : Timed s3 past s) (positive : 0 < s3) (event : ServerEvent)
    (kept : ¬ Abandoned s3 past ((udsServer σ).entry s event)) : Backed s3 past ((udsServer σ).entry s event) := by
  intro can tick called left
  have called : event = .process can tick := called
  subst called
  by_cases arrived : s.requestLen > 0
  · exact ⟨_, List.mem_append_right past List.mem_cons_self, tick, ⟨arrived, can, rfl⟩, by omega⟩
  · have next := s.quiet_session can tick arrived
    rcases s.session.update_cases tick with ⟨lapsed, _⟩ | ⟨stays, _, early⟩
    · exact absurd ((congrArg UdsSession.session next).trans lapsed) left
    · obtain ⟨earlier, source, between, split, ⟨asked, requested, deadline⟩, unasked⟩ := timed.on stays
      have member : source ∈ past ++ [(udsServer σ).entry s (.process can tick)] := by
        rw [split]
        simp
      refine ⟨source, member, asked, requested, Decidable.byContradiction fun late => ?_⟩
      rcases deadline with ⟨_, opened⟩ | ⟨armed, due⟩
      · have silent : ¬ Asked ((udsServer σ).entry s (.process can tick)) := by
          intro again
          obtain ⟨_, requested, _⟩ := again
          exact arrived requested
        exact kept ⟨silent, can, tick, rfl, earlier, source, between, split,
          ⟨asked, requested, opened, Nat.le_of_not_lt late⟩, unasked⟩
      · rcases early with off | early
        · exact armed off
        · have early := BitVec.lt_def.mp early
          omega

/-- Where the tick does not go back, an abandoned session is backed by nothing. -/
theorem Timed.not_backed (timed : Timed s3 past s) (event : ServerEvent)
    (ordered : ∀ earlier other between, past = earlier ++ other :: between →
      ∀ source ∈ earlier, InOrder source.event other.event)
    (abandoned : Abandoned s3 past ((udsServer σ).entry s event)) :
    ¬ Backed s3 past ((udsServer σ).entry s event) := by
  intro backed
  obtain ⟨unasked, can, tick, called, earlier, source, between, split, ⟨asked, requested, left, late⟩, silent⟩ := abandoned
  have called : event = .process can tick := called
  subst called
  have opened : SinceLast Asked (fun source => Asked source ∧ LeavesDefault source) past :=
    ⟨earlier, source, between, split, ⟨⟨asked, requested⟩, left⟩, silent⟩
  obtain ⟨stays, off⟩ := timed.opened opened
  have next := s.quiet_session can tick fun arrived => unasked ⟨tick, arrived, can, rfl⟩
  rw [UdsSession.update_kept s.session tick stays (Or.inl off)] at next
  obtain ⟨other, member, again, ⟨arrived, driver, event⟩, recent⟩ :=
    backed can tick rfl (fun session => stays ((congrArg UdsSession.session next).symm.trans session))
  rcases List.mem_append.mp member with member | member
  · have known : other ∈ earlier ++ source :: between := split ▸ member
    rcases List.mem_append.mp known with before | after
    · have order := ordered earlier source between split other before
      obtain ⟨_, sourceCan, sourceEvent⟩ := requested
      rw [event, sourceEvent] at order
      have order := BitVec.le_def.mp order
      omega
    · rcases List.mem_cons.mp after with rfl | after
      · obtain ⟨_, sourceCan, sourceEvent⟩ := requested
        have same : again = asked := (ServerEvent.process.inj (event.symm.trans sourceEvent)).2
        rw [same] at recent
        omega
      · exact silent other after ⟨again, arrived, driver, event⟩
  · rw [List.mem_singleton.mp member] at arrived event
    exact unasked ⟨again, arrived, driver, event⟩

/-- At every call of every run, a session that is not Default is backed by a recent request unless
    the session is abandoned. -/
theorem s3_fallback_law (transport : IsoTp) (timing : TimingConfig) (onTimeout : Option (σ → σ))
    (reqBuf respBuf : Region Byte) (state : σ) (services : List (IService σ)) (events : List ServerEvent)
    (positive : 0 < timing.s3Ms.toNat) (noWrap : ∀ event ∈ events, NoWrap timing.s3Ms.toNat event)
    (ordered : events.Pairwise InOrder) :
    ∀ past entry later, (udsServer σ).trace (boot transport timing onTimeout reqBuf respBuf state services)
      events = past ++ entry :: later →
      (Backed timing.s3Ms.toNat past entry ↔ ¬ Abandoned timing.s3Ms.toNat past entry) := by
  intro past entry later split
  obtain ⟨first, event, rest, joined, rfl, rfl, _⟩ := (udsServer σ).trace_split split
  have early : ∀ entry ∈ (udsServer σ).trace (boot transport timing onTimeout reqBuf respBuf state services) first,
      NoWrap timing.s3Ms.toNat entry.event := by
    intro entry member
    have called := (udsServer σ).event_of_mem_trace member
    exact noWrap entry.event (by rw [joined]; exact List.mem_append_left _ called)
  have timed := (udsServer σ).trace_invariant
    (fun past s event (timed : Timed timing.s3Ms.toNat past s) noWrap => timed.next positive event noWrap) _ first
    (boot_timed transport timing onTimeout reqBuf respBuf state services) early
  constructor
  · intro backed abandoned
    refine timed.not_backed event ?_ abandoned backed
    intro earlier other between split source member
    obtain ⟨begun, second, others, apart, rfl, rfl, _⟩ := (udsServer σ).trace_split split
    rw [joined, apart] at ordered
    have known := (udsServer σ).event_of_mem_trace member
    exact (List.pairwise_append.mp (List.pairwise_append.mp ordered).1).2.2 _ known _ List.mem_cons_self
  · exact timed.backed positive event

def briefRun : List ServerEvent :=
  [.frame (benchCan 1000) (.make 0x7DF [0x02, 0x10, 0x03] 3), .process (benchCan 1000) 1000,
    .frame (benchCan 5000) (.make 0x7DF [0x03, 0x22, 0xF1, 0x90] 4), .process (benchCan 5000) 5000,
    .process (benchCan 5999) 5999]

theorem briefRun_ticks (can : ICanInterface) (tick : Word) (member : .process can tick ∈ briefRun) :
    1000 ≤ tick.toNat ∧ tick.toNat < 1000 + 5000 := by
  simp only [briefRun, List.mem_cons, ServerEvent.process.injEq, reduceCtorEq, false_or, or_false,
    List.not_mem_nil] at member
  rcases member with ⟨_, rfl⟩ | ⟨_, rfl⟩ | ⟨_, rfl⟩
  · decide
  · decide
  · decide

theorem s3_fallback_law_brief : Backed 5000 ((udsServer Unit).trace bench (briefRun.take 4))
    ((udsServer Unit).entry ((udsServer Unit).run bench (briefRun.take 4)) (.process (benchCan 5999) 5999)) := by
  have noWrap : ∀ event ∈ briefRun, NoWrap kDefaultTiming.s3Ms.toNat event := by
    intro event member
    cases event with
    | frame can frame => exact True.intro
    | process can tick =>
      obtain ⟨_, high⟩ := briefRun_ticks can tick member
      show tick.toNat + 5000 < 2 ^ 32
      omega
  have ordered : briefRun.Pairwise InOrder := by simp [briefRun, InOrder]
  refine (s3_fallback_law _ kDefaultTiming _ _ _ _ _ briefRun (by decide) noWrap ordered _ _ [] rfl).mpr ?_
  intro abandoned
  obtain ⟨_, can, tick, called, earlier, source, between, split, ⟨asked, ⟨_, opener, opened⟩, _, late⟩, _⟩ := abandoned
  have known : source ∈ (udsServer Unit).trace bench (briefRun.take 4) := by
    rw [split]
    simp
  have known := (udsServer Unit).event_of_mem_trace known
  rw [opened] at known
  have early := (briefRun_ticks opener asked (List.mem_of_mem_take known)).1
  have late : asked.toNat + 5000 ≤ tick.toNat := late
  have tick : 5999 = tick := (ServerEvent.process.inj called).2
  rw [← tick] at late
  have recent : (5999 : Word).toNat = 5999 := rfl
  omega

def silentRun : List ServerEvent :=
  [.frame (benchCan 1000) (.make 0x7DF [0x02, 0x10, 0x03] 3), .process (benchCan 1000) 1000,
    .process (benchCan 60000) 60000]

theorem s3_fallback_silent : ¬ ∀ past entry later,
    (udsServer Unit).trace bench silentRun = past ++ entry :: later → Backed 5000 past entry := by
  intro law
  have still : ((udsServer Unit).run bench silentRun).session.session ≠ .default := by decide
  obtain ⟨source, member, asked, ⟨arrived, can, called⟩, recent⟩ :=
    law ((udsServer Unit).trace bench (silentRun.take 2))
      ((udsServer Unit).entry ((udsServer Unit).run bench (silentRun.take 2)) (.process (benchCan 60000) 60000)) []
      rfl (benchCan 60000) 60000 rfl still
  rcases List.mem_append.mp member with member | member
  · have early := (udsServer _).event_of_mem_trace member
    rw [called] at early
    simp only [silentRun, List.take_succ_cons, List.take_zero, List.mem_cons, ServerEvent.process.injEq,
      reduceCtorEq, false_or, or_false, List.not_mem_nil] at early
    rw [early.2] at recent
    exact absurd recent (by decide)
  · rw [List.mem_singleton.mp member] at arrived
    exact absurd arrived (by decide)

end Uds.UdsServer
