import PulseEcu.Transport.WrongSequence

open Foundation

namespace Uds.Transport

def IsoTp.wanted (s : IsoTp) : Nat := min 7 (s.rxExpected - s.rxReceived)

def Short (entry : Entry) : Prop :=
  ∃ can mem frame, entry.event = .frame can mem frame ∧ AwaitedBy entry.before frame ∧
    frame.dlc.toNat - 1 < entry.before.wanted

/-- A consecutive frame brings all that it has to bring, or it changes nothing. -/
structure FullProgress (entry : Entry) : Prop where
  grows : ∀ frame, acceptedConsecutive entry = some frame → frame.dlc.toNat ≤ 8 →
    entry.after.rxReceived = entry.before.rxReceived + entry.before.wanted
  rejected : ∀ can mem frame, entry.event = .frame can mem frame → pciType frame = 2 →
    entry.before.rxState = .receiving → frame.dlc.toNat - 1 < entry.before.wanted →
      acceptedConsecutive entry = none ∧ entry.after.rxSn = entry.before.rxSn ∧
        entry.after.rxReceived = entry.before.rxReceived ∧ entry.after.rxDeadline = entry.before.rxDeadline

structure Continued (start : Entry) (first : CanFrame) (body : List Entry) (final : Entry) : Prop where
  opened : acceptedFirst start = some first
  running : ∀ entry ∈ body, Neutral entry ∧ ¬ Completes entry
  accepted : (acceptedConsecutive final).isSome = true

structure Gathered (total count : Nat) (s : IsoTp) : Prop where
  receiving : s.rxState = .receiving
  expected : s.rxExpected = total
  received : s.rxReceived = 6 + 7 * count

variable {s : IsoTp} {frame : CanFrame} {total count : Nat}

theorem short_frame (can : ICanInterface) (mem : Memory) (s : IsoTp) (frame : CanFrame) :
    Short (isoTp.entry s (.frame can mem frame)) ↔ AwaitedBy s frame ∧ frame.dlc.toNat - 1 < s.wanted := by
  constructor
  · intro short
    obtain ⟨_, _, _, same, awaited, few⟩ := short
    cases same
    exact ⟨awaited, few⟩
  · intro short
    exact ⟨can, mem, frame, rfl, short⟩

theorem accepted_event {event : Event} (accepted : (acceptedConsecutive (isoTp.entry s event)).isSome = true) :
    ∃ can mem frame, event = .frame can mem frame := by
  cases event with
  | frame can mem frame => exact ⟨can, mem, frame, rfl⟩
  | update now => cases accepted
  | send can mem data length => cases accepted
  | getData given maxLen => cases accepted

theorem Accepts.full {can : ICanInterface} {outcome : Outcome} (accepts : Accepts can s frame outcome)
    (receiving : s.rxState = .receiving) (enough : s.wanted ≤ frame.dlc.toNat - 1) :
    outcome.state.rxReceived = s.rxReceived + s.wanted ∧
      (outcome.result = .ok ∧ s.rxReceived + s.wanted = s.rxExpected ∨
        outcome.result = .pending ∧ s.rxReceived + s.wanted < s.rxExpected ∧
          outcome.state.rxState = .receiving ∧ outcome.state.rxExpected = s.rxExpected) := by
  have copied : min (s.rxExpected - s.rxReceived) (min 7 (frame.dlc.toNat - 1)) = s.wanted := by
    unfold IsoTp.wanted at enough ⊢
    omega
  cases accepts with
  | more n taken missing handled =>
    rw [taken, copied] at handled missing
    rw [handled]
    exact ⟨rfl, Or.inr ⟨rfl, missing, receiving, rfl⟩⟩
  | last n taken all handled =>
    rw [taken, copied] at handled all
    rw [handled]
    exact ⟨rfl, Or.inl ⟨rfl, all⟩⟩

theorem consecutive_refused (invariant : RxInvariant s) (can : ICanInterface) (mem : Memory) (type : pciType frame = 2)
    (other : ¬ AwaitedBy s frame) : acceptedConsecutive (isoTp.entry s (.frame can mem frame)) = none ∧
      (s.processFrame can mem frame).state.rx = s.rx := by
  have neutral := consecutive_neutral s can mem frame type
  have refused := Option.not_isSome_iff_eq_none.mp (mt (acceptedConsecutive_iff invariant can mem).mp other)
  exact ⟨refused, unaccepted_rx invariant can mem frame neutral.single neutral.first refused⟩

theorem enough_bytes (can : ICanInterface) (mem : Memory) (awaited : AwaitedBy s frame)
    (enough : ¬ Short (isoTp.entry s (.frame can mem frame))) : s.wanted ≤ frame.dlc.toNat - 1 := by
  apply Nat.le_of_not_lt
  intro few
  exact enough ((short_frame can mem s frame).mpr ⟨awaited, few⟩)

/-- A call that neither opens nor continues nor ends a message leaves one under way as it is. -/
theorem neutral_rx (invariant : RxInvariant s) (receiving : s.rxState = .receiving) (event : Event)
    (neutral : Neutral (isoTp.entry s event)) (none : acceptedConsecutive (isoTp.entry s event) = none) :
    (isoTp.next s event).rx = s.rx := by
  cases event with
  | frame can mem frame => exact unaccepted_rx invariant can mem frame neutral.single neutral.first none
  | update now =>
    by_cases expired : s.rxState = .receiving ∧ s.rxDeadline > 0 ∧ now ≥ s.rxDeadline
    · have dropped := IsoTp.update_rx_expired expired
      exact absurd ⟨⟨now, rfl⟩, receiving, congrArg RxView.state dropped⟩ neutral.running
    · exact IsoTp.update_rx_early expired
  | send can mem data length => exact IsoTp.send_rx ..
  | getData given maxLen =>
    have quiet := (invariant.receiving receiving).2.2.2
    have unchanged : (s.getData given maxLen).2 = s := by simp [IsoTp.getData, quiet]
    exact congrArg IsoTp.rx unchanged

theorem Gathered.of_rx {t : IsoTp} (same : t.rx = s.rx) (gathered : Gathered total count s) : Gathered total count t := by
  simp only [IsoTp.rx, RxView.mk.injEq] at same
  obtain ⟨state, _, expected, received, _⟩ := same
  exact ⟨state.trans gathered.receiving, expected.trans gathered.expected, received.trans gathered.received⟩

theorem Gathered.begin {event : Event} (invariant : RxInvariant s) {first : CanFrame}
    (opened : acceptedFirst (isoTp.entry s event) = some first) :
    Gathered (ffLength first).toNat 0 (isoTp.next s event) := by
  cases event with
  | frame can mem frame =>
    have some : (accepted 1 [.pending] (isoTp.entry s (.frame can mem frame))).isSome = true := by
      rw [← acceptedFirst, opened]
      rfl
    obtain ⟨type, result⟩ := (accepted_iff 1 _ can mem).mp some
    have entered := accepted_eq_some 1 [.pending] s can mem frame type result
    have same : frame = first := Option.some.inj (entered.symm.trans opened)
    rw [← same]
    cases processFrame_reception can mem s frame invariant with
    | ignored _ _ first _ => exact absurd (List.mem_singleton.mp result) (first type)
    | single other => exact absurd (type.symm.trans other) (by decide)
    | first _ _ outcome =>
      have state : isoTp.next s (.frame can mem frame) = s.tookFirst can frame (ffLength frame).toNat :=
        congrArg Outcome.state outcome
      rw [state]
      exact ⟨rfl, rfl, rfl⟩
    | more n other => exact absurd (type.symm.trans other) (by decide)
    | last n other => exact absurd (type.symm.trans other) (by decide)
  | update now => cases opened
  | send can mem data length => cases opened
  | getData given maxLen => cases opened

theorem Gathered.accepted (gathered : Gathered total count s) (invariant : RxInvariant s) {event : Event}
    (accepted : (acceptedConsecutive (isoTp.entry s event)).isSome = true) (enough : ¬ Short (isoTp.entry s event)) :
    Completes (isoTp.entry s event) ∧ count + 1 = cfCount total ∨
      ¬ Completes (isoTp.entry s event) ∧ count + 1 ≠ cfCount total ∧ Gathered total (count + 1) (isoTp.next s event) := by
  obtain ⟨can, mem, frame, rfl⟩ := accepted_event accepted
  have awaited := (acceptedConsecutive_iff invariant can mem).mp accepted
  have room := enough_bytes can mem awaited enough
  obtain ⟨_, below, _, _⟩ := invariant.receiving gathered.receiving
  obtain ⟨grown, ends⟩ := (awaited.accepts invariant can mem).full gathered.receiving room
  have share : s.wanted = min 7 (s.rxExpected - s.rxReceived) := rfl
  rw [gathered.expected, gathered.received] at share below ends
  rw [gathered.received] at grown
  rcases ends with ⟨ok, all⟩ | ⟨pending, missing, receiving, expected⟩
  · left
    have last : count + 1 = cfCount total := by
      unfold cfCount
      omega
    exact ⟨⟨accepted, congrArg some ok⟩, last⟩
  · right
    have unfinished : ¬ Completes (isoTp.entry s (.frame can mem frame)) := by
      intro completes
      have ok : (s.processFrame can mem frame).result = .ok := Option.some.inj completes.2
      exact absurd (pending.symm.trans ok) (by decide)
    have further : count + 1 ≠ cfCount total := by
      unfold cfCount
      omega
    have received : (s.processFrame can mem frame).state.rxReceived = 6 + 7 * (count + 1) := by omega
    exact ⟨unfinished, further, receiving, expected, received⟩

theorem Gathered.next (gathered : Gathered total count s) (invariant : RxInvariant s) (event : Event)
    (running : Neutral (isoTp.entry s event) ∧ ¬ Completes (isoTp.entry s event))
    (enough : ¬ Short (isoTp.entry s event)) :
    Gathered total (count + acceptedCount [isoTp.entry s event]) (isoTp.next s event) := by
  cases entered : acceptedConsecutive (isoTp.entry s event) with
  | none =>
    have zero : acceptedCount [isoTp.entry s event] = 0 := by simp [acceptedCount, entered]
    rw [zero]
    exact gathered.of_rx (neutral_rx invariant gathered.receiving event running.1 entered)
  | some frame =>
    have accepted : (acceptedConsecutive (isoTp.entry s event)).isSome = true := by
      rw [entered]
      rfl
    rw [acceptedCount_single accepted]
    rcases gathered.accepted invariant accepted enough with ⟨completes, _⟩ | ⟨_, _, further⟩
    · exact absurd completes running.2
    · exact further

theorem Gathered.run (gathered : Gathered total count s) (invariant : RxInvariant s) (events : List Event)
    (running : ∀ entry ∈ isoTp.trace s events, Neutral entry ∧ ¬ Completes entry)
    (enough : ∀ entry ∈ isoTp.trace s events, ¬ Short entry) :
    Gathered total (count + acceptedCount (isoTp.trace s events)) (isoTp.run s events) := by
  induction events generalizing s count with
  | nil => exact gathered
  | cons event events ih =>
    simp only [Machine.trace, List.mem_cons, forall_eq_or_imp] at running enough
    have step := gathered.next invariant event running.1 enough.1
    have rest := ih step (invariant.next event) running.2 enough.2
    have split := acceptedCount_append [isoTp.entry s event] (isoTp.trace (isoTp.next s event) events)
    rw [Nat.add_assoc, ← split] at rest
    exact rest

theorem fullProgress_iff (invariant : RxInvariant s) (event : Event) :
    FullProgress (isoTp.entry s event) ↔ ¬ Short (isoTp.entry s event) := by
  constructor
  · intro progress short
    obtain ⟨can, mem, frame, rfl, awaited, few⟩ := short
    have accepted := (acceptedConsecutive_iff invariant can mem).mpr awaited
    rw [(progress.rejected can mem frame rfl awaited.type awaited.receiving few).1] at accepted
    cases accepted
  · intro enough
    constructor
    · intro frame entered _
      have accepted : (acceptedConsecutive (isoTp.entry s event)).isSome = true := by
        rw [entered]
        rfl
      obtain ⟨can, mem, other, rfl⟩ := accepted_event accepted
      have awaited := (acceptedConsecutive_iff invariant can mem).mp accepted
      have room := enough_bytes can mem awaited enough
      exact ((awaited.accepts invariant can mem).full awaited.receiving room).1
    · intro can mem frame same type receiving few
      have same : event = .frame can mem frame := same
      subst same
      have other : ¬ AwaitedBy s frame := fun awaited => enough ((short_frame can mem s frame).mpr ⟨awaited, few⟩)
      obtain ⟨refused, kept⟩ := consecutive_refused invariant can mem type other
      exact ⟨refused, congrArg RxView.sn kept, congrArg RxView.received kept, congrArg RxView.deadline kept⟩

/-- The consecutive frame that completes a message is the last of as many as its length asks for. -/
theorem completes_at_count {cfg : IsoTpConfig} {rxBuf : Region Byte} {events : List Event} {past body later : List Entry}
    {start final : Entry} {first : CanFrame}
    (split : isoTp.trace (.create cfg rxBuf) events = past ++ start :: (body ++ final :: later))
    (enough : ∀ entry ∈ isoTp.trace (.create cfg rxBuf) events, ¬ Short entry) (continued : Continued start first body final) :
    Completes final ↔ acceptedCount body + 1 = cfCount (ffLength first).toNat := by
  rw [split] at enough
  obtain ⟨fore, opening, after, _, _, same, rest⟩ := isoTp.trace_split split
  have invariant := RxInvariant.run cfg rxBuf fore
  obtain ⟨middle, event, _, _, passed, last, _⟩ := isoTp.trace_split rest.symm
  have opened := continued.opened
  rw [same] at opened
  have begun := Gathered.begin invariant opened
  have gathered := begun.run (invariant.next opening) middle
    (by rw [← passed]; exact continued.running)
    (by
      intro entry member
      rw [← passed] at member
      exact enough entry (by simp [member]))
  rw [← passed, Nat.zero_add] at gathered
  have reached : RxInvariant (isoTp.run (isoTp.next (isoTp.run (.create cfg rxBuf) fore) opening) middle) :=
    isoTp.run_invariant_all (fun _ event holds => holds.next event) _ middle (invariant.next opening)
  have room : ¬ Short final := enough final (by simp)
  have accepted := continued.accepted
  rw [last] at room accepted ⊢
  rcases gathered.accepted reached accepted room with ⟨completes, count⟩ | ⟨unfinished, count, _⟩
  · exact iff_of_true completes count
  · exact iff_of_false unfinished count

/-- Every accepted consecutive frame brings a message on by its full share, and completes it at the count
    that its length gives, exactly when no frame that a message waits for comes short. -/
theorem full_progress_iff (cfg : IsoTpConfig) (rxBuf : Region Byte) (events : List Event) :
    ((∀ entry ∈ isoTp.trace (.create cfg rxBuf) events, FullProgress entry) ∧
      ∀ past start body final later,
        isoTp.trace (.create cfg rxBuf) events = past ++ start :: (body ++ final :: later) →
          ∀ first, Continued start first body final →
            (Completes final ↔ acceptedCount body + 1 = cfCount (ffLength first).toNat)) ↔
      ∀ entry ∈ isoTp.trace (.create cfg rxBuf) events, ¬ Short entry := by
  have each : ∀ entry ∈ isoTp.trace (.create cfg rxBuf) events, (FullProgress entry ↔ ¬ Short entry) :=
    isoTp.trace_shows (fun s event (invariant : RxInvariant s) => invariant.next event)
      (fun _ event invariant => fullProgress_iff invariant event) _ events (RxInvariant.create cfg rxBuf)
  constructor
  · intro progress entry member
    exact (each entry member).mp (progress.1 entry member)
  · intro enough
    apply And.intro
    · intro entry member
      exact (each entry member).mpr (enough entry member)
    · intro past start body final later split first continued
      exact completes_at_count split enough continued

def emptyConsecutive : List Event :=
  [fedFirst, .frame .ready twentyMemory (.make kDefaultIsoTpConfig.rxId [0x21] 1)]

theorem empty_frame_accepted :
    ¬ ((∀ entry ∈ isoTp.trace (.create kDefaultIsoTpConfig (Region.fill 0)) emptyConsecutive, FullProgress entry) ∧
      ∀ past start body final later,
        isoTp.trace (.create kDefaultIsoTpConfig (Region.fill 0)) emptyConsecutive =
            past ++ start :: (body ++ final :: later) →
          ∀ first, Continued start first body final →
            (Completes final ↔ acceptedCount body + 1 = cfCount (ffLength first).toNat)) := by
  intro progress
  have rejected := (progress.1 _ (List.mem_cons_of_mem _ List.mem_cons_self)).rejected _ _ _ rfl rfl rfl (by decide)
  exact absurd (congrArg Option.isSome rejected.1) (by decide)

end Uds.Transport
