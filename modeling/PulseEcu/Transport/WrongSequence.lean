import PulseEcu.Transport.BlockGrants
import PulseEcu.Transport.ReceiveSafety

open Foundation

namespace Uds.Transport

def WrongNumber (entry : Entry) : Prop :=
  (∃ can mem frame, entry.event = .frame can mem frame) ∧ entry.output.returned = some .wrongSn

def Opens (entry : Entry) : Prop := (acceptedSingle entry).isSome = true ∨ (acceptedFirst entry).isSome = true

structure AwaitedBy (s : IsoTp) (frame : CanFrame) : Prop where
  receiving : s.rxState = .receiving
  id : frame.id = s.cfg.rxId
  dlc : frame.dlc ≠ 0
  type : pciType frame = 2
  number : frame.data 0 &&& 0x0F = s.rxSn

def Awaited (entry : Entry) : Prop := ∃ can mem frame, entry.event = .frame can mem frame ∧ AwaitedBy entry.before frame

/-- What is left of a message after a wrong sequence number, seen at a later call: no consecutive frame is
    accepted until another message is opened, and what is handed out was opened after the error. -/
structure Aborted (between : List Entry) (entry : Entry) : Prop where
  discarded : (∀ other ∈ between, ¬ Opens other) → acceptedConsecutive entry = none
  fresh : ∀ bytes, entry.output = .data bytes → bytes ≠ [] → ∃ message, Arrived between message ∧ bytes <+: message

variable {s : IsoTp} {frame : CanFrame}

inductive Accepts (can : ICanInterface) (s : IsoTp) (frame : CanFrame) (outcome : Outcome) : Prop where
  | more (n : Nat) (taken : n = min (s.rxExpected - s.rxReceived) (min 7 (frame.dlc.toNat - 1)))
      (missing : s.rxReceived + n < s.rxExpected) (handled : outcome = ⟨.pending, s.tookConsecutive can frame n, []⟩)
  | last (n : Nat) (taken : n = min (s.rxExpected - s.rxReceived) (min 7 (frame.dlc.toNat - 1)))
      (all : s.rxReceived + n = s.rxExpected) (handled : outcome = ⟨.ok, (s.tookConsecutive can frame n).completed, []⟩)

theorem AwaitedBy.accepts (awaited : AwaitedBy s frame) (invariant : RxInvariant s) (can : ICanInterface) (mem : Memory) :
    Accepts can s frame (s.processFrame can mem frame) := by
  obtain ⟨_, below, _, _⟩ := invariant.receiving awaited.receiving
  have taken := cfCopyLen_eq (s.rxExpected - s.rxReceived) frame awaited.dlc
  have bounded := cfCopyLen_le_remaining (s.rxExpected - s.rxReceived) frame
  rw [IsoTp.processFrame_consecutive can mem s frame awaited.id awaited.dlc awaited.type,
    IsoTp.handleCf_accepts can s frame invariant awaited.receiving awaited.number]
  dsimp only
  split
  · rename_i all
    exact .last _ taken all rfl
  · exact .more _ taken (by omega) rfl

theorem processFrame_taken (can : ICanInterface) (mem : Memory)
    (taken : (s.processFrame can mem frame).result ≠ .error) : frame.id = s.cfg.rxId ∧ frame.dlc ≠ 0 := by
  by_cases unaddressed : frame.id ≠ s.cfg.rxId ∨ frame.dlc = 0
  · rw [IsoTp.processFrame, if_pos unaddressed] at taken
    exact absurd rfl taken
  · obtain ⟨same, dlc⟩ := not_or.mp unaddressed
    exact ⟨Decidable.not_not.mp same, dlc⟩

theorem accepted_iff (type : Byte) (results : List IsoTpResult) (can : ICanInterface) (mem : Memory) :
    (accepted type results (isoTp.entry s (.frame can mem frame))).isSome = true ↔
      pciType frame = type ∧ (s.processFrame can mem frame).result ∈ results := by
  have shown : accepted type results (isoTp.entry s (.frame can mem frame)) =
      if pciType frame = type ∧ (s.processFrame can mem frame).result ∈ results then some frame else none := rfl
  rw [shown, Option.isSome_ite]

/-- Exactly the awaited consecutive frames are accepted, whatever was answered before. -/
theorem acceptedConsecutive_iff (invariant : RxInvariant s) (can : ICanInterface) (mem : Memory) :
    (acceptedConsecutive (isoTp.entry s (.frame can mem frame))).isSome = true ↔ AwaitedBy s frame := by
  rw [acceptedConsecutive, accepted_iff]
  constructor
  · intro accepted
    obtain ⟨type, result⟩ := accepted
    have answered : (s.processFrame can mem frame).result ≠ .error := by
      intro error
      rw [error] at result
      exact absurd result (by decide)
    obtain ⟨id, dlc⟩ := processFrame_taken can mem answered
    cases processFrame_reception can mem s frame invariant with
    | ignored _ _ _ consecutive =>
      obtain ⟨notPending, notOk⟩ := consecutive type
      rcases List.mem_cons.mp result with pending | ok
      · exact absurd pending notPending
      · exact absurd (List.mem_singleton.mp ok) notOk
    | single other => exact absurd (type.symm.trans other) (by decide)
    | first other => exact absurd (type.symm.trans other) (by decide)
    | more n _ receiving sn => exact ⟨receiving, id, dlc, type, sn⟩
    | last n _ receiving sn => exact ⟨receiving, id, dlc, type, sn⟩
  · intro awaited
    refine ⟨awaited.type, ?_⟩
    cases awaited.accepts invariant can mem with
    | more n _ _ handled =>
      rw [handled]
      exact List.mem_cons_self
    | last n _ _ handled =>
      rw [handled]
      exact List.mem_cons_of_mem _ List.mem_cons_self

theorem not_awaited {entry : Entry} (other : ∀ can mem frame, entry.event ≠ .frame can mem frame) : ¬ Awaited entry := by
  intro awaited
  obtain ⟨can, mem, frame, same, _⟩ := awaited
  exact other can mem frame same

theorem awaited_iff (invariant : RxInvariant s) (event : Event) :
    (acceptedConsecutive (isoTp.entry s event)).isSome = true ↔ Awaited (isoTp.entry s event) := by
  cases event with
  | frame can mem frame =>
    rw [acceptedConsecutive_iff invariant]
    constructor
    · intro awaited
      exact ⟨can, mem, frame, rfl, awaited⟩
    · intro awaited
      obtain ⟨_, _, _, same, awaited⟩ := awaited
      cases same
      exact awaited
  | update now => exact iff_of_false Bool.false_ne_true (not_awaited fun _ _ _ same => nomatch same)
  | send can mem data length => exact iff_of_false Bool.false_ne_true (not_awaited fun _ _ _ same => nomatch same)
  | getData given maxLen => exact iff_of_false Bool.false_ne_true (not_awaited fun _ _ _ same => nomatch same)

theorem awaited_run (cfg : IsoTpConfig) (rxBuf : Region Byte) (events : List Event) :
    ∀ entry ∈ isoTp.trace (.create cfg rxBuf) events, ((acceptedConsecutive entry).isSome = true ↔ Awaited entry) :=
  isoTp.trace_shows (fun s event (invariant : RxInvariant s) => invariant.next event)
    (fun _ event invariant => awaited_iff invariant event) _ events (RxInvariant.create cfg rxBuf)

/-- Only an accepted single frame or consecutive frame makes a message ready. -/
theorem ready_next (invariant : RxInvariant s) (event : Event) (ready : (isoTp.next s event).dataReady = true) :
    s.dataReady = true ∨ Opens (isoTp.entry s event) ∨ (acceptedConsecutive (isoTp.entry s event)).isSome = true := by
  cases event with
  | frame can mem frame =>
    by_cases made : Opens (isoTp.entry s (.frame can mem frame)) ∨
        (acceptedConsecutive (isoTp.entry s (.frame can mem frame))).isSome = true
    · exact Or.inr made
    · obtain ⟨closed, consecutive⟩ := not_or.mp made
      obtain ⟨single, first⟩ := not_or.mp closed
      have rx := unaccepted_rx invariant can mem frame (Option.not_isSome_iff_eq_none.mp single)
        (Option.not_isSome_iff_eq_none.mp first) (Option.not_isSome_iff_eq_none.mp consecutive)
      have same : (s.processFrame can mem frame).state.dataReady = s.dataReady := congrArg RxView.ready rx
      exact Or.inl (same.symm.trans ready)
  | update now =>
    have same : (s.update now).dataReady = s.dataReady := by
      by_cases expired : s.rxState = .receiving ∧ s.rxDeadline > 0 ∧ now ≥ s.rxDeadline
      · exact congrArg RxView.ready (IsoTp.update_rx_expired expired)
      · exact congrArg RxView.ready (IsoTp.update_rx_early expired)
    exact Or.inl (same.symm.trans ready)
  | send can mem data length =>
    have same : (s.send can mem data length).state.dataReady = s.dataReady := congrArg RxView.ready (IsoTp.send_rx ..)
    exact Or.inl (same.symm.trans ready)
  | getData given maxLen =>
    have ready : (s.getData given maxLen).2.dataReady = true := ready
    simp only [IsoTp.getData] at ready
    split at ready
    · exact Or.inl ready
    · cases ready

theorem ready_run (invariant : RxInvariant s) (events : List Event) (ready : (isoTp.run s events).dataReady = true) :
    s.dataReady = true ∨
      ∃ entry ∈ isoTp.trace s events, Opens entry ∨ (acceptedConsecutive entry).isSome = true := by
  induction events generalizing s with
  | nil => exact Or.inl ready
  | cons event events ih =>
    rcases ih (invariant.next event) ready with before | ⟨entry, member, made⟩
    · rcases ready_next invariant event before with already | made
      · exact Or.inl already
      · exact Or.inr ⟨_, List.mem_cons_self, made⟩
    · exact Or.inr ⟨entry, List.mem_cons_of_mem _ member, made⟩

theorem Sweep.result_ne {can : ICanInterface} {mem : Memory} {n : Nat} {sent : List CanFrame} {outcome : Outcome}
    (sweep : Sweep can mem s n sent outcome) : outcome.result ≠ .wrongSn := by
  intro wrong
  cases sweep with
  | refused => cases wrong
  | paused => cases wrong
  | finished => cases wrong

theorem handleFc_result (can : ICanInterface) (mem : Memory) (s : IsoTp) (frame : CanFrame) :
    (s.handleFc can mem frame).result ≠ .wrongSn := by
  intro wrong
  simp only [IsoTp.handleFc] at wrong
  split at wrong
  · cases wrong
  · split at wrong
    · cases wrong
    · split at wrong
      · cases wrong
      · split at wrong
        · cases wrong
        · split at wrong
          · cases wrong
          · exact (sendNextCfLoop_sweep can mem _ (s.opened frame) [] (Nat.le_refl _)).result_ne wrong

/-- A wrong sequence number is found only while a message is under way, and leaves the receiver as it was. -/
theorem wrongSn_spec (invariant : RxInvariant s) (can : ICanInterface) (mem : Memory)
    (wrong : (s.processFrame can mem frame).result = .wrongSn) :
    s.rxState = .receiving ∧ (s.processFrame can mem frame).state = s := by
  revert wrong
  apply IsoTp.processFrame_cases fun outcome => outcome.result = .wrongSn → s.rxState = .receiving ∧ outcome.state = s
  · intro wrong
    cases wrong
  · intro _ wrong
    rcases IsoTp.handleSf_spec s frame with refused | ⟨_, _, accepted⟩
    · rw [refused] at wrong
      cases wrong
    · rw [accepted] at wrong
      cases wrong
  · intro _ wrong
    rcases IsoTp.handleFf_spec can s frame with ⟨refused, _⟩ | ⟨_, accepted⟩
    · rw [refused] at wrong
      cases wrong
    · rw [accepted] at wrong
      cases wrong
  · intro _ wrong
    rcases IsoTp.handleCf_spec can s frame invariant with ⟨refused, _⟩ | ⟨refused, receiving⟩ | ⟨receiving, _, accepted⟩
    · rw [refused] at wrong
      cases wrong
    · rw [refused]
      exact ⟨receiving, rfl⟩
    · rw [accepted] at wrong
      dsimp only at wrong
      split at wrong
      · cases wrong
      · cases wrong
  · intro _ wrong
    exact absurd wrong (handleFc_result can mem s frame)

theorem WrongNumber.not_ready (invariant : RxInvariant s) {event : Event} (wrong : WrongNumber (isoTp.entry s event)) :
    (isoTp.next s event).dataReady = false := by
  obtain ⟨⟨can, mem, frame, same⟩, returned⟩ := wrong
  have same : event = .frame can mem frame := same
  subst same
  obtain ⟨receiving, kept⟩ := wrongSn_spec invariant can mem (Option.some.inj returned)
  have kept : isoTp.next s (.frame can mem frame) = s := kept
  rw [kept]
  exact (invariant.receiving receiving).2.2.2

theorem WrongNumber.not_opens {entry : Entry} (wrong : WrongNumber entry) : ¬ Opens entry := by
  have refused : ∀ type results, .wrongSn ∉ results → accepted type results entry = none := by
    intro type results other
    obtain ⟨before, event, after, output⟩ := entry
    obtain ⟨⟨can, mem, frame, same⟩, returned⟩ := wrong
    cases same
    cases output with
    | result answer sent =>
      have answer : answer = .wrongSn := Option.some.inj returned
      rw [← answer] at other
      exact if_neg fun both => other both.2
    | data bytes => rfl
    | none => rfl
  intro opens
  rcases opens with single | first
  · rw [acceptedSingle, refused 0 [.ok] (by decide)] at single
    cases single
  · rw [acceptedFirst, refused 1 [.pending] (by decide)] at first
    cases first

theorem Neutral.not_opens {entry : Entry} (neutral : Neutral entry) : ¬ Opens entry := by
  intro opens
  rcases opens with single | first
  · rw [neutral.single] at single
    cases single
  · rw [neutral.first] at first
    cases first

theorem getData_prefix (s : IsoTp) (given : Bool) (maxLen : Nat) (some : (s.getData given maxLen).1 ≠ []) :
    s.dataReady = true ∧ (s.getData given maxLen).1 <+: s.rxBuf.load 0 s.rxReceived := by
  by_cases nothing : s.dataReady = false ∨ given = false
  · rw [IsoTp.getData, if_pos nothing] at some
    exact absurd rfl some
  · have count : (if s.rxReceived < maxLen then s.rxReceived else maxLen) = min maxLen s.rxReceived := by
      split <;> omega
    have handed : (s.getData given maxLen).1 = (s.rxBuf.load 0 s.rxReceived).take maxLen := by
      simp only [IsoTp.getData, if_neg nothing, count, Region.load_take]
    rw [handed]
    exact ⟨by simpa using (not_or.mp nothing).1, List.take_prefix maxLen _⟩

variable {past between : List Entry} {wrong : Entry}

theorem Arrived.after {message : List Byte} (arrived : Arrived (past ++ wrong :: between) message)
    (closed : ¬ Opens wrong) : Arrived between message ∨ ∀ entry ∈ between, Neutral entry := by
  obtain ⟨earlier, start, later, split, neutral, opening⟩ := arrived
  rcases Machine.split_split split with ⟨rest, _, whole⟩ | ⟨_, same, _⟩ | ⟨rest, _, whole⟩
  · right
    intro entry member
    apply neutral
    rw [whole]
    exact List.mem_append_right _ (List.mem_cons_of_mem _ member)
  · exfalso
    rw [← same] at closed
    rcases opening with ⟨frame, entered, _⟩ | ⟨frame, entered, _⟩
    · exact closed (Or.inl (by rw [entered]; rfl))
    · exact closed (Or.inr (by rw [entered]; rfl))
  · exact Or.inl ⟨rest, start, later, whole, neutral, opening⟩

theorem WrongNumber.ready_since {cfg : IsoTpConfig} {rxBuf : Region Byte} {events : List Event} (mismatch : WrongNumber wrong)
    (recorded : isoTp.trace (.create cfg rxBuf) events = past ++ wrong :: between)
    (ready : (isoTp.run (.create cfg rxBuf) events).dataReady = true) :
    ∃ entry ∈ between, Opens entry ∨ (acceptedConsecutive entry).isSome = true := by
  obtain ⟨first, event, rest, joined, _, same, after⟩ := isoTp.trace_split recorded
  have invariant := RxInvariant.run cfg rxBuf first
  have resumed : isoTp.run (.create cfg rxBuf) events =
      isoTp.run (isoTp.next (isoTp.run (.create cfg rxBuf) first) event) rest := by
    rw [joined]
    exact List.foldl_append
  rw [resumed] at ready
  rw [same] at mismatch
  rw [after]
  rcases ready_run (invariant.next event) rest ready with already | made
  · exact absurd ((mismatch.not_ready invariant).symm.trans already) (by decide)
  · exact made

/-- A wrong sequence number ends the message under way exactly when the frame that the message
    waits for does not come any more before another message is opened. -/
theorem reception_aborted_iff (cfg : IsoTpConfig) (rxBuf : Region Byte) (events : List Event) :
    (∀ past wrong between entry later,
        isoTp.trace (.create cfg rxBuf) events = past ++ wrong :: (between ++ entry :: later) →
          WrongNumber wrong → Aborted between entry) ↔
      ∀ past wrong between entry later,
        isoTp.trace (.create cfg rxBuf) events = past ++ wrong :: (between ++ entry :: later) →
          WrongNumber wrong → (∀ other ∈ between, ¬ Opens other) → ¬ Awaited entry := by
  have each := awaited_run cfg rxBuf events
  constructor
  · intro aborted past wrong between entry later split mismatch unopened awaited
    have recorded : entry ∈ isoTp.trace (.create cfg rxBuf) events := by
      rw [split]
      simp
    have accepted := (each entry recorded).mpr awaited
    rw [(aborted past wrong between entry later split mismatch).discarded unopened] at accepted
    cases accepted
  · intro stopped past wrong between entry later split mismatch
    have discarded : ∀ earlier other after, between ++ entry :: later = earlier ++ other :: after →
        (∀ one ∈ earlier, ¬ Opens one) → acceptedConsecutive other = none := by
      intro earlier other after parts unopened
      rw [parts] at split
      have recorded : other ∈ isoTp.trace (.create cfg rxBuf) events := by
        rw [split]
        simp
      have refused := mt (each other recorded).mp (stopped past wrong earlier other after split mismatch unopened)
      exact Option.not_isSome_iff_eq_none.mp refused
    constructor
    · exact discarded between entry later rfl
    · intro bytes output some
      have regrouped : isoTp.trace (.create cfg rxBuf) events = (past ++ wrong :: between) ++ entry :: later := by
        rw [split]
        simp
      obtain ⟨first, event, _, _, recorded, rfl, _⟩ := isoTp.trace_split regrouped
      have history := run_history cfg rxBuf first
      cases event with
      | frame can mem frame => cases output
      | update now => cases output
      | send can mem data length => cases output
      | getData given maxLen =>
        have handed : ((isoTp.run (.create cfg rxBuf) first).getData given maxLen).1 = bytes := Output.data.inj output
        rw [← handed] at some ⊢
        obtain ⟨ready, inside⟩ := getData_prefix _ given maxLen some
        have arrived := history.ready ready
        rw [← recorded] at arrived
        rcases arrived.after mismatch.not_opens with fresh | neutral
        · exact ⟨_, fresh, inside⟩
        · exfalso
          obtain ⟨other, member, made⟩ := mismatch.ready_since recorded.symm ready
          rcases made with opens | accepted
          · exact (neutral other member).not_opens opens
          · obtain ⟨earlier, after, parts⟩ := List.append_of_mem member
            have none := discarded earlier other _ (by rw [parts, List.append_assoc]; rfl) fun one inside =>
              (neutral one (by rw [parts]; exact List.mem_append_left _ inside)).not_opens
            rw [none] at accepted
            cases accepted

def repeatedFrame : List Event :=
  fedFirst :: [fedFrame (0x22 :: segment twentyBytes 1), fedFrame (0x21 :: segment twentyBytes 0),
    fedFrame (0x22 :: segment twentyBytes 1)]

theorem resumed_after_wrong_number :
    ¬ ∀ past wrong between entry later, isoTp.trace (.create kDefaultIsoTpConfig (Region.fill 0)) repeatedFrame =
        past ++ wrong :: (between ++ entry :: later) → WrongNumber wrong → Aborted between entry := by
  intro aborted
  have ended := aborted (isoTp.trace (.create kDefaultIsoTpConfig (Region.fill 0)) (repeatedFrame.take 1)) _ [] _ _ rfl
    ⟨⟨_, _, _, rfl⟩, by decide⟩
  have none := ended.discarded (List.forall_mem_nil _)
  exact absurd (congrArg Option.isSome none) (by decide)

end Uds.Transport
