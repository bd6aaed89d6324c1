import PulseEcu.Transport.Sweep

open Foundation

namespace Uds.Transport

def ContinuedBy (s : IsoTp) (frame : CanFrame) : Prop := s.txState = .waitFc ∧ IsFc s.cfg kFcCts frame

def AbortedBy (s : IsoTp) (frame : CanFrame) : Prop :=
  s.txState = .waitFc ∧ IsFc s.cfg (frame.data 0 &&& 0x0F) frame ∧
    frame.data 0 &&& 0x0F ≠ kFcCts ∧ frame.data 0 &&& 0x0F ≠ kFcWait

instance (s : IsoTp) (frame : CanFrame) : Decidable (ContinuedBy s frame) := inferInstanceAs (Decidable (_ ∧ _))

instance (s : IsoTp) (frame : CanFrame) : Decidable (AbortedBy s frame) := inferInstanceAs (Decidable (_ ∧ _))

def Continues (entry : Entry) : Prop :=
  ∃ can mem frame, entry.event = .frame can mem frame ∧ ContinuedBy entry.before frame

def Aborts (entry : Entry) : Prop := ∃ can mem frame, entry.event = .frame can mem frame ∧ AbortedBy entry.before frame

def Starts (entry : Entry) : Prop :=
  ∃ can mem data length, entry.event = .send can mem (some data) length ∧ Multi can length

variable {s : IsoTp}

theorem continues_frame (can : ICanInterface) (mem : Memory) (frame : CanFrame) :
    Continues (isoTp.entry s (.frame can mem frame)) ↔ ContinuedBy s frame := by
  constructor
  · intro continues
    obtain ⟨_, _, _, same, continued⟩ := continues
    cases same
    exact continued
  · intro continued
    exact ⟨can, mem, frame, rfl, continued⟩

theorem not_continues {entry : Entry} (other : ∀ can mem frame, entry.event ≠ .frame can mem frame) :
    ¬ Continues entry := by
  intro continues
  obtain ⟨can, mem, frame, same, _⟩ := continues
  exact other can mem frame same

theorem TxEffect.sent_iff {can : ICanInterface} {mem : Memory} {frame : CanFrame} {outcome : Outcome}
    (effect : TxEffect can mem s frame outcome) (invariant : TxInvariant s) :
    cfsOf outcome.sent = [] ↔ ¬ ContinuedBy s frame := by
  cases effect with
  | quiet _ sent unanswered =>
    refine iff_of_true (cfsOf_eq_nil fun reply member => ?_) fun continued => unanswered _ continued.2 continued.1
    rw [sent reply member]
    exact fcFrame_not_cf s _ _ _
  | waited _ fc handled =>
    rw [handled]
    exact iff_of_true rfl fun continued => absurd (fc.2.2.2.symm.trans continued.2.2.2.2) (by decide)
  | aborted _ _ fc other _ sent =>
    rw [sent]
    exact iff_of_true rfl fun continued => other.1 (fc.2.2.2.symm.trans continued.2.2.2.2)
  | swept waiting fc sweep =>
    obtain ⟨count, sent, _, some, _⟩ := sweep.handed
    have left := s.framesLeft_pos.mpr (invariant.unfinished waiting)
    have pos := some (blockFrames_pos.mpr left)
    refine iff_of_false (fun none => ?_) (not_not_intro ⟨waiting, fc⟩)
    have length := IsoTp.nextCfs_length mem (s.opened frame) count
    rw [sent, IsoTp.cfsOf_nextCfs] at none
    rw [none] at length
    exact absurd length (Nat.ne_of_lt pos)

/-- Consecutive frames go out on a flow control frame that lets the transmitter continue, and only then. -/
theorem sent_iff (invariant : TxInvariant s) (event : Event) :
    cfsOf (isoTp.entry s event).output.sent = [] ↔ ¬ Continues (isoTp.entry s event) := by
  cases event with
  | frame can mem frame =>
    rw [continues_frame]
    exact (processFrame_effect can mem s frame).sent_iff invariant
  | update now => exact iff_of_true rfl (not_continues fun _ _ _ same => nomatch same)
  | send can mem data length =>
    exact iff_of_true (cfsOf_eq_nil (send_sent can s data length)) (not_continues fun _ _ _ same => nomatch same)
  | getData given maxLen => exact iff_of_true rfl (not_continues fun _ _ _ same => nomatch same)

theorem sent_run (cfg : IsoTpConfig) (rxBuf : Region Byte) (events : List Event) :
    ∀ entry ∈ isoTp.trace (.create cfg rxBuf) events, (cfsOf entry.output.sent = [] ↔ ¬ Continues entry) :=
  isoTp.trace_shows (fun s event (invariant : TxInvariant s) => invariant.next event)
    (fun _ event invariant => sent_iff invariant event) _ events (TxInvariant.create cfg rxBuf)

/-- After the peer has aborted a transmission none of its frames goes out exactly when no frame tells
    the transmitter to continue before another message is started. -/
theorem peer_abort_final_iff (cfg : IsoTpConfig) (rxBuf : Region Byte) (events : List Event) :
    (∀ past entry later, isoTp.trace (.create cfg rxBuf) events = past ++ entry :: later →
        SinceLast Starts Aborts past → cfsOf entry.output.sent = []) ↔
      ∀ past entry later, isoTp.trace (.create cfg rxBuf) events = past ++ entry :: later →
        SinceLast Starts Aborts past → ¬ Continues entry := by
  have each := sent_run cfg rxBuf events
  constructor
  · intro final past entry later split aborted
    exact (each entry (Machine.mem_of_split split)).mp (final past entry later split aborted)
  · intro alone past entry later split aborted
    exact (each entry (Machine.mem_of_split split)).mpr (alone past entry later split aborted)

def overflowThenContinue : List Event :=
  .send .ready twentyMemory (some 0) 20 :: [[0x32, 0, 0], [0x30, 0, 0]].map
    fun bytes => .frame .ready twentyMemory (.make kDefaultIsoTpConfig.rxId bytes 3)

theorem aborted_message_goes_on :
    ¬ ∀ past entry later, isoTp.trace (.create kDefaultIsoTpConfig (Region.fill 0)) overflowThenContinue =
      past ++ entry :: later → SinceLast Starts Aborts past → cfsOf entry.output.sent = [] := by
  intro final
  have aborted : Aborts (isoTp.entry (isoTp.run (.create kDefaultIsoTpConfig (Region.fill 0))
      (overflowThenContinue.take 1)) (.frame .ready twentyMemory (.make kDefaultIsoTpConfig.rxId [0x32, 0, 0] 3))) :=
    ⟨_, _, _, rfl, by decide⟩
  have none := final _ _ [] rfl ⟨isoTp.trace (.create kDefaultIsoTpConfig (Region.fill 0)) (overflowThenContinue.take 1),
    _, [], rfl, aborted, List.forall_mem_nil _⟩
  exact absurd (congrArg List.length none) (by decide)

end Uds.Transport
