import PulseEcu.Transport.PeerAbort

open Foundation

namespace Uds.Transport

def cfTicks (entry : Entry) : List Word :=
  match entry.event with
  | .frame can _ _ | .send can _ _ _ => (cfsOf entry.output.sent).map fun _ => can.getTickMs
  | .update _ | .getData .. => []

def Spaced (ms : Nat) (ticks : List Word) : Prop :=
  ∀ (i : Nat) (one next : Word), ticks[i]? = some one → ticks[i + 1]? = some next → ms ≤ (next - one).toNat

def Grants (st : Byte) (entry : Entry) : Prop :=
  ∃ can mem frame, entry.event = .frame can mem frame ∧ ContinuedBy entry.before frame ∧ frame.data 2 = st

def Bursts (entry : Entry) : Prop :=
  ∃ can mem frame, entry.event = .frame can mem frame ∧ ContinuedBy entry.before frame ∧
    1 ≤ (frame.data 2).toNat ∧ (frame.data 2).toNat ≤ 0x7F ∧
    2 ≤ blockFrames (frame.data 1) entry.before.framesLeft ∧ can.send 0 = true

variable {s : IsoTp}

theorem cfTicks_eq_nil {entry : Entry} (none : cfsOf entry.output.sent = []) : cfTicks entry = [] := by
  unfold cfTicks
  split
  · rw [none, List.map_nil]
  · rw [none, List.map_nil]
  · rfl
  · rfl

theorem spaced_short {ms : Nat} {ticks : List Word} (few : ticks.length ≤ 1) : Spaced ms ticks := by
  intro i one next _ second
  obtain ⟨inside, _⟩ := List.getElem?_eq_some_iff.mp second
  omega

theorem spaced_same_iff {ms : Nat} (positive : 1 ≤ ms) (frames : List CanFrame) (tick : Word) :
    Spaced ms (frames.map fun _ => tick) ↔ frames.length ≤ 1 := by
  constructor
  · intro spaced
    apply Nat.le_of_not_lt
    intro several
    have at_tick : ∀ i, i < 2 → (frames.map fun _ => tick)[i]? = some tick := by
      intro i inside
      have bound : i < frames.length := by omega
      rw [List.getElem?_map, List.getElem?_eq_getElem bound]
      rfl
    have apart := spaced 0 tick tick (at_tick 0 (by decide)) (at_tick 1 (by decide))
    have none : (tick - tick).toNat = 0 := by rw [BitVec.sub_self]; rfl
    omega
  · intro few
    apply spaced_short
    rw [List.length_map]
    exact few

theorem granted_length_iff (can : ICanInterface) (mem : Memory) {frame : CanFrame} (continued : ContinuedBy s frame) :
    (cfsOf (isoTp.entry s (.frame can mem frame)).output.sent).length ≤ 1 ↔
      blockFrames (frame.data 1) s.framesLeft ≤ 1 ∨ can.send 0 = false := by
  have handled : cfsOf (isoTp.entry s (.frame can mem frame)).output.sent =
      cfsOf (s.processFrame can mem frame).sent := rfl
  rw [handled]
  cases processFrame_effect can mem s frame with
  | quiet _ _ unanswered => exact absurd continued.1 (unanswered _ continued.2)
  | waited _ fc _ => exact absurd (fc.2.2.2.symm.trans continued.2.2.2.2) (by decide)
  | aborted _ _ fc other _ _ => exact absurd (fc.2.2.2.symm.trans continued.2.2.2.2) other.1
  | swept _ _ sweep =>
    obtain ⟨count, sent, _, _, few⟩ := sweep.handed
    rw [sent, IsoTp.cfsOf_nextCfs, IsoTp.nextCfs_length]
    exact few

/-- The separation time is kept exactly when no flow control frame that asks for one lets two consecutive
    frames out. -/
theorem separation_time_iff (cfg : IsoTpConfig) (rxBuf : Region Byte) (events : List Event) :
    (∀ past grant under later, isoTp.trace (.create cfg rxBuf) events = past ++ grant :: (under ++ later) →
        ∀ st : Byte, Grants st grant → 1 ≤ st.toNat → st.toNat ≤ 0x7F → (∀ entry ∈ under, ¬ Continues entry) →
          Spaced st.toNat ((grant :: under).flatMap cfTicks)) ↔
      ∀ entry ∈ isoTp.trace (.create cfg rxBuf) events, ¬ Bursts entry := by
  constructor
  · intro spaced entry member bursts
    obtain ⟨past, later, split⟩ := List.append_of_mem member
    obtain ⟨first, event, _, _, _, rfl, _⟩ := isoTp.trace_split split
    obtain ⟨can, mem, frame, same, continued, positive, small, several, taken⟩ := bursts
    have same : event = .frame can mem frame := same
    subst same
    have apart := spaced past _ [] later split (frame.data 2) ⟨can, mem, frame, rfl, continued, rfl⟩ positive small
      (List.forall_mem_nil _)
    rw [List.flatMap_singleton] at apart
    have few := (spaced_same_iff positive _ _).mp apart
    rcases (granted_length_iff can mem continued).mp few with one | refusal
    · omega
    · exact absurd (taken.symm.trans refusal) (by decide)
  · intro calm past grant under later split st grants positive small under_quiet
    have member := Machine.mem_of_split split
    have quiet : ∀ entry ∈ under, cfTicks entry = [] := by
      intro entry inside
      have recorded : entry ∈ isoTp.trace (.create cfg rxBuf) events := by
        rw [split]
        simp [inside]
      exact cfTicks_eq_nil ((sent_run cfg rxBuf events entry recorded).mpr (under_quiet entry inside))
    have rest : under.flatMap cfTicks = [] := List.flatMap_eq_nil_iff.mpr quiet
    rw [List.flatMap_cons, rest, List.append_nil]
    obtain ⟨first, event, _, _, _, rfl, _⟩ := isoTp.trace_split split
    obtain ⟨can, mem, frame, same, continued, rfl⟩ := grants
    have same : event = .frame can mem frame := same
    subst same
    apply (spaced_same_iff positive _ _).mpr
    apply (granted_length_iff can mem continued).mpr
    apply Decidable.byContradiction
    intro several
    obtain ⟨more, taken⟩ := not_or.mp several
    exact calm _ member ⟨can, mem, frame, rfl, continued, positive, small, by omega, by simpa using taken⟩

def tenMilliseconds : List Event :=
  [.send .ready twentyMemory (some 0) 20, .frame .ready twentyMemory (.make kDefaultIsoTpConfig.rxId [0x30, 0, 0x0A] 3)]

theorem frames_without_pause :
    ¬ ∀ past grant under later, isoTp.trace (.create kDefaultIsoTpConfig (Region.fill 0)) tenMilliseconds =
        past ++ grant :: (under ++ later) → ∀ st : Byte, Grants st grant → 1 ≤ st.toNat → st.toNat ≤ 0x7F →
          (∀ entry ∈ under, ¬ Continues entry) → Spaced st.toNat ((grant :: under).flatMap cfTicks) := by
  intro spaced
  have apart := spaced (isoTp.trace (.create kDefaultIsoTpConfig (Region.fill 0)) (tenMilliseconds.take 1)) _ [] [] rfl
    0x0A ⟨_, _, _, rfl, by decide, rfl⟩ (by decide) (by decide) (List.forall_mem_nil _)
  exact absurd (apart 0 0 0 rfl rfl) (by decide)

end Uds.Transport
