import PulseEcu.Transport.Receiver

open Foundation

namespace Uds.Transport

/-- The number of a message among those sent, and that of a frame in it: 0 is its single or first
    frame, `k + 1` its consecutive frame number `k`. -/
abbrev Position := Nat × Nat

def sentAs (messages : List (List Byte)) (j : Nat) : List Byte := messages.getD j []

def frameCount (message : List Byte) : Nat := if message.length ≤ 7 then 1 else cfCount message.length + 1

def Whole (messages : List (List Byte)) (positions : List Position) (j : Nat) : Prop :=
  ∀ p < frameCount (sentAs messages j), (j, p) ∈ positions

inductive Pdu.At (messages : List (List Byte)) : Position → Pdu → Prop
  | single {j : Nat} (known : j < messages.length) (short : (sentAs messages j).length ≤ 7) :
      At messages (j, 0) (.single (sentAs messages j))
  | first {j : Nat} (known : j < messages.length) (long : 8 ≤ (sentAs messages j).length) :
      At messages (j, 0) (.first (sentAs messages j).length ((sentAs messages j).take 6))
  | consecutive {j k : Nat} {payload : List Byte} (known : j < messages.length)
      (long : 8 ≤ (sentAs messages j).length) (more : k < cfCount (sentAs messages j).length)
      (room : payload.length ≤ 7)
      (bytes : payload.take ((sentAs messages j).length - (6 + 7 * k)) = segment (sentAs messages j) k) :
      At messages (j, k + 1) (.consecutive (sequenceNumber (k + 1)) payload)

/-- What may come after a frame: the first one of a later message, or one of the same segmented
    message, that frame once more or a later one. -/
def Follows (messages : List (List Byte)) (last : Option Position) (pos : Position) : Prop :=
  match last with
  | none => pos.2 = 0
  | some last => last.1 < pos.1 ∧ pos.2 = 0 ∨
      last.1 = pos.1 ∧ last.2 ≤ pos.2 ∧ 8 ≤ (sentAs messages pos.1).length

instance (messages : List (List Byte)) (last : Option Position) (pos : Position) : Decidable (Follows messages last pos) :=
  match last with
  | none => inferInstanceAs (Decidable (_ = _))
  | some _ => inferInstanceAs (Decidable (_ ∨ _))

/-- What comes through a bus that may lose any frame, a first frame only with all of its message, and
    may repeat any frame of a segmented message. -/
inductive Arrives (messages : List (List Byte)) : Option Position → List Position → List Pdu → Prop
  | nothing (last : Option Position) : Arrives messages last [] []
  | frame {last : Option Position} {pos : Position} {pdu : Pdu} {positions : List Position} {pdus : List Pdu}
      (follows : Follows messages last pos) (same : pdu.At messages pos)
      (rest : Arrives messages (some pos) positions pdus) : Arrives messages last (pos :: positions) (pdu :: pdus)

def Genuine (messages : List (List Byte)) (positions : List Position) (bound : Nat) (handed : List (List Byte)) : Prop :=
  ∃ numbers : List Nat, numbers.Pairwise (· < ·) ∧
    (∀ j ∈ numbers, j < bound ∧ j < messages.length ∧ Whole messages positions j) ∧
    handed = numbers.map (sentAs messages)

structure Collected (messages : List (List Byte)) (positions : List Position) (j p : Nat) (total : Nat)
    (bytes : List Byte) (sn : Byte) (taken reached : Nat) : Prop where
  known : j < messages.length
  total : total = (sentAs messages j).length
  long : 8 ≤ (sentAs messages j).length
  few : taken ≤ reached
  last : reached ≤ p
  count : reached ≤ cfCount (sentAs messages j).length
  sn : sn = sequenceNumber (reached + 1)
  length : bytes.length ≤ 6 + 7 * taken
  start : taken = reached → bytes = (sentAs messages j).take (6 + 7 * taken) ∧ ∀ p ≤ reached, (j, p) ∈ positions

def bound (messages : List (List Byte)) : Option Position → Nat
  | none => 0
  | some (j, p) => if p = 0 ∧ 8 ≤ (sentAs messages j).length then j else j + 1

def Receiver.Sound (messages : List (List Byte)) (positions : List Position) (last : Option Position)
    (handed : List (List Byte)) : Receiver → Prop
  | .idle => Genuine messages positions (bound messages last) handed
  | .holding message => Genuine messages positions (bound messages last) (handed ++ [message])
  | .collecting total bytes sn _ => ∃ j p taken reached, last = some (j, p) ∧ Genuine messages positions j handed ∧
      Collected messages positions j p total bytes sn taken reached

variable {messages : List (List Byte)} {positions : List Position} {last : Option Position} {pos : Position}
  {handed : List (List Byte)} {pdu : Pdu} {r : Receiver}

theorem Genuine.mono {few many : Nat} (genuine : Genuine messages positions few handed) (le : few ≤ many) :
    Genuine messages positions many handed := by
  obtain ⟨numbers, increasing, sound, same⟩ := genuine
  refine ⟨numbers, increasing, fun j member => ?_, same⟩
  obtain ⟨less, others⟩ := sound j member
  exact ⟨Nat.lt_of_lt_of_le less le, others⟩

theorem Genuine.add {j : Nat} (genuine : Genuine messages positions j handed) (known : j < messages.length)
    (whole : Whole messages positions j) : Genuine messages positions (j + 1) (handed ++ [sentAs messages j]) := by
  obtain ⟨numbers, increasing, sound, same⟩ := genuine
  refine ⟨numbers ++ [j], ?_, ?_, ?_⟩
  · rw [List.pairwise_append]
    refine ⟨increasing, List.pairwise_singleton _ _, fun number member other only => ?_⟩
    rw [List.mem_singleton.mp only]
    exact (sound number member).1
  · intro number member
    rcases List.mem_append.mp member with before | only
    · obtain ⟨less, others⟩ := sound number before
      exact ⟨Nat.lt_succ_of_lt less, others⟩
    · rw [List.mem_singleton.mp only]
      exact ⟨Nat.lt_succ_self j, known, whole⟩
  · rw [same, List.map_append]
    rfl

theorem Genuine.dropLast {many : Nat} {message : List Byte}
    (genuine : Genuine messages positions many (handed ++ [message])) : Genuine messages positions many handed := by
  obtain ⟨numbers, increasing, sound, same⟩ := genuine
  refine ⟨numbers.dropLast, increasing.sublist (List.dropLast_sublist _), ?_, ?_⟩
  · intro j member
    exact sound j ((List.dropLast_sublist numbers).subset member)
  · rw [List.map_dropLast, ← same, List.dropLast_concat]

theorem bound_le (j p : Nat) : j ≤ bound messages (some (j, p)) ∧ bound messages (some (j, p)) ≤ j + 1 := by
  simp only [bound]
  split
  · omega
  · omega

theorem Receiver.Sound.genuine (sound : r.Sound messages positions last handed) :
    Genuine messages positions (bound messages last) handed := by
  cases r with
  | idle => exact sound
  | holding message => exact Genuine.dropLast sound
  | collecting total bytes sn deadline =>
    obtain ⟨j, p, taken, reached, rfl, genuine, _⟩ := sound
    exact genuine.mono (bound_le j p).1

theorem Receiver.Sound.update (sound : r.Sound messages positions last handed) (now : Word) :
    (r.update now).Sound messages positions last handed := by
  cases r with
  | idle => exact sound
  | holding message => exact sound
  | collecting total bytes sn deadline =>
    rw [Receiver.update]
    split
    · exact Receiver.Sound.genuine sound
    · exact sound

theorem Follows.bound_le {j : Nat} (follows : Follows messages last (j, 0)) : bound messages last ≤ j := by
  cases last with
  | none => exact Nat.zero_le j
  | some last =>
    obtain ⟨i, p⟩ := last
    rcases follows with ⟨earlier, _⟩ | ⟨same, begins, long⟩
    · exact Nat.le_trans (Transport.bound_le i p).2 earlier
    · have here : i = j := same
      have first : p = 0 := Nat.le_zero.mp begins
      rw [here, first]
      exact Nat.le_of_eq (if_pos ⟨rfl, long⟩)

/-- Before a consecutive frame another frame of its message has come. -/
theorem Follows.consecutive {j k : Nat} (follows : Follows messages last (j, k + 1)) :
    ∃ p, last = some (j, p) ∧ p ≤ k + 1 := by
  cases last with
  | none => cases follows
  | some last =>
    obtain ⟨i, p⟩ := last
    rcases follows with ⟨_, first⟩ | ⟨same, further, _⟩
    · cases first
    · have here : i = j := same
      exact ⟨p, by rw [here], further⟩

theorem bound_consecutive (j k : Nat) : bound messages (some (j, k + 1)) = j + 1 := by
  rw [bound, if_neg (fun first => nomatch first.1)]

/-- Equal sequence numbers mean that the frame is the one expected, or 16 or more further on. -/
theorem reached_le {reached p k : Nat} (last : reached ≤ p) (further : p ≤ k + 1)
    (same : sequenceNumber (k + 1) = sequenceNumber (reached + 1)) : reached ≤ k := by
  have numbers := congrArg BitVec.toNat same
  simp only [sequenceNumber, BitVec.toNat_ofNat] at numbers
  omega

section

variable {j p k total taken reached : Nat} {bytes payload : List Byte} {sn : Byte}

theorem Collected.later (collected : Collected messages positions j p total bytes sn taken reached) {later : Nat}
    (further : p ≤ later) : Collected messages positions j later total bytes sn taken reached :=
  ⟨collected.known, collected.total, collected.long, collected.few, Nat.le_trans collected.last further,
    collected.count, collected.sn, collected.length, collected.start⟩

/-- Taking a frame goes one further, or skips frames and then never gets the whole message. -/
theorem Collected.take (collected : Collected messages positions j p total bytes sn taken reached)
    (here : (j, k + 1) ∈ positions) (further : p ≤ k + 1) (same : sequenceNumber (k + 1) = sn)
    (more : k < cfCount (sentAs messages j).length) (room : payload.length ≤ 7)
    (carried : payload.take ((sentAs messages j).length - (6 + 7 * k)) = segment (sentAs messages j) k) :
    Collected messages positions j (k + 1) total (bytes ++ payload.take (total - bytes.length)) ((sn + 1) &&& 0x0F)
      (taken + 1) (k + 1) := by
  have onward := reached_le collected.last further (same.trans collected.sn)
  have few := collected.few
  have short := collected.length
  have unfinished := (lt_cfCount k _).mp more
  refine ⟨collected.known, collected.total, collected.long, by omega, Nat.le_refl _, more, ?_, ?_, ?_⟩
  · rw [← same, sequenceNumber_succ]
  · simp only [List.length_append, List.length_take]
    omega
  · intro all
    have inOrder : taken = reached := by omega
    have next : taken = k := by omega
    obtain ⟨start, came⟩ := collected.start inOrder
    rw [next] at start
    have length : bytes.length = 6 + 7 * k := by
      rw [start, List.length_take]
      omega
    constructor
    · rw [collected.total, length, carried, start, take_segment, next]
    · intro q upTo
      rcases Nat.lt_or_ge reached q with beyond | before
      · have only : q = k + 1 := by omega
        rw [only]
        exact here
      · exact came q before

/-- A message of the right length had no frame left out. -/
theorem Collected.complete (collected : Collected messages positions j p total bytes sn taken reached)
    (enough : bytes.length = total) : bytes = sentAs messages j ∧ Whole messages positions j := by
  have long := collected.long
  have few := collected.few
  have count := collected.count
  have length := collected.length
  have total := collected.total
  have all : ¬ taken < cfCount (sentAs messages j).length := by
    rw [lt_cfCount]
    omega
  obtain ⟨start, came⟩ := collected.start (by omega)
  constructor
  · rw [start]
    apply List.take_of_length_le
    rw [lt_cfCount] at all
    omega
  · intro q less
    rw [frameCount, if_neg (by omega)] at less
    exact came q (by omega)

end

/-- One frame from the bus. -/
theorem Receiver.Sound.frame (sound : r.Sound messages positions last handed) (follows : Follows messages last pos)
    (here : pos ∈ positions) (same : pdu.At messages pos) (grant : CanFrame) (due : Word) :
    (r.accept grant due (some pdu)).1.Sound messages positions (some pos) handed := by
  have before := sound.genuine
  cases same with
  | @single j known short =>
    have whole : Whole messages positions j := by
      intro p less
      rw [frameCount, if_pos short] at less
      rw [Nat.lt_one_iff.mp less]
      exact here
    have next : bound messages (some (j, 0)) = j + 1 := if_neg fun long => absurd long.2 (by omega)
    show Genuine messages positions (bound messages (some (j, 0))) _
    rw [next]
    exact (before.mono follows.bound_le).add known whole
  | @first j known long =>
    refine ⟨j, 0, 0, 0, rfl, before.mono follows.bound_le, ?_⟩
    refine ⟨known, rfl, long, Nat.le_refl 0, Nat.le_refl 0, Nat.zero_le _, rfl, ?_, fun _ => ⟨rfl, ?_⟩⟩
    · exact List.length_take_le 6 _
    · intro p zero
      rw [Nat.le_zero.mp zero]
      exact here
  | @consecutive j k payload known long more room bytes =>
    obtain ⟨p, rfl, further⟩ := follows.consecutive
    have wider : bound messages (some (j, p)) ≤ bound messages (some (j, k + 1)) := by
      rw [bound_consecutive]
      exact (bound_le j p).2
    cases r with
    | idle => exact sound.mono wider
    | holding message => exact Genuine.mono sound wider
    | collecting total collected sn deadline =>
      obtain ⟨_, _, taken, reached, ⟨⟩, genuine, collects⟩ := sound
      simp only [Receiver.accept]
      by_cases expected : sequenceNumber (k + 1) = sn
      · rw [if_neg (not_not_intro expected)]
        have further := collects.take here further expected more room bytes
        split
        · rename_i enough
          obtain ⟨same, whole⟩ := further.complete enough
          show Genuine messages positions (bound messages (some (j, k + 1))) _
          rw [bound_consecutive, same]
          exact genuine.add known whole
        · exact ⟨j, k + 1, _, _, rfl, genuine, further⟩
      · rw [if_pos expected]
        exact ⟨j, k + 1, taken, reached, rfl, genuine, collects.later further⟩

end Uds.Transport
