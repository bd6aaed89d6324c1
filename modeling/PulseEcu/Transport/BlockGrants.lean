import PulseEcu.Transport.Delivery
import PulseEcu.Transport.Sweep

open Foundation

namespace Uds.Transport

/-- The calls of `send_fc` that let the peer continue: only they leave a first byte of 0. -/
def ctsCalls (entry : Entry) : List CanFrame := entry.output.sent.filter fun frame => frame.data 0 = kFcCts

def Completes (entry : Entry) : Prop := (acceptedConsecutive entry).isSome = true ∧ entry.output.returned = some .ok

def acceptedCount (record : List Entry) : Nat := (record.filterMap acceptedConsecutive).length

structure Received (start : Entry) (body : List Entry) : Prop where
  opened : (acceptedFirst start).isSome = true
  neutral : ∀ entry ∈ body, Neutral entry
  complete : ∃ rest final, body = rest ++ [final] ∧ Completes final ∧ ∀ entry ∈ rest, ¬ Completes entry

structure EndsBlock (n : Nat) (earlier : List Entry) (entry : Entry) : Prop where
  accepted : (acceptedConsecutive entry).isSome = true
  more : entry.output.returned = some .pending
  size : n ≠ 0
  full : (acceptedCount earlier + 1) % n = 0

/-- The receiver lets the peer continue after the first frame and at the end of every block, and at no
    other point. -/
structure BlocksGranted (cfg : IsoTpConfig) (start : Entry) (body : List Entry) : Prop where
  first : ctsCalls start = [start.before.fcFrame kFcCts cfg.blockSize cfg.stMinMs]
  granted : ∀ earlier entry later, body = earlier ++ entry :: later → EndsBlock cfg.blockSize.toNat earlier entry →
    ctsCalls entry = [entry.before.fcFrame kFcCts cfg.blockSize cfg.stMinMs]
  silent : ∀ earlier entry later, body = earlier ++ entry :: later → ¬ EndsBlock cfg.blockSize.toNat earlier entry →
    ctsCalls entry = []

variable {s : IsoTp} {frame : CanFrame}

theorem IsCf.not_cts (cf : IsCf frame) : frame.data 0 ≠ kFcCts := by
  intro zero
  have type : pciType frame = 0 := by
    rw [pciType, zero]
    rfl
  exact absurd (type.symm.trans cf) (by decide)

theorem handleFc_sent (can : ICanInterface) (mem : Memory) (s : IsoTp) (frame : CanFrame) :
    ∀ reply ∈ (s.handleFc can mem frame).sent, IsCf reply := by
  simp only [IsoTp.handleFc]
  split
  · exact List.forall_mem_nil _
  · split
    · exact List.forall_mem_nil _
    · split
      · exact List.forall_mem_nil _
      · split
        · exact List.forall_mem_nil _
        · split
          · exact List.forall_mem_nil _
          · obtain ⟨count, sent, _⟩ := (sendNextCfLoop_sweep can mem _ (s.opened frame) [] (Nat.le_refl _)).handed
            intro reply member
            apply IsoTp.nextCfs_isCf mem (s.opened frame) count reply
            rw [← sent]
            exact member

theorem send_not_cts (can : ICanInterface) (mem : Memory) (s : IsoTp) (data : Option Pointer) (length : Nat) :
    ∀ frame ∈ (s.send can mem data length).sent, frame.data 0 ≠ kFcCts := by
  have nonzero : ∀ low : Byte, 0x10 ||| low ≠ kFcCts := by decide
  have first : ∀ source, (s.ffFrame mem source length).data 0 ≠ kFcCts := by
    intro source
    show BitVec.ofNat 8 (0x10 ||| ((length >>> 8) &&& 0x0F)) ≠ kFcCts
    rw [BitVec.ofNat_or]
    exact nonzero _
  cases send_effect can mem s data length with
  | refused _ handled =>
    rw [handled]
    exact List.forall_mem_nil _
  | single source _ some short _ sent =>
    rw [sent]
    intro frame member
    rw [List.mem_singleton.mp member]
    have low : length &&& 0x0F = length % 16 := Nat.and_two_pow_sub_one_eq_mod _ 4
    show BitVec.ofNat 8 (length &&& 0x0F) ≠ kFcCts
    intro zero
    have value := congrArg BitVec.toNat zero
    rw [BitVec.toNat_ofNat, low] at value
    have none : kFcCts.toNat = 0 := rfl
    omega
  | blocked source _ _ _ _ _ sent =>
    rw [sent]
    exact List.forall_mem_singleton.mpr (first source)
  | first source _ _ handled =>
    rw [handled]
    exact List.forall_mem_singleton.mpr (first source)

theorem ctsCalls_eq_nil {entry : Entry} (other : ∀ frame ∈ entry.output.sent, frame.data 0 ≠ kFcCts) :
    ctsCalls entry = [] := by
  simpa [ctsCalls] using other

/-- Only an accepted first frame makes the receiver let the peer continue. -/
theorem ctsCalls_entry (s : IsoTp) (event : Event) : ctsCalls (isoTp.entry s event) =
    if (acceptedFirst (isoTp.entry s event)).isSome then [s.fcFrame kFcCts s.cfg.blockSize s.cfg.stMinMs] else [] := by
  cases event with
  | frame can mem frame =>
    have returned : ctsCalls (isoTp.entry s (.frame can mem frame)) =
        (s.processFrame can mem frame).sent.filter fun frame => frame.data 0 = kFcCts := rfl
    have entered : acceptedFirst (isoTp.entry s (.frame can mem frame)) =
        if pciType frame = 1 ∧ (s.processFrame can mem frame).result ∈ [IsoTpResult.pending] then some frame else none := rfl
    rw [returned, entered]
    apply IsoTp.processFrame_cases fun outcome => outcome.sent.filter (fun frame => frame.data 0 = kFcCts) =
      if (if pciType frame = 1 ∧ outcome.result ∈ [IsoTpResult.pending] then some frame else none).isSome then
        [s.fcFrame kFcCts s.cfg.blockSize s.cfg.stMinMs] else []
    · simp
    · intro type
      simp [type, handleSf_sent]
    · intro type
      rcases IsoTp.handleFf_spec can s frame with ⟨refused, _⟩ | ⟨_, accepted⟩
      · simp [refused]
      · have cts := fcFrame_status s kFcCts s.cfg.blockSize s.cfg.stMinMs
        have status : kFcCts &&& 0x0F = kFcCts := by decide
        rw [status] at cts
        simp [accepted, type, cts]
    · intro type
      simp [type, handleCf_sent]
    · intro type
      have none : (s.handleFc can mem frame).sent.filter (fun frame => frame.data 0 = kFcCts) = [] := by
        simpa using fun reply member => (handleFc_sent can mem s frame reply member).not_cts
      rw [none, type]
      rfl
  | update now => rfl
  | send can mem data length => exact ctsCalls_eq_nil (send_not_cts can mem s data length)
  | getData given maxLen => rfl

theorem accepted_split {record : List Entry} {k : Nat} (inside : k < acceptedCount record) :
    ∃ earlier entry later, record = earlier ++ entry :: later ∧ (acceptedConsecutive entry).isSome = true ∧
      acceptedCount earlier = k := by
  induction record generalizing k with
  | nil => exact absurd inside (Nat.not_lt_zero k)
  | cons head record ih =>
    cases entered : acceptedConsecutive head with
    | none =>
      have same : ∀ rest, acceptedCount (head :: rest) = acceptedCount rest := by
        intro rest
        rw [acceptedCount, List.filterMap_cons_none entered]
        rfl
      rw [same] at inside
      obtain ⟨earlier, entry, later, split, accepted, count⟩ := ih inside
      exact ⟨head :: earlier, entry, later, by rw [split]; rfl, accepted, (same earlier).trans count⟩
    | some frame =>
      have more : ∀ rest, acceptedCount (head :: rest) = acceptedCount rest + 1 := by
        intro rest
        rw [acceptedCount, List.filterMap_cons_some entered]
        rfl
      cases k with
      | zero => exact ⟨[], head, record, rfl, by rw [entered]; rfl, rfl⟩
      | succ k =>
        rw [more] at inside
        obtain ⟨earlier, entry, later, split, accepted, count⟩ := ih (Nat.lt_of_succ_lt_succ inside)
        exact ⟨head :: earlier, entry, later, by rw [split]; rfl, accepted, (more earlier).trans (congrArg Nat.succ count)⟩

theorem acceptedCount_append (first second : List Entry) :
    acceptedCount (first ++ second) = acceptedCount first + acceptedCount second := by
  rw [acceptedCount, List.filterMap_append, List.length_append]
  rfl

theorem acceptedCount_single {entry : Entry} (accepted : (acceptedConsecutive entry).isSome = true) :
    acceptedCount [entry] = 1 := by
  obtain ⟨frame, entered⟩ := Option.isSome_iff_exists.mp accepted
  rw [acceptedCount, List.filterMap_cons_some entered]
  rfl

theorem accepted_pending {entry : Entry} (accepted : (acceptedConsecutive entry).isSome = true)
    (more : ¬ Completes entry) : entry.output.returned = some .pending := by
  have unfinished : entry.output.returned ≠ some .ok := fun ok => more ⟨accepted, ok⟩
  obtain ⟨before, event, after, output⟩ := entry
  cases event with
  | frame can mem frame =>
    cases output with
    | result answer sent =>
      simp only [acceptedConsecutive, Transport.accepted, Option.isSome_ite] at accepted
      rcases List.mem_cons.mp accepted.2 with pending | ok
      · exact congrArg some pending
      · exact absurd (congrArg some (List.mem_singleton.mp ok)) unfinished
    | data bytes => cases accepted
    | none => cases accepted
  | update now => cases accepted
  | send can mem data length => cases accepted
  | getData given maxLen => cases accepted

/-- The last consecutive frame of a block is answered like any other one, so a receiver grants every
    block exactly when the first is the only one. -/
theorem blocks_granted_iff (cfg : IsoTpConfig) (rxBuf : Region Byte) (events : List Event) (past : List Entry)
    (start : Entry) (body later : List Entry)
    (split : isoTp.trace (.create cfg rxBuf) events = past ++ start :: (body ++ later)) (received : Received start body) :
    BlocksGranted cfg start body ↔ cfg.blockSize = 0 ∨ acceptedCount body ≤ cfg.blockSize.toNat := by
  obtain ⟨rest, final, whole, completes, unfinished⟩ := received.complete
  have calls : ∀ entry ∈ isoTp.trace (.create cfg rxBuf) events,
      ctsCalls entry = if (acceptedFirst entry).isSome then
        [entry.before.fcFrame kFcCts cfg.blockSize cfg.stMinMs] else [] := by
    have config : ∀ (s : IsoTp) (event : Event), s.cfg = cfg → (isoTp.next s event).cfg = cfg := by
      intro s event same
      rw [IsoTp.next_cfg, same]
    have answers : ∀ (s : IsoTp) (event : Event), s.cfg = cfg → ctsCalls (isoTp.entry s event) =
        if (acceptedFirst (isoTp.entry s event)).isSome then [s.fcFrame kFcCts cfg.blockSize cfg.stMinMs] else [] := by
      intro s event same
      rw [← same]
      exact ctsCalls_entry s event
    exact isoTp.trace_shows config answers (.create cfg rxBuf) events rfl
  have silent : ∀ earlier entry after, body = earlier ++ entry :: after → ctsCalls entry = [] := by
    intro earlier entry after parts
    have member := Machine.mem_of_split parts
    have inside : entry ∈ isoTp.trace (.create cfg rxBuf) events := by
      rw [split]
      simp [member]
    rw [calls entry inside, (received.neutral entry member).first]
    rfl
  have count : acceptedCount body = acceptedCount rest + 1 := by
    rw [whole, acceptedCount_append, acceptedCount_single completes.1]
  constructor
  · intro granted
    apply Decidable.or_iff_not_imp_left.mpr
    intro limited
    apply Nat.le_of_not_lt
    intro beyond
    have size : cfg.blockSize.toNat ≠ 0 := fun zero => limited (BitVec.eq_of_toNat_eq zero)
    have enough : cfg.blockSize.toNat - 1 < acceptedCount rest := by omega
    obtain ⟨earlier, entry, after, parts, accepted, before⟩ := accepted_split enough
    have member := Machine.mem_of_split parts
    have position : body = earlier ++ entry :: (after ++ [final]) := by
      rw [whole, parts]
      simp
    have full : (acceptedCount earlier + 1) % cfg.blockSize.toNat = 0 := by
      have exact_size : acceptedCount earlier + 1 = cfg.blockSize.toNat := by omega
      rw [exact_size, Nat.mod_self]
    have call := granted.granted earlier entry _ position
      ⟨accepted, accepted_pending accepted (unfinished entry member), size, full⟩
    rw [silent earlier entry _ position] at call
    cases call
  · intro single
    constructor
    · rw [calls start (Machine.mem_of_split split), if_pos received.opened]
    · intro earlier entry after parts ends
      exfalso
      rw [whole] at parts
      rcases Machine.split_snoc parts with ⟨_, last, _⟩ | ⟨between, _, before⟩
      · have ok := completes.2
        rw [← last] at ok
        cases ends.more.symm.trans ok
      · have split_rest := congrArg acceptedCount before
        have one := acceptedCount_single ends.accepted
        have cons := acceptedCount_append [entry] between
        rw [acceptedCount_append] at split_rest
        rw [List.singleton_append] at cons
        rcases single with unlimited | few
        · exact ends.size (by rw [unlimited]; rfl)
        · have small : acceptedCount earlier + 1 < cfg.blockSize.toNat := by omega
          have full := ends.full
          rw [Nat.mod_eq_of_lt small] at full
          omega
    · intro earlier entry after parts _
      exact silent earlier entry after parts

def blockConfig (blockSize : Byte) : IsoTpConfig := { kDefaultIsoTpConfig with blockSize := blockSize }

def fedFrame (bytes : List Byte) : Event := .frame .ready twentyMemory (.make kDefaultIsoTpConfig.rxId bytes 8)

def fedFirst : Event := fedFrame (0x10 :: 20 :: twentyBytes.take 6)

def fedRest : List Event := [fedFrame (0x21 :: segment twentyBytes 0), fedFrame (0x22 :: segment twentyBytes 1)]

def fedStart (blockSize : Byte) : Entry := isoTp.entry (.create (blockConfig blockSize) (Region.fill 0)) fedFirst

def fedBody (blockSize : Byte) : List Entry := isoTp.trace (fedStart blockSize).after fedRest

theorem fed_received {blockSize : Byte} (opened : (acceptedFirst (fedStart blockSize)).isSome = true)
    (returned : (fedBody blockSize).map (fun entry => ((acceptedConsecutive entry).isSome, entry.output.returned)) =
      [(true, some .pending), (true, some .ok)]) : Received (fedStart blockSize) (fedBody blockSize) := by
  constructor
  · exact opened
  · intro entry member
    obtain ⟨before, event, rfl⟩ := isoTp.entry_of_mem_trace member
    rcases List.mem_cons.mp (isoTp.event_of_mem_trace member) with same | member
    · have same : event = _ := same
      rw [same]
      exact consecutive_neutral before _ _ _ rfl
    · have same : event = _ := List.mem_singleton.mp member
      rw [same]
      exact consecutive_neutral before _ _ _ rfl
  · simp only [fedBody, fedRest, Machine.trace, List.map_cons, List.map_nil, List.cons.injEq, Prod.mk.injEq] at returned
    obtain ⟨⟨_, pending⟩, ⟨accepted, ok⟩, _⟩ := returned
    refine ⟨isoTp.trace (fedStart blockSize).after (fedRest.take 1), _, rfl, ⟨accepted, ok⟩, ?_⟩
    intro entry member
    rw [List.mem_singleton.mp member]
    intro completes
    cases pending.symm.trans completes.2

theorem second_block_not_granted :
    ∃ past later, isoTp.trace (.create (blockConfig 1) (Region.fill 0)) (fedFirst :: fedRest) =
      past ++ fedStart 1 :: (fedBody 1 ++ later) ∧ Received (fedStart 1) (fedBody 1) ∧
        ¬ BlocksGranted (blockConfig 1) (fedStart 1) (fedBody 1) := by
  refine ⟨[], [], rfl, fed_received (by decide) (by decide), fun granted => ?_⟩
  have call := granted.granted [] _ _ rfl ⟨rfl, rfl, by decide, by decide⟩
  exact absurd (congrArg List.length call) (by decide)

theorem blocks_granted_two : BlocksGranted (blockConfig 2) (fedStart 2) (fedBody 2) :=
  (blocks_granted_iff (blockConfig 2) (Region.fill 0) (fedFirst :: fedRest) [] (fedStart 2) (fedBody 2) [] rfl
    (fed_received (by decide) (by decide))).mpr (Or.inr (by decide))

end Uds.Transport
