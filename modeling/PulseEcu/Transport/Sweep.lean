import PulseEcu.Transport.FlowControl

open Foundation

namespace Uds.Transport

namespace IsoTp

def advance (s : IsoTp) : IsoTp :=
  { s with
    txOffset := s.txOffset + s.txCopyLen
    txSn := (s.txSn + 1) &&& 0x0F
    txBsCount := s.txBsCount + 1 }

def advanced (s : IsoTp) : Nat → IsoTp
  | 0 => s
  | n + 1 => s.advance.advanced n

def nextCfs (mem : Memory) (s : IsoTp) : Nat → List CanFrame
  | 0 => []
  | n + 1 => s.cfFrame mem :: s.advance.nextCfs mem n

def framesLeft (s : IsoTp) : Nat := (s.txTotal - s.txOffset + 6) / 7

def paused (can : ICanInterface) (s : IsoTp) : IsoTp :=
  { s with
    txState := .waitFc
    txDeadline := can.getTickMs + s.cfg.nBsMs
    txBsCount := 0 }

def finished (s : IsoTp) : IsoTp := { s with txState := .idle }

def opened (s : IsoTp) (frame : CanFrame) : IsoTp :=
  { s with
    txBsRem := frame.data 1
    txBsCount := 0
    txStMin := if frame.data 2 ≤ 0x7F then (frame.data 2).setWidth 32 else 1
    txState := .sending }

theorem framesLeft_pos (s : IsoTp) : 0 < s.framesLeft ↔ s.txOffset < s.txTotal := by
  unfold framesLeft
  omega

theorem framesLeft_advance (s : IsoTp) : s.advance.framesLeft = s.framesLeft - 1 := by
  unfold framesLeft advance txCopyLen
  dsimp only
  split <;> omega

theorem framesLeft_advanced (s : IsoTp) (n : Nat) : (s.advanced n).framesLeft = s.framesLeft - n := by
  induction n generalizing s with
  | zero => rfl
  | succ n ih =>
    rw [advanced, ih, framesLeft_advance]
    omega

/-- Advancing only moves the transmitter on: what does not look at these three fields stays. -/
theorem advanced_keeps {α : Type} (view : IsoTp → α)
    (kept : ∀ (s : IsoTp) (txOffset : Nat) (txSn txBsCount : Byte),
      view { s with txOffset := txOffset, txSn := txSn, txBsCount := txBsCount } = view s)
    (s : IsoTp) (n : Nat) : view (s.advanced n) = view s := by
  induction n generalizing s with
  | zero => rfl
  | succ n ih =>
    rw [advanced, ih]
    exact kept s _ _ _

theorem advanced_cfg (s : IsoTp) (n : Nat) : (s.advanced n).cfg = s.cfg := advanced_keeps cfg (fun _ _ _ _ => rfl) s n

theorem advanced_txState (s : IsoTp) (n : Nat) : (s.advanced n).txState = s.txState :=
  advanced_keeps txState (fun _ _ _ _ => rfl) s n

theorem nextCfs_length (mem : Memory) (s : IsoTp) (n : Nat) : (s.nextCfs mem n).length = n := by
  induction n generalizing s with
  | zero => rfl
  | succ n ih => rw [nextCfs, List.length_cons, ih]

theorem cfFrame_isCf (mem : Memory) (s : IsoTp) : IsCf (s.cfFrame mem) := by
  have first : (s.cfFrame mem).data 0 = 0x20 ||| (s.txSn &&& 0x0F) := rfl
  rw [IsCf, pciType, first]
  exact cf_type_nibble _

theorem nextCfs_isCf (mem : Memory) (s : IsoTp) (n : Nat) : ∀ frame ∈ s.nextCfs mem n, IsCf frame := by
  induction n generalizing s with
  | zero => exact List.forall_mem_nil _
  | succ n ih => exact List.forall_mem_cons.mpr ⟨cfFrame_isCf mem s, ih s.advance⟩

theorem cfsOf_nextCfs (mem : Memory) (s : IsoTp) (n : Nat) : cfsOf (s.nextCfs mem n) = s.nextCfs mem n :=
  List.filter_eq_self.mpr fun frame member => decide_eq_true (nextCfs_isCf mem s n frame member)

end IsoTp

open IsoTp

theorem blockFrames_pos {bs : Byte} {left : Nat} : 0 < blockFrames bs left ↔ 0 < left := by
  unfold blockFrames
  split
  · exact Iff.rfl
  · rename_i limited
    have some : bs.toNat ≠ 0 := fun zero => limited (BitVec.eq_of_toNat_eq zero)
    omega

theorem blockFrames_le (bs : Byte) (left : Nat) : blockFrames bs left ≤ left := by
  unfold blockFrames
  split
  · exact Nat.le_refl left
  · exact Nat.min_le_right _ _

inductive Sweep (can : ICanInterface) (mem : Memory) (s : IsoTp) (n : Nat) (sent : List CanFrame) : Outcome → Prop
  | refused (i : Nat) (inside : i < n) (taken : ∀ j, j < i → can.send (sent.length + j) = true)
      (refusal : can.send (sent.length + i) = false) :
      Sweep can mem s n sent ⟨.error, s.advanced i, sent ++ s.nextCfs mem (i + 1)⟩
  | paused (more : n < s.framesLeft) (taken : ∀ j, j < n → can.send (sent.length + j) = true) :
      Sweep can mem s n sent ⟨.pending, (s.advanced n).paused can, sent ++ s.nextCfs mem n⟩
  | finished (all : n = s.framesLeft) (taken : ∀ j, j < n → can.send (sent.length + j) = true) :
      Sweep can mem s n sent ⟨.ok, (s.advanced n).finished, sent ++ s.nextCfs mem n⟩

variable {can : ICanInterface} {mem : Memory} {s : IsoTp} {frame : CanFrame}

theorem taken_cons {sent : List CanFrame} {frame : CanFrame} {n : Nat} (first : can.send sent.length = true)
    (rest : ∀ j, j < n → can.send ((sent ++ [frame]).length + j) = true) :
    ∀ j, j < n + 1 → can.send (sent.length + j) = true := by
  intro j inside
  cases j with
  | zero => exact first
  | succ j =>
    have later := rest j (Nat.lt_of_succ_lt_succ inside)
    rw [List.length_append, List.length_singleton, Nat.add_assoc, Nat.add_comm 1] at later
    exact later

theorem Sweep.cons {n : Nat} {sent : List CanFrame} {outcome : Outcome} (left : s.txOffset < s.txTotal)
    (first : can.send sent.length = true) (rest : Sweep can mem s.advance n (sent ++ [s.cfFrame mem]) outcome) :
    Sweep can mem s (n + 1) sent outcome := by
  have some := s.framesLeft_pos.mpr left
  have fewer := s.framesLeft_advance
  cases rest with
  | refused i inside taken refusal =>
    rw [List.append_assoc]
    refine .refused (i + 1) (Nat.succ_lt_succ inside) (taken_cons first taken) ?_
    rw [List.length_append, List.length_singleton, Nat.add_assoc, Nat.add_comm 1] at refusal
    exact refusal
  | paused more taken =>
    rw [List.append_assoc]
    exact .paused (by omega) (taken_cons first taken)
  | finished all taken =>
    rw [List.append_assoc]
    exact .finished (by omega) (taken_cons first taken)

theorem sendNextCfLoop_sweep (can : ICanInterface) (mem : Memory) (rounds : Nat) (s : IsoTp) (sent : List CanFrame)
    (enough : s.txTotal - s.txOffset ≤ rounds) :
    Sweep can mem s (released s.txBsRem s.txBsCount s.framesLeft) sent (sendNextCfLoop can mem rounds s sent) := by
  have nothing : ∀ s : IsoTp, ¬ s.txOffset < s.txTotal → ∀ sent,
      Sweep can mem s (released s.txBsRem s.txBsCount s.framesLeft) sent ⟨.ok, s.finished, sent⟩ := by
    intro s none sent
    have zero : s.framesLeft = 0 := by
      have pos := s.framesLeft_pos
      omega
    have ended := @Sweep.finished can mem s 0 sent zero.symm fun j inside => absurd inside (Nat.not_lt_zero j)
    rw [nextCfs, List.append_nil] at ended
    rw [zero, released_zero]
    exact ended
  induction rounds generalizing s sent with
  | zero => exact nothing s (by omega) sent
  | succ rounds ih =>
    unfold sendNextCfLoop
    by_cases left : s.txOffset < s.txTotal
    · have some := s.framesLeft_pos.mpr left
      rw [if_pos left]
      by_cases full : s.txBsRem ≠ 0 ∧ s.txBsCount ≥ s.txBsRem
      · have ended := @Sweep.paused can mem s 0 sent some fun j inside => absurd inside (Nat.not_lt_zero j)
        rw [nextCfs, List.append_nil] at ended
        rw [if_pos full, released_full full]
        exact ended
      · have room : s.txBsRem = 0 ∨ s.txBsCount.toNat < s.txBsRem.toNat := by
          by_cases zero : s.txBsRem = 0
          · exact Or.inl zero
          · exact Or.inr (BitVec.lt_def.mp (BitVec.not_le.mp fun above => full ⟨zero, above⟩))
        have frames : s.framesLeft = s.advance.framesLeft + 1 := by
          rw [framesLeft_advance]
          omega
        rw [if_neg full, frames, released_succ room, Nat.add_comm 1]
        by_cases taken : can.send sent.length = true
        · have copied : 0 < s.txCopyLen := by
            rw [txCopyLen]
            split <;> omega
          rw [if_pos taken]
          exact (ih s.advance (sent ++ [s.cfFrame mem]) (by dsimp only [advance]; omega)).cons left taken
        · rw [if_neg taken]
          exact .refused 0 (Nat.succ_pos _) (fun j inside => absurd inside (Nat.not_lt_zero j))
            (Bool.not_eq_true _ ▸ taken)
    · rw [if_neg left]
      exact nothing s left sent

/-- Where the driver takes all n frames, it takes the first one if there is one. -/
theorem taken_few {n : Nat} (taken : ∀ j, j < n → can.send (([] : List CanFrame).length + j) = true) :
    n ≤ 1 ↔ n ≤ 1 ∨ can.send 0 = false := by
  cases n with
  | zero => exact iff_of_true (Nat.zero_le 1) (Or.inl (Nat.zero_le 1))
  | succ n =>
    have first : can.send 0 = true := taken 0 (Nat.succ_pos n)
    rw [first, Bool.true_eq_false, or_false]

/-- How many frames the loop hands to the driver: a refused one is the last. -/
theorem Sweep.handed {n : Nat} {outcome : Outcome} (sweep : Sweep can mem s n [] outcome) :
    ∃ count, outcome.sent = s.nextCfs mem count ∧ count ≤ n ∧ (0 < n → 0 < count) ∧
      (count ≤ 1 ↔ n ≤ 1 ∨ can.send 0 = false) := by
  cases sweep with
  | refused i inside taken refusal =>
    refine ⟨i + 1, rfl, inside, fun _ => Nat.succ_pos i, ?_⟩
    cases i with
    | zero => exact iff_of_true (Nat.le_refl 1) (Or.inr refusal)
    | succ i =>
      have first : can.send 0 = true := taken 0 (Nat.succ_pos i)
      rw [first]
      refine iff_of_false (by omega) ?_
      simp only [Bool.true_eq_false, or_false]
      omega
  | paused _ taken => exact ⟨n, rfl, Nat.le_refl n, id, taken_few taken⟩
  | finished _ taken => exact ⟨n, rfl, Nat.le_refl n, id, taken_few taken⟩

inductive TxEffect (can : ICanInterface) (mem : Memory) (s : IsoTp) (frame : CanFrame) (outcome : Outcome) : Prop where
  | quiet (tx : outcome.state.tx = s.tx) (sent : ∀ reply ∈ outcome.sent, reply = s.fcFrame kFcCts s.cfg.blockSize s.cfg.stMinMs)
      (unanswered : ∀ fs, IsFc s.cfg fs frame → s.txState ≠ .waitFc)
  | waited (waiting : s.txState = .waitFc) (fc : IsFc s.cfg kFcWait frame)
      (handled : outcome = ⟨.pending, { s with txDeadline := can.getTickMs + s.cfg.nBsMs }, []⟩)
  | aborted (waiting : s.txState = .waitFc) (fs : Byte) (fc : IsFc s.cfg fs frame) (other : fs ≠ kFcCts ∧ fs ≠ kFcWait)
      (state : outcome.state = s) (sent : outcome.sent = [])
  | swept (waiting : s.txState = .waitFc) (fc : IsFc s.cfg kFcCts frame)
      (sweep : Sweep can mem (s.opened frame) (blockFrames (frame.data 1) s.framesLeft) [] outcome)

theorem handleFc_effect (can : ICanInterface) (mem : Memory) (id : frame.id = s.cfg.rxId) (type : pciType frame = 3) :
    TxEffect can mem s frame (s.handleFc can mem frame) := by
  by_cases waiting : s.txState = .waitFc
  · simp only [handleFc, waiting, ne_eq, not_true_eq_false, if_false]
    by_cases short : frame.dlc < 3
    · have unanswered : ∀ fs, IsFc s.cfg fs frame → s.txState ≠ .waitFc := fun _ fc => absurd short fc.enough
      rw [if_pos short]
      exact .quiet rfl (List.forall_mem_nil _) unanswered
    · have enough : 3 ≤ frame.dlc.toNat := Nat.not_lt.mp fun less => short (BitVec.lt_def.mpr less)
      rw [if_neg short]
      by_cases overflow : frame.data 0 &&& 0x0F = kFcOvfl
      · rw [if_pos overflow]
        exact .aborted waiting kFcOvfl ⟨id, enough, type, overflow⟩ (by decide) rfl rfl
      · rw [if_neg overflow]
        by_cases wait : frame.data 0 &&& 0x0F = kFcWait
        · rw [if_pos wait]
          exact .waited waiting ⟨id, enough, type, wait⟩ (by rw [← waiting])
        · rw [if_neg wait]
          by_cases cts : frame.data 0 &&& 0x0F = kFcCts
          · rw [if_neg (not_not_intro cts)]
            exact .swept waiting ⟨id, enough, type, cts⟩ (sendNextCfLoop_sweep can mem _ (s.opened frame) [] (Nat.le_refl _))
          · rw [if_pos cts]
            exact .aborted waiting _ ⟨id, enough, type, rfl⟩ ⟨cts, wait⟩ rfl rfl
  · rw [handleFc_refused can waiting]
    exact .quiet rfl (List.forall_mem_nil _) fun _ _ => waiting

theorem processFrame_effect (can : ICanInterface) (mem : Memory) (s : IsoTp) (frame : CanFrame) :
    TxEffect can mem s frame (s.processFrame can mem frame) := by
  by_cases unaddressed : frame.id ≠ s.cfg.rxId ∨ frame.dlc = 0
  · have unanswered : ∀ fs, IsFc s.cfg fs frame → s.txState ≠ .waitFc := by
      intro fs fc
      rcases unaddressed with other | empty
      · exact absurd fc.1 other
      · have long := fc.2.1
        rw [empty] at long
        exact absurd long (by decide)
    rw [processFrame, if_pos unaddressed]
    exact .quiet rfl (List.forall_mem_nil _) unanswered
  · have id := Decidable.not_not.mp (not_or.mp unaddressed).1
    have unanswered : pciType frame ≠ 3 → ∀ fs, IsFc s.cfg fs frame → s.txState ≠ .waitFc :=
      fun other _ fc => absurd fc.2.2.1 other
    by_cases type : pciType frame = 3
    · rw [processFrame_flowControl can mem s frame id (not_or.mp unaddressed).2 type]
      exact handleFc_effect can mem id type
    · apply processFrame_cases (TxEffect can mem s frame)
      · exact .quiet rfl (List.forall_mem_nil _) (unanswered type)
      · intro _
        refine .quiet (handleSf_tx s frame) ?_ (unanswered type)
        rw [handleSf_sent]
        exact List.forall_mem_nil _
      · intro _
        refine .quiet (handleFf_tx can s frame) ?_ (unanswered type)
        rcases handleFf_spec can s frame with ⟨refused, _⟩ | ⟨_, accepted⟩
        · rw [refused]
          exact List.forall_mem_nil _
        · rw [accepted]
          exact List.forall_mem_singleton.mpr rfl
      · intro _
        refine .quiet (handleCf_tx can s frame) ?_ (unanswered type)
        rw [handleCf_sent]
        exact List.forall_mem_nil _
      · exact fun other => absurd other type

inductive SendEffect (can : ICanInterface) (mem : Memory) (s : IsoTp) (data : Option Pointer) (length : Nat)
    (outcome : Outcome) : Prop where
  | refused (bad : data = none ∨ length = 0 ∨ maxPayload < length) (handled : outcome = ⟨.error, s, []⟩)
  | single (source : Pointer) (given : data = some source) (some : 0 < length) (short : length ≤ 7)
      (state : outcome.state = s) (sent : outcome.sent = [s.sfFrame mem source length])
  | blocked (source : Pointer) (given : data = some source) (long : 8 ≤ length) (fits : length ≤ maxPayload)
      (refusal : can.send 0 = false) (state : outcome.state = s) (sent : outcome.sent = [s.ffFrame mem source length])
  | first (source : Pointer) (given : data = some source) (multi : Multi can length)
      (handled : outcome = ⟨.pending, s.started can source length, [s.ffFrame mem source length]⟩)

theorem send_effect (can : ICanInterface) (mem : Memory) (s : IsoTp) (data : Option Pointer) (length : Nat) :
    SendEffect can mem s data length (s.send can mem data length) := by
  cases data with
  | none => exact .refused (Or.inl rfl) rfl
  | some source =>
    by_cases bad : length = 0 ∨ length > maxPayload
    · exact .refused (Or.inr bad) (if_pos bad)
    · have fits := Nat.le_of_not_lt (not_or.mp bad).2
      have some := Nat.pos_of_ne_zero (not_or.mp bad).1
      by_cases short : length ≤ 7
      · simp only [send, if_neg bad, if_pos short]
        exact .single source rfl some short rfl rfl
      · have long := Nat.lt_of_not_le short
        cases taken : can.send 0 with
        | true => exact .first source rfl ⟨long, fits, taken⟩ (send_first can mem s source length long fits taken)
        | false =>
          simp only [send, if_neg bad, if_neg short, taken, Bool.false_eq_true, if_false]
          exact .blocked source rfl long fits taken rfl rfl

structure TxInvariant (s : IsoTp) : Prop where
  unfinished : s.txState = .waitFc → s.txOffset < s.txTotal

theorem TxInvariant.of_tx {t : IsoTp} (same : t.tx = s.tx) (invariant : TxInvariant s) : TxInvariant t := by
  simp only [IsoTp.tx, TxView.mk.injEq] at same
  obtain ⟨state, _, total, offset, _⟩ := same
  constructor
  rw [state, total, offset]
  exact invariant.unfinished

theorem Sweep.unfinished {n : Nat} {sent : List CanFrame} {outcome : Outcome} (sweep : Sweep can mem s n sent outcome)
    (sending : s.txState = .sending) : TxInvariant outcome.state := by
  constructor
  intro waiting
  cases sweep with
  | refused i _ _ _ =>
    rw [advanced_txState, sending] at waiting
    cases waiting
  | paused more _ =>
    have rest := s.framesLeft_advanced n
    apply (s.advanced n).framesLeft_pos.mp
    omega
  | finished _ _ => cases waiting

theorem TxInvariant.processFrame (invariant : TxInvariant s) (can : ICanInterface) (mem : Memory) (frame : CanFrame) :
    TxInvariant (s.processFrame can mem frame).state := by
  cases processFrame_effect can mem s frame with
  | quiet tx _ _ => exact invariant.of_tx tx
  | waited _ _ handled =>
    rw [handled]
    exact ⟨invariant.unfinished⟩
  | aborted _ _ _ _ state _ =>
    rw [state]
    exact invariant
  | swept _ _ sweep => exact sweep.unfinished rfl

theorem TxInvariant.send (invariant : TxInvariant s) (can : ICanInterface) (mem : Memory) (data : Option Pointer)
    (length : Nat) : TxInvariant (s.send can mem data length).state := by
  cases data with
  | none => exact invariant
  | some source =>
    by_cases multi : Multi can length
    · rw [send_first can mem s source length multi.1 multi.2.1 multi.2.2]
      exact ⟨fun _ => Nat.lt_of_lt_of_le (by decide : 6 < 8) multi.1⟩
    · rw [send_other can s source length multi]
      exact invariant

theorem TxInvariant.next (invariant : TxInvariant s) (event : Event) : TxInvariant (isoTp.next s event) := by
  cases event with
  | frame can mem frame => exact invariant.processFrame can mem frame
  | update now => exact ⟨fun waiting => (invariant.of_tx (update_waiting now s waiting)).unfinished waiting⟩
  | send can mem data length => exact invariant.send can mem data length
  | getData given maxLen => exact invariant.of_tx (getData_tx s given maxLen)

theorem TxInvariant.create (cfg : IsoTpConfig) (rxBuf : Region Byte) : TxInvariant (IsoTp.create cfg rxBuf) := by
  constructor
  intro waiting
  cases waiting

end Uds.Transport
