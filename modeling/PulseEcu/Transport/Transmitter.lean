import PulseEcu.Transport.Receiver
import PulseEcu.Transport.Transmit

open Foundation

namespace Uds.Transport

/-- What a transmitter of messages is about: there is nothing to send, or `k` consecutive frames of
    a message have gone out and the receiver has to grant the next ones until `deadline`. -/
inductive Transmitter where
  | idle
  | waiting (message : List Byte) (k : Nat) (deadline : Word)

inductive TransmitterEvent where
  | flowControl (can : ICanInterface) (status blockSize : Byte)
  | send (can : ICanInterface) (message : Option (List Byte))
  | update (now : Word)

def singleFrame (cfg : IsoTpConfig) (message : List Byte) : CanFrame :=
  .make cfg.txId (BitVec.ofNat 8 (message.length &&& 0x0F) :: message) (BitVec.ofNat 8 (message.length + 1))

def firstFrame (cfg : IsoTpConfig) (message : List Byte) : CanFrame :=
  .make cfg.txId (BitVec.ofNat 8 (0x10 ||| ((message.length >>> 8) &&& 0x0F)) ::
    BitVec.ofNat 8 (message.length &&& 0xFF) :: message.take 6) 8

def segmentFrames (cfg : IsoTpConfig) (message : List Byte) (k count : Nat) : List CanFrame :=
  (List.range' k count).map (segmentFrame cfg message)

def firstRefused (can : ICanInterface) (start count : Nat) : Option Nat :=
  (List.range' start count).find? fun i => !can.send i

namespace Transmitter

def release (cfg : IsoTpConfig) (can : ICanInterface) (message : List Byte) (k : Nat) (blockSize : Byte) :
    Transmitter × Output :=
  let left := cfCount message.length - k
  let block := if blockSize = 0 then left else min blockSize.toNat left
  match firstRefused can 0 block with
  | some i => (.idle, .result .error (segmentFrames cfg message k (i + 1)))
  | none =>
    if block = left then (.idle, .result .ok (segmentFrames cfg message k block))
    else
      (.waiting message (k + block) (can.getTickMs + cfg.nBsMs), .result .pending (segmentFrames cfg message k block))

def flowControl (cfg : IsoTpConfig) (can : ICanInterface) (status blockSize : Byte) :
    Transmitter → Transmitter × Output
  | .idle => (.idle, .result .error [])
  | .waiting message k deadline =>
    if status = kFcOvfl then (.waiting message k deadline, .result .overflow [])
    else if status = kFcWait then (.waiting message k (can.getTickMs + cfg.nBsMs), .result .pending [])
    else if status ≠ kFcCts then (.waiting message k deadline, .result .error [])
    else release cfg can message k blockSize

def send (cfg : IsoTpConfig) (can : ICanInterface) (t : Transmitter) : Option (List Byte) → Transmitter × Output
  | none => (t, .result .error [])
  | some message =>
    if message.length = 0 ∨ message.length > maxPayload then (t, .result .error [])
    else if message.length ≤ 7 then (t, .result (if can.send 0 then .ok else .error) [singleFrame cfg message])
    else if can.send 0 then
      (.waiting message 0 (can.getTickMs + cfg.nBsMs), .result .pending [firstFrame cfg message])
    else (t, .result .error [firstFrame cfg message])

def update (now : Word) : Transmitter → Transmitter
  | .idle => .idle
  | .waiting message k deadline => if deadline > 0 ∧ now ≥ deadline then .idle else .waiting message k deadline

end Transmitter

def transmitter (cfg : IsoTpConfig) : Machine Transmitter TransmitterEvent Output where
  step t
    | .flowControl can status blockSize => t.flowControl cfg can status blockSize
    | .send can message => t.send cfg can message
    | .update now => (t.update now, .none)

/-- What a call means to the transmitting half: frames other than flow control nothing, and a buffer
    what lies in it. -/
def told (cfg : IsoTpConfig) : Event → Option TransmitterEvent
  | .frame can _ frame =>
    match readPdu cfg frame with
    | some (.flowControl status blockSize _) => some (.flowControl can status blockSize)
    | _ => none
  | .update now => some (.update now)
  | .send can mem data length => some (.send can (data.map fun data => (mem data).load 0 length))
  | .getData .. => none

theorem told_other {cfg : IsoTpConfig} {frame : CanFrame} (can : ICanInterface) (mem : Memory)
    (other : ∀ status bs st, readPdu cfg frame ≠ some (.flowControl status bs st)) :
    told cfg (.frame can mem frame) = none := by
  cases read : readPdu cfg frame with
  | none => simp only [told, read]
  | some pdu =>
    cases pdu with
    | flowControl status bs st => exact absurd read (other status bs st)
    | _ => simp only [told, read]

structure Waits (s : IsoTp) (message : List Byte) (k : Nat) (deadline : Word) : Prop where
  state : s.txState = .waitFc
  total : s.txTotal = message.length
  offset : s.txOffset = min (6 + 7 * k) message.length
  sn : s.txSn = sequenceNumber (k + 1)
  more : k < cfCount message.length
  deadline : s.txDeadline = deadline

def Transmitter.Of (s : IsoTp) : Transmitter → Prop
  | .idle => s.txState ≠ .waitFc
  | .waiting message k deadline => Waits s message k deadline

structure Conveys (cfg : IsoTpConfig) (s : IsoTp) (t : Transmitter) : Prop where
  cfg : s.cfg = cfg
  of : t.Of s

def KeepsBuffer (s : IsoTp) (t : Transmitter) : Event → Prop
  | .frame _ mem _ => ∀ message k deadline, t = .waiting message k deadline →
      (s.txBytes mem).load (6 + 7 * k) (message.length - (6 + 7 * k)) = message.drop (6 + 7 * k)
  | _ => True

theorem firstRefused_taken {can : ICanInterface} {start : Nat} (taken : can.send start = true) (count : Nat) :
    firstRefused can start (count + 1) = firstRefused can (start + 1) count := by
  rw [firstRefused, List.range'_succ, List.find?_cons, taken]
  rfl

theorem firstRefused_now {can : ICanInterface} {start : Nat} (refused : ¬ can.send start = true) (count : Nat) :
    firstRefused can start (count + 1) = some start := by
  have off : can.send start = false := Bool.not_eq_true _ ▸ refused
  rw [firstRefused, List.range'_succ, List.find?_cons, off]
  rfl

theorem firstRefused_reliable {can : ICanInterface} (reliable : can.Reliable) (start count : Nat) :
    firstRefused can start count = none := by
  apply List.find?_eq_none.mpr
  intro i _
  simp [reliable i]

inductive Release (can : ICanInterface) (mem : Memory) (message : List Byte) (before : IsoTp) (k block : Nat)
    (sent : List CanFrame) (outcome : Outcome) : Prop where
  | refused (i : Nat) (first : firstRefused can sent.length block = some (sent.length + i))
      (result : outcome.result = .error) (state : outcome.state.txState = before.txState)
      (frames : outcome.sent = sent ++ segmentFrames before.cfg message k (i + 1))
  | finished (none : firstRefused can sent.length block = none) (all : k + block = cfCount message.length)
      (result : outcome.result = .ok) (state : outcome.state.txState = .idle)
      (frames : outcome.sent = sent ++ segmentFrames before.cfg message k block)
  | paused (none : firstRefused can sent.length block = none)
      (result : outcome.result = .pending) (frames : outcome.sent = sent ++ segmentFrames before.cfg message k block)
      (waits : Waits outcome.state message (k + block) (can.getTickMs + before.cfg.nBsMs))

theorem segmentFrames_succ (cfg : IsoTpConfig) (message : List Byte) (k count : Nat) :
    segmentFrames cfg message k (count + 1) =
      segmentFrame cfg message k :: segmentFrames cfg message (k + 1) count := by
  rw [segmentFrames, List.range'_succ, List.map_cons]
  rfl

theorem segmentFrames_add (cfg : IsoTpConfig) (message : List Byte) (k first second : Nat) :
    segmentFrames cfg message k first ++ segmentFrames cfg message (k + first) second =
      segmentFrames cfg message k (first + second) := by
  rw [segmentFrames, segmentFrames, ← List.map_append, List.range'_append_1]
  rfl

section

variable {can : ICanInterface} {mem : Memory} {message : List Byte} {s t : IsoTp} {k block : Nat}
  {sent : List CanFrame} {outcome : Outcome}

theorem Release.first
    (rest : Release can mem message t (k + 1) block (sent ++ [segmentFrame s.cfg message k]) outcome)
    (cfg : t.cfg = s.cfg) (same : t.txState = s.txState) (taken : can.send sent.length = true) :
    Release can mem message s k (block + 1) sent outcome := by
  have next := firstRefused_taken taken block
  have length : (sent ++ [segmentFrame s.cfg message k]).length = sent.length + 1 := by simp
  cases rest with
  | refused i first result state frames =>
    rw [length] at first
    refine .refused (i + 1) (by rw [next, first, Nat.add_assoc, Nat.add_comm 1]) result (state.trans same) ?_
    rw [frames, cfg, List.append_assoc, segmentFrames_succ]
    rfl
  | finished none all result state frames =>
    rw [length] at none
    refine .finished (next.trans none) (by omega) result state ?_
    rw [frames, cfg, List.append_assoc, segmentFrames_succ]
    rfl
  | paused none result frames waits =>
    rw [length] at none
    refine .paused (next.trans none) result ?_ ?_
    · rw [frames, cfg, List.append_assoc, segmentFrames_succ]
      rfl
    · rwa [cfg, Nat.add_right_comm, Nat.add_assoc] at waits

theorem Release.over (can : ICanInterface) (mem : Memory) (s : IsoTp) (sent : List CanFrame) (bs count : Byte)
    (all : k = cfCount message.length) :
    Release can mem message s k (released bs count (cfCount message.length - k)) sent
      ⟨.ok, { s with txState := .idle }, sent⟩ := by
  rw [all, Nat.sub_self, released_zero]
  exact .finished rfl rfl rfl rfl (by simp [segmentFrames])

/-- The loop of `send_next_cf` from frame number k on, whatever the driver takes. -/
theorem sendNextCfLoop_release (can : ICanInterface) (rounds : Nat) (sent : List CanFrame)
    (sends : Sends s mem message k) (enough : s.txTotal - s.txOffset ≤ rounds) :
    Release can mem message s k (released s.txBsRem s.txBsCount (cfCount message.length - k)) sent
      (IsoTp.sendNextCfLoop can mem rounds s sent) := by
  have bound := sends.bound
  induction rounds generalizing s k sent with
  | zero =>
    have done : ¬ k < cfCount message.length := by
      rw [← sends.unfinished]
      omega
    exact .over can mem s sent _ _ (by omega)
  | succ rounds ih =>
    unfold IsoTp.sendNextCfLoop
    by_cases left : k < cfCount message.length
    · have unsent := sends.unfinished.mpr left
      have frames : cfCount message.length - k = cfCount message.length - (k + 1) + 1 := by omega
      rw [if_pos unsent]
      by_cases full : s.txBsRem ≠ 0 ∧ s.txBsCount ≥ s.txBsRem
      · rw [if_pos full, released_full full]
        refine .paused rfl rfl (by simp [segmentFrames]) ⟨rfl, sends.total, sends.offset, sends.sn, left, rfl⟩
      · -- one more frame, if the driver takes it: `sends` goes on at k + 1
        have room : s.txBsRem = 0 ∨ s.txBsCount.toNat < s.txBsRem.toNat := by
          by_cases zero : s.txBsRem = 0
          · exact Or.inl zero
          · exact Or.inr (BitVec.lt_def.mp (BitVec.not_le.mp fun above => full ⟨zero, above⟩))
        rw [if_neg full, frames, released_succ room, Nat.add_comm 1, sends.frame]
        by_cases taken : can.send sent.length = true
        · have copied : 0 < s.txCopyLen := by
            rw [IsoTp.txCopyLen]
            split
            · omega
            · omega
          rw [if_pos taken]
          have rest := ih (sent ++ [segmentFrame s.cfg message k]) (sends.advance left) (by dsimp only; omega) left
          exact rest.first rfl rfl taken
        · rw [if_neg taken]
          exact .refused 0 (firstRefused_now taken _) rfl rfl rfl
    · rw [if_neg (mt sends.unfinished.mp left)]
      exact .over can mem s sent _ _ (by omega)

end

section

variable {s : IsoTp} {frame : CanFrame} (can : ICanInterface) (mem : Memory)

theorem flowControl_read {status bs st : Byte} (read : readPdu s.cfg frame = some (.flowControl status bs st)) :
    s.processFrame can mem frame = s.handleFc can mem frame ∧ ¬ frame.dlc < 3 ∧
      status = frame.data 0 &&& 0x0F ∧ bs = frame.data 1 := by
  by_cases rejected : Rejected s.cfg frame
  · rw [readPdu_rejected rejected] at read
    cases read
  · rcases not_rejected rejected with ⟨id, nonempty, single | first | consecutive | flowControl⟩
    · rw [readPdu_single rejected single] at read
      cases read
    · rw [readPdu_first rejected first] at read
      cases read
    · rw [readPdu_consecutive rejected consecutive] at read
      cases read
    · rw [readPdu_flowControl rejected flowControl] at read
      split at read
      · cases read
      · rename_i long
        cases read
        exact ⟨IsoTp.processFrame_flowControl can mem s frame id nonempty flowControl, long, rfl, rfl⟩

theorem IsCts.read {cfg : IsoTpConfig} (cts : IsCts cfg frame) :
    readPdu cfg frame = some (.flowControl kFcCts (frame.data 1) (frame.data 2)) := by
  have least := cts.dlc
  have nonempty : frame.dlc ≠ 0 := by
    intro zero
    rw [zero] at least
    exact absurd least (by decide)
  have long : ¬ frame.dlc < 3 := fun short => absurd (BitVec.lt_def.mp short) (Nat.not_lt.mpr least)
  have type : pciType frame = 3 := by
    rw [pciType, cts.pci]
    rfl
  have addressed : ¬ (frame.id ≠ cfg.rxId ∨ frame.dlc = 0) := not_or.mpr ⟨not_not_intro cts.id, nonempty⟩
  rw [readPdu, if_neg addressed, type, if_neg (by decide), if_neg (by decide), if_neg (by decide), if_pos rfl,
    if_neg long, cts.pci]
  rfl

structure Told (after : Transmitter × Output) (outcome : Outcome) : Prop where
  of : after.1.Of outcome.state
  shows : .result outcome.result outcome.sent = after.2

theorem Waits.of_tx {t : IsoTp} {message : List Byte} {k : Nat} {deadline : Word} (same : t.tx = s.tx)
    (waits : Waits s message k deadline) : Waits t message k deadline := by
  simp only [IsoTp.tx, TxView.mk.injEq] at same
  obtain ⟨state, _, total, offset, sn, _, _, _, due⟩ := same
  exact ⟨state.trans waits.state, total.trans waits.total, offset.trans waits.offset, sn.trans waits.sn, waits.more,
    due.trans waits.deadline⟩

theorem Transmitter.Of.of_tx {t : IsoTp} {transmitter : Transmitter} (same : t.tx = s.tx) (of : transmitter.Of s) :
    transmitter.Of t := by
  cases transmitter with
  | idle => exact fun waiting => of ((congrArg TxView.state same).symm.trans waiting)
  | waiting message k deadline => exact Waits.of_tx same of

theorem Release.told {message : List Byte} {k : Nat} {bs : Byte} {opened : IsoTp} {outcome : Outcome}
    (release : Release can mem message opened k (released bs 0 (cfCount message.length - k)) [] outcome)
    (sending : opened.txState ≠ .waitFc) :
    Told (Transmitter.release opened.cfg can message k bs) outcome := by
  have block : (if bs = 0 then cfCount message.length - k else min bs.toNat (cfCount message.length - k)) =
      released bs 0 (cfCount message.length - k) := by
    have zero : (0 : Byte).toNat = 0 := rfl
    rw [released, zero, Nat.sub_zero]
  unfold Transmitter.release
  dsimp only
  rw [block]
  cases release with
  | refused i first result state frames =>
    rw [List.length_nil, Nat.zero_add] at first
    simp only [first]
    constructor
    · exact fun waiting => sending (state.symm.trans waiting)
    · rw [result, frames, List.nil_append]
  | finished none all result state frames =>
    rw [List.length_nil] at none
    have whole : released bs 0 (cfCount message.length - k) = cfCount message.length - k := by omega
    simp only [none, if_pos whole]
    constructor
    · exact fun waiting => absurd (state.symm.trans waiting) (by decide)
    · rw [result, frames, List.nil_append]
  | paused none result frames waits =>
    rw [List.length_nil] at none
    have more := waits.more
    have part : released bs 0 (cfCount message.length - k) ≠ cfCount message.length - k := by omega
    simp only [none, if_neg part]
    constructor
    · exact waits
    · rw [result, frames, List.nil_append]

theorem told_flowControl {t : Transmitter} (of : t.Of s) (long : ¬ frame.dlc < 3)
    (kept : KeepsBuffer s t (.frame can mem frame)) :
    Told (t.flowControl s.cfg can (frame.data 0 &&& 0x0F) (frame.data 1)) (s.handleFc can mem frame) := by
  cases t with
  | idle =>
    have idle : s.txState ≠ .waitFc := of
    rw [IsoTp.handleFc, if_pos idle]
    exact ⟨of, rfl⟩
  | waiting message k deadline =>
    have waits : Waits s message k deadline := of
    have bytes := kept message k deadline rfl
    simp only [IsoTp.handleFc, waits.state, ne_eq, not_true_eq_false, if_false, if_neg long, Transmitter.flowControl]
    by_cases overflow : frame.data 0 &&& 0x0F = kFcOvfl
    · rw [if_pos overflow, if_pos overflow]
      exact ⟨of, rfl⟩
    · rw [if_neg overflow, if_neg overflow]
      by_cases wait : frame.data 0 &&& 0x0F = kFcWait
      · rw [if_pos wait, if_pos wait]
        exact ⟨⟨rfl, waits.total, waits.offset, waits.sn, waits.more, rfl⟩, rfl⟩
      · rw [if_neg wait, if_neg wait]
        by_cases other : ¬ frame.data 0 &&& 0x0F = kFcCts
        · rw [if_pos other, if_pos other]
          exact ⟨of, rfl⟩
        · rw [if_neg other, if_neg other]
          have sends : Sends { s with
              txBsRem := frame.data 1
              txBsCount := 0
              txStMin := if frame.data 2 ≤ 0x7F then (frame.data 2).setWidth 32 else 1
              txState := .sending } mem message k :=
            ⟨bytes, waits.total, waits.offset, waits.sn, Nat.le_of_lt waits.more⟩
          have release := sendNextCfLoop_release can (s.txTotal - s.txOffset) [] sends (Nat.le_refl _)
          refine release.told can mem fun waiting => ?_
          cases waiting

theorem told_send {t : Transmitter} (of : t.Of s) (data : Option Pointer) (length : Nat) :
    Told (t.send s.cfg can (data.map fun data => (mem data).load 0 length)) (s.send can mem data length) := by
  cases data with
  | none => exact ⟨of, rfl⟩
  | some pointer =>
    have size : ((mem pointer).load 0 length).length = length := Region.load_length ..
    simp only [IsoTp.send, Option.map_some, Transmitter.send, size]
    by_cases refused : length = 0 ∨ length > maxPayload
    · rw [if_pos refused, if_pos refused]
      exact ⟨of, rfl⟩
    · rw [if_neg refused, if_neg refused]
      by_cases short : length ≤ 7
      · rw [if_pos short, if_pos short]
        refine ⟨of, ?_⟩
        rw [singleFrame, size]
        rfl
      · rw [if_neg short, if_neg short]
        have first : firstFrame s.cfg ((mem pointer).load 0 length) = s.ffFrame mem pointer length := by
          rw [firstFrame, size, Region.load_take, Nat.min_eq_left (by omega)]
          rfl
        by_cases taken : can.send 0 = true
        · rw [if_pos taken, if_pos taken, first]
          refine ⟨⟨rfl, size.symm, ?_, rfl, ?_, rfl⟩, rfl⟩
          · rw [size]
            show 6 = min 6 length
            omega
          · rw [size]
            exact (lt_cfCount 0 length).mpr (by omega)
        · rw [if_neg taken, if_neg taken, first]
          exact ⟨of, rfl⟩

theorem told_update {t : Transmitter} (of : t.Of s) (now : Word) : (t.update now).Of (s.update now) := by
  cases t with
  | idle =>
    have idle : ¬ (s.txState = .waitFc ∧ s.txDeadline > 0 ∧ now ≥ s.txDeadline) := fun expired => of expired.1
    exact Transmitter.Of.of_tx (IsoTp.update_tx_early idle) of
  | waiting message k deadline =>
    have waits : Waits s message k deadline := of
    rw [Transmitter.update, ← waits.deadline]
    by_cases late : s.txDeadline > 0 ∧ now ≥ s.txDeadline
    · rw [if_pos late]
      have idle := IsoTp.update_txState now s
      rw [if_pos ⟨waits.state, late⟩] at idle
      exact fun waiting => absurd (idle.symm.trans waiting) (by decide)
    · rw [if_neg late]
      have early : ¬ (s.txState = .waitFc ∧ s.txDeadline > 0 ∧ now ≥ s.txDeadline) := fun expired => late expired.2
      exact Waits.of_tx (IsoTp.update_tx_early early) (waits.deadline.symm ▸ waits)

theorem Conveys.of_tx {cfg : IsoTpConfig} {t : IsoTp} {transmitter : Transmitter} (conveys : Conveys cfg s transmitter)
    (same : t.tx = s.tx) (unchanged : t.cfg = s.cfg) : Conveys cfg t transmitter :=
  ⟨unchanged.trans conveys.cfg, conveys.of.of_tx same⟩

theorem Conveys.update {cfg : IsoTpConfig} {t : Transmitter} (conveys : Conveys cfg s t) (now : Word) :
    Conveys cfg (s.update now) (t.update now) :=
  ⟨(IsoTp.update_cfg now s).trans conveys.cfg, told_update conveys.of now⟩

theorem quiet_frame (other : ∀ status bs st, readPdu s.cfg frame ≠ some (.flowControl status bs st)) :
    (s.processFrame can mem frame).state.tx = s.tx := by
  by_cases rejected : Rejected s.cfg frame
  · rw [rejected_ignored can mem rejected]
  · rcases not_rejected rejected with ⟨id, nonempty, single | first | consecutive | flowControl⟩
    · rw [IsoTp.processFrame_single can mem s frame id nonempty single, IsoTp.handleSf_tx]
    · rw [IsoTp.processFrame_first can mem s frame id nonempty first, IsoTp.handleFf_tx]
    · rw [IsoTp.processFrame_consecutive can mem s frame id nonempty consecutive, IsoTp.handleCf_tx]
    · rw [readPdu_flowControl rejected flowControl] at other
      have short : frame.dlc < 3 := by
        refine Decidable.byContradiction fun long => ?_
        rw [if_neg long] at other
        exact other _ _ _ rfl
      rw [IsoTp.processFrame_flowControl can mem s frame id nonempty flowControl]
      simp only [IsoTp.handleFc, if_pos short]
      split
      · rfl
      · rfl

end

theorem release_goes_on {cfg : IsoTpConfig} {can : ICanInterface} {bs : Byte} {message message' : List Byte}
    {k k' : Nat} {deadline : Word}
    (waiting : (Transmitter.release cfg can message' k' bs).1 = .waiting message k deadline) :
    message' = message ∧ k' ≤ k := by
  unfold Transmitter.release at waiting
  dsimp only at waiting
  generalize (if bs = 0 then cfCount message'.length - k' else min bs.toNat (cfCount message'.length - k')) = block
    at waiting
  cases refused : firstRefused can 0 block with
  | some i =>
    simp only [refused] at waiting
    cases waiting
  | none =>
    simp only [refused] at waiting
    split at waiting
    · cases waiting
    · cases waiting
      exact ⟨rfl, Nat.le_add_right ..⟩

theorem flowControl_goes_on {cfg : IsoTpConfig} {can : ICanInterface} {status bs : Byte} {t : Transmitter}
    {message : List Byte} {k : Nat} {deadline : Word}
    (waiting : (t.flowControl cfg can status bs).1 = .waiting message k deadline) :
    ∃ before due, t = .waiting message before due ∧ before ≤ k := by
  cases t with
  | idle => cases waiting
  | waiting message' k' deadline' =>
    simp only [Transmitter.flowControl] at waiting
    split at waiting
    · cases waiting
      exact ⟨k, deadline, rfl, Nat.le_refl k⟩
    · split at waiting
      · cases waiting
        exact ⟨k, deadline', rfl, Nat.le_refl k⟩
      · split at waiting
        · cases waiting
          exact ⟨k, deadline, rfl, Nat.le_refl k⟩
        · obtain ⟨rfl, further⟩ := release_goes_on waiting
          exact ⟨k', deadline', rfl, further⟩

theorem update_goes_on {t : Transmitter} {now : Word} {message : List Byte} {k : Nat} {deadline : Word}
    (waiting : t.update now = .waiting message k deadline) : t = .waiting message k deadline := by
  cases t with
  | idle => cases waiting
  | waiting message' k' deadline' =>
    simp only [Transmitter.update] at waiting
    split at waiting
    · cases waiting
    · exact waiting

theorem Waits.sends {s : IsoTp} {mem : Memory} {message : List Byte} {k before : Nat} {deadline : Word}
    (waits : Waits s message k deadline) (further : before ≤ k)
    (bytes : (s.txBytes mem).load (6 + 7 * before) (message.length - (6 + 7 * before)) =
      message.drop (6 + 7 * before)) : Sends s mem message k :=
  ⟨load_rest bytes _ (by omega), waits.total, waits.offset, waits.sn, Nat.le_of_lt waits.more⟩

/-- The transmit half is a transmitter of messages that has the message from the call of `send` on,
    as long as the caller leaves its buffer alone. -/
theorem isoTp_simulates_transmitter (cfg : IsoTpConfig) :
    isoTp.Simulates (transmitter cfg) (Conveys cfg) (told cfg) KeepsBuffer := by
  constructor
  · intro s t event means conveys kept meaning
    cases event with
    | frame can mem frame =>
      obtain ⟨rfl, of⟩ := conveys
      cases read : readPdu s.cfg frame with
      | none =>
        simp only [told, read] at meaning
        cases meaning
      | some pdu =>
        simp only [told, read] at meaning
        cases pdu with
        | flowControl status bs st =>
          cases meaning
          obtain ⟨handled, long, rfl, rfl⟩ := flowControl_read can mem read
          have told := told_flowControl can mem of long kept
          rw [← handled] at told
          exact ⟨⟨IsoTp.processFrame_cfg can mem s frame, told.of⟩, told.shows⟩
        | single payload => cases meaning
        | first total payload => cases meaning
        | consecutive sn payload => cases meaning
    | update now =>
      cases meaning
      exact ⟨conveys.update now, rfl⟩
    | send can mem data length =>
      obtain ⟨rfl, of⟩ := conveys
      cases meaning
      have told := told_send can mem of data length
      exact ⟨⟨IsoTp.next_cfg s (.send can mem data length), told.of⟩, told.shows⟩
    | getData given maxLen => cases meaning
  · intro s t event conveys _ meaning
    have cfg := IsoTp.next_cfg s event
    cases event with
    | frame can mem frame =>
      refine conveys.of_tx ?_ cfg
      have same := conveys.cfg
      subst same
      apply quiet_frame can mem
      intro status bs st read
      simp only [told, read] at meaning
      cases meaning
    | update now => cases meaning
    | send can mem data length => cases meaning
    | getData given maxLen => exact conveys.of_tx (IsoTp.getData_tx s given maxLen) cfg

/-- Every run of the transport in which the callers leave their buffers alone hands out and returns,
    at its transmitting calls, what the transmitter of messages does, and ends where that one ends. -/
theorem transmitter_refined (cfg : IsoTpConfig) (rxBuf : Region Byte) (events : List Event)
    (kept : ∀ past event later, events = past ++ event :: later →
      KeepsBuffer (isoTp.run (.create cfg rxBuf) past) ((transmitter cfg).run .idle (past.filterMap (told cfg))) event) :
    ((transmitter cfg).run .idle (events.filterMap (told cfg))).Of (isoTp.run (.create cfg rxBuf) events) ∧
      Machine.shown (told cfg) (isoTp.trace (.create cfg rxBuf) events) =
        ((transmitter cfg).trace .idle (events.filterMap (told cfg))).map Machine.Entry.output := by
  have initial : Conveys cfg (.create cfg rxBuf) .idle := ⟨rfl, fun waiting => nomatch waiting⟩
  obtain ⟨conveys, shows⟩ := (isoTp_simulates_transmitter cfg).run initial events kept
  exact ⟨conveys.of, shows⟩

def tenBytes : Memory := fun _ => (Region.fill 0).store 0 [0x62, 0xF1, 0x90, 0x57, 0x56, 0x57, 0x5A, 0x5A, 0x5A, 0x31]

def sentOnGrant : List Event :=
  [.send .ready tenBytes (some 0) 10, .frame .ready tenBytes (.make 0x7DF [0x30, 0, 0] 3)]

theorem transmitter_refined_tenBytes :
    ((transmitter kDefaultIsoTpConfig).run .idle (sentOnGrant.filterMap (told kDefaultIsoTpConfig))).Of
        (isoTp.run (.create kDefaultIsoTpConfig (Region.fill 0)) sentOnGrant) ∧
      Machine.shown (told kDefaultIsoTpConfig)
          (isoTp.trace (.create kDefaultIsoTpConfig (Region.fill 0)) sentOnGrant) =
        ((transmitter kDefaultIsoTpConfig).trace .idle
          (sentOnGrant.filterMap (told kDefaultIsoTpConfig))).map Machine.Entry.output := by
  apply transmitter_refined
  intro past event later split
  cases past with
  | nil =>
    cases split
    trivial
  | cons first past =>
    obtain ⟨rfl, rest⟩ := List.cons.inj split
    cases past with
    | nil =>
      obtain ⟨rfl, _⟩ := List.cons.inj rest
      intro message k deadline waiting
      cases waiting
      rfl
    | cons second past =>
      obtain ⟨_, none⟩ := List.cons.inj rest
      cases past with
      | nil => cases none
      | cons third past => cases none

end Uds.Transport
