import PulseEcu.Transport.PeerAbort

open Foundation

namespace Uds.Transport

structure Message where
  data : Pointer
  length : Nat
  sent : Nat

def Message.cf (message : Message) (cfg : IsoTpConfig) (mem : Memory) (k : Nat) : CanFrame :=
  segmentFrame cfg ((mem message.data).load 0 message.length) k

def Message.moved (message : Message) (count : Nat) : Option Message :=
  if message.sent + count < cfCount message.length then some { message with sent := message.sent + count } else none

def takenFrom (can : ICanInterface) (first : Nat) : List CanFrame → List CanFrame
  | [] => []
  | frame :: frames =>
    if can.send first then frame :: takenFrom can (first + 1) frames else takenFrom can (first + 1) frames

def onBus (entry : Entry) : List CanFrame :=
  match entry.event with
  | .frame can _ _ | .send can _ _ _ => takenFrom can 0 entry.output.sent
  | .update _ | .getData .. => []

/-- How a call changes the message on its way: a first frame on the bus starts it, and its last
    consecutive frame, an abort by the peer or the timeout ends it. -/
def observe (current : Option Message) (entry : Entry) : Option Message :=
  match entry.event with
  | .send can _ (some data) length => if Multi can length then some ⟨data, length, 0⟩ else current
  | .send _ _ none _ => current
  | .frame _ _ frame =>
    if AbortedBy entry.before frame then none else current.bind fun message => message.moved (cfsOf (onBus entry)).length
  | .update _ => if entry.before.txState = .waitFc ∧ entry.after.txState = .idle then none else current
  | .getData .. => current

def underway (record : List Entry) : Option Message := record.foldl observe none

/-- While the message is on its way, only its next consecutive frames and flow control go out, and a
    call of `send` changes nothing. -/
structure Uninterrupted (past : List Entry) (message : Message) (entry : Entry) : Prop where
  frames : ∀ can mem frame, entry.event = .frame can mem frame →
    (∀ reply ∈ onBus entry,
        reply = entry.before.fcFrame kFcCts entry.before.cfg.blockSize entry.before.cfg.stMinMs) ∨
      onBus entry = (List.range' message.sent (onBus entry).length).map (message.cf entry.before.cfg mem)
  quiet : (∀ can mem frame, entry.event ≠ .frame can mem frame) → onBus entry = []
  kept : ∀ can mem data length, entry.event = .send can mem data length → underway (past ++ [entry]) = some message

/-- A call of `send` with a message that can be sent, at a moment at which the driver takes its first frame. -/
def Interrupts (entry : Entry) : Prop :=
  ∃ can mem data length, entry.event = .send can mem (some data) length ∧ 0 < length ∧ length ≤ maxPayload ∧
    can.send 0 = true

structure OnItsWay (message : Message) (s : IsoTp) : Prop where
  state : s.txState ≠ .idle
  data : s.txData = some message.data
  total : s.txTotal = message.length
  offset : s.txOffset = min (6 + 7 * message.sent) message.length
  sn : s.txSn = sequenceNumber (message.sent + 1)
  left : message.sent < cfCount message.length

variable {s t : IsoTp} {can : ICanInterface} {mem : Memory} {message : Message} {frame : CanFrame}

theorem underway_snoc (record : List Entry) (entry : Entry) :
    underway (record ++ [entry]) = observe (underway record) entry := List.foldl_append

theorem takenFrom_subset (can : ICanInterface) (first : Nat) (frames : List CanFrame) :
    ∀ frame ∈ takenFrom can first frames, frame ∈ frames := by
  induction frames generalizing first with
  | nil => exact List.forall_mem_nil _
  | cons head frames ih =>
    intro frame member
    rw [takenFrom] at member
    split at member
    · rcases List.mem_cons.mp member with rfl | member
      · exact List.mem_cons_self
      · exact List.mem_cons_of_mem _ (ih _ frame member)
    · exact List.mem_cons_of_mem _ (ih _ frame member)

theorem takenFrom_append (can : ICanInterface) (first : Nat) (frames more : List CanFrame) :
    takenFrom can first (frames ++ more) = takenFrom can first frames ++ takenFrom can (first + frames.length) more := by
  induction frames generalizing first with
  | nil => rfl
  | cons head frames ih =>
    rw [List.cons_append, takenFrom, takenFrom, ih, List.length_cons, Nat.add_assoc, Nat.add_comm 1]
    split
    · rfl
    · rfl

theorem takenFrom_all {first : Nat} {frames : List CanFrame}
    (taken : ∀ j, j < frames.length → can.send (first + j) = true) : takenFrom can first frames = frames := by
  induction frames generalizing first with
  | nil => rfl
  | cons head frames ih =>
    have now : can.send first = true := taken 0 (Nat.succ_pos _)
    rw [takenFrom, if_pos now, ih]
    intro j inside
    have later := taken (j + 1) (Nat.succ_lt_succ inside)
    rwa [Nat.add_assoc, Nat.add_comm 1]

theorem nextCfs_snoc (mem : Memory) (s : IsoTp) (n : Nat) :
    s.nextCfs mem (n + 1) = s.nextCfs mem n ++ [(s.advanced n).cfFrame mem] := by
  induction n generalizing s with
  | zero => rfl
  | succ n ih =>
    have rest := congrArg (List.cons (s.cfFrame mem)) (ih s.advance)
    exact rest

theorem takenFrom_nextCfs {n : Nat} (taken : ∀ j, j < n → can.send (0 + j) = true) :
    takenFrom can 0 (s.nextCfs mem n) = s.nextCfs mem n := by
  apply takenFrom_all
  rw [IsoTp.nextCfs_length]
  exact taken

theorem takenFrom_refused {n : Nat} (taken : ∀ j, j < n → can.send (0 + j) = true) (refusal : can.send (0 + n) = false) :
    takenFrom can 0 (s.nextCfs mem (n + 1)) = s.nextCfs mem n := by
  have none : takenFrom can (0 + (s.nextCfs mem n).length) [(s.advanced n).cfFrame mem] = [] := by
    rw [takenFrom, IsoTp.nextCfs_length, refusal]
    rfl
  rw [nextCfs_snoc, takenFrom_append, takenFrom_nextCfs taken, none, List.append_nil]

theorem Sends.framesLeft {bytes : List Byte} {k : Nat} (sends : Sends s mem bytes k) :
    s.framesLeft = cfCount bytes.length - k := by
  have bound := sends.bound
  rw [IsoTp.framesLeft, sends.total, sends.offset]
  unfold cfCount at bound ⊢
  omega

theorem Sends.nextCfs {bytes : List Byte} {k n : Nat} (sends : Sends s mem bytes k) (few : n ≤ cfCount bytes.length - k) :
    s.nextCfs mem n = (List.range' k n).map (segmentFrame s.cfg bytes) ∧ Sends (s.advanced n) mem bytes (k + n) := by
  induction n generalizing s k with
  | zero => exact ⟨rfl, sends⟩
  | succ n ih =>
    have next : Sends s.advance mem bytes (k + 1) := sends.advance (by omega)
    obtain ⟨frames, rest⟩ := ih next (by omega)
    constructor
    · rw [IsoTp.nextCfs, frames, sends.frame, List.range'_succ, List.map_cons]
      rfl
    · have shifted : k + (n + 1) = k + 1 + n := by omega
      rw [shifted]
      exact rest

theorem OnItsWay.sends (way : OnItsWay message s) (mem : Memory) :
    Sends s mem ((mem message.data).load 0 message.length) message.sent := by
  have size : ((mem message.data).load 0 message.length).length = message.length := Region.load_length ..
  constructor
  · rw [IsoTp.txBytes, way.data, Region.load_drop, size, Nat.zero_add]
  · rw [size]
    exact way.total
  · rw [size]
    exact way.offset
  · exact way.sn
  · rw [size]
    exact Nat.le_of_lt way.left

theorem OnItsWay.of_tx (same : t.tx = s.tx) (way : OnItsWay message s) : OnItsWay message t := by
  simp only [IsoTp.tx, TxView.mk.injEq] at same
  obtain ⟨state, data, total, offset, sn, _⟩ := same
  exact ⟨state ▸ way.state, data.trans way.data, total.trans way.total, offset.trans way.offset, sn.trans way.sn,
    way.left⟩

theorem Message.moved_eq {moved : Message} {count : Nat} (same : message.moved count = some moved) :
    moved = { message with sent := message.sent + count } ∧ message.sent + count < cfCount message.length := by
  unfold Message.moved at same
  split at same
  · rename_i left
    exact ⟨(Option.some.inj same).symm, left⟩
  · cases same

theorem Message.moved_zero (left : message.sent < cfCount message.length) : message.moved 0 = some message :=
  if_pos left

structure Released (mem : Memory) (s : IsoTp) (can : ICanInterface) (message : Message) (outcome : Outcome)
    (count : Nat) : Prop where
  frames : takenFrom can 0 outcome.sent = (List.range' message.sent count).map (message.cf s.cfg mem)
  way : message.sent + count < cfCount message.length → OnItsWay { message with sent := message.sent + count } outcome.state

theorem OnItsWay.released_by {n : Nat} {outcome : Outcome} (way : OnItsWay message s) (sending : s.txState = .sending)
    (few : n ≤ s.framesLeft) (sweep : Sweep can mem s n [] outcome) :
    ∃ count, Released mem s can message outcome count := by
  have sends := way.sends mem
  have left := sends.framesLeft
  have size : ((mem message.data).load 0 message.length).length = message.length := Region.load_length ..
  have data : ∀ count, (s.advanced count).txData = s.txData :=
    fun count => IsoTp.advanced_keeps IsoTp.txData (fun _ _ _ _ => rfl) s count
  have moved : ∀ count, count ≤ s.framesLeft →
      s.nextCfs mem count = (List.range' message.sent count).map (message.cf s.cfg mem) ∧
        (s.advanced count).txData = some message.data ∧ (s.advanced count).txTotal = message.length ∧
        (s.advanced count).txOffset = min (6 + 7 * (message.sent + count)) message.length ∧
        (s.advanced count).txSn = sequenceNumber (message.sent + count + 1) := by
    intro count inside
    obtain ⟨frames, rest⟩ := sends.nextCfs (left ▸ inside)
    have total := rest.total
    have offset := rest.offset
    rw [size] at total offset
    exact ⟨frames, (data count).trans way.data, total, offset, rest.sn⟩
  cases sweep with
  | refused i inside taken refusal =>
    obtain ⟨frames, data, total, offset, sn⟩ := moved i (by omega)
    refine ⟨i, ?_, fun more => ⟨?_, data, total, offset, sn, more⟩⟩
    · rw [List.nil_append, takenFrom_refused taken refusal]
      exact frames
    · rw [IsoTp.advanced_txState, sending]
      decide
  | paused _ taken =>
    obtain ⟨frames, data, total, offset, sn⟩ := moved n few
    refine ⟨n, ?_, fun more => ⟨?_, data, total, offset, sn, more⟩⟩
    · rw [List.nil_append, takenFrom_nextCfs taken]
      exact frames
    · intro idle
      cases idle
  | finished all taken =>
    obtain ⟨frames, _⟩ := moved n few
    refine ⟨n, ?_, fun more => ?_⟩
    · rw [List.nil_append, takenFrom_nextCfs taken]
      exact frames
    · rw [size] at left
      omega

inductive Carried (message : Message) (s : IsoTp) (can : ICanInterface) (mem : Memory) (frame : CanFrame) : Prop where
  | replied (replies : ∀ reply ∈ onBus (isoTp.entry s (.frame can mem frame)),
        reply = s.fcFrame kFcCts s.cfg.blockSize s.cfg.stMinMs)
      (aborted : AbortedBy s frame ∨ OnItsWay message (isoTp.next s (.frame can mem frame)))
  | moved (count : Nat) (going : ¬ AbortedBy s frame) (frames : onBus (isoTp.entry s (.frame can mem frame)) =
        (List.range' message.sent count).map (message.cf s.cfg mem))
      (way : message.sent + count < cfCount message.length →
        OnItsWay { message with sent := message.sent + count } (isoTp.next s (.frame can mem frame)))

theorem OnItsWay.carried (way : OnItsWay message s) (can : ICanInterface) (mem : Memory) (frame : CanFrame) :
    Carried message s can mem frame := by
  have bus : onBus (isoTp.entry s (.frame can mem frame)) = takenFrom can 0 (s.processFrame can mem frame).sent := rfl
  have next : isoTp.next s (.frame can mem frame) = (s.processFrame can mem frame).state := rfl
  cases processFrame_effect can mem s frame with
  | quiet tx sent _ =>
    apply Carried.replied
    · intro reply member
      exact sent reply (takenFrom_subset can 0 _ reply member)
    · exact Or.inr (way.of_tx tx)
  | waited waiting _ handled =>
    apply Carried.replied
    · rw [bus, handled]
      exact List.forall_mem_nil _
    · rw [next, handled]
      exact Or.inr ⟨way.state, way.data, way.total, way.offset, way.sn, way.left⟩
  | aborted waiting fs fc other _ sent =>
    apply Carried.replied
    · rw [bus, sent]
      exact List.forall_mem_nil _
    · have status := fc.2.2.2
      subst status
      exact Or.inl ⟨waiting, fc, other⟩
  | swept waiting fc sweep =>
    have started : OnItsWay message (s.opened frame) :=
      ⟨by simp [IsoTp.opened], way.data, way.total, way.offset, way.sn, way.left⟩
    obtain ⟨count, released⟩ := started.released_by rfl (blockFrames_le _ _) sweep
    apply Carried.moved count
    · intro aborted
      exact aborted.2.2.1 fc.2.2.2
    · exact released.frames
    · exact released.way

structure Followed (past : List Entry) (s : IsoTp) : Prop where
  way : ∀ message, underway past = some message → OnItsWay message s

variable {past : List Entry}

theorem send_first_way (can : ICanInterface) (s : IsoTp) (source : Pointer) {length : Nat} (multi : Multi can length) :
    OnItsWay ⟨source, length, 0⟩ (s.started can source length) := by
  have some_left : 0 < cfCount length := (lt_cfCount 0 length).mpr (by have long := multi.1; omega)
  have six : 6 = min 6 length := by
    have long := multi.1
    omega
  exact ⟨by simp [IsoTp.started], rfl, rfl, six, rfl, some_left⟩

theorem observe_send_other (can : ICanInterface) (mem : Memory) (source : Pointer) (length : Nat)
    (current : Option Message) (other : ¬ Multi can length) :
    observe current (isoTp.entry s (.send can mem (some source) length)) = current := if_neg other

theorem Followed.send (followed : Followed past s) (can : ICanInterface) (mem : Memory) (data : Option Pointer)
    (length : Nat) :
    Followed (past ++ [isoTp.entry s (.send can mem data length)]) (s.send can mem data length).state := by
  constructor
  intro message current
  rw [underway_snoc] at current
  cases data with
  | none => exact followed.way message current
  | some source =>
    by_cases multi : Multi can length
    · have started : observe (underway past) (isoTp.entry s (.send can mem (some source) length)) =
          some ⟨source, length, 0⟩ := if_pos multi
      rw [started] at current
      rw [IsoTp.send_first can mem s source length multi.1 multi.2.1 multi.2.2, ← Option.some.inj current]
      exact send_first_way can s source multi
    · rw [observe_send_other can mem source length _ multi] at current
      rw [send_other can s source length multi]
      exact followed.way message current

theorem Followed.processFrame (followed : Followed past s) (can : ICanInterface) (mem : Memory) (frame : CanFrame) :
    Followed (past ++ [isoTp.entry s (.frame can mem frame)]) (isoTp.next s (.frame can mem frame)) := by
  constructor
  intro message current
  have observed : observe (underway past) (isoTp.entry s (.frame can mem frame)) =
      if AbortedBy s frame then none
      else (underway past).bind fun message => message.moved (cfsOf (onBus (isoTp.entry s (.frame can mem frame)))).length :=
    rfl
  rw [underway_snoc, observed] at current
  by_cases aborted : AbortedBy s frame
  · rw [if_pos aborted] at current
    cases current
  · rw [if_neg aborted] at current
    obtain ⟨before, known, moved⟩ := Option.bind_eq_some_iff.mp current
    have way := followed.way before known
    cases way.carried can mem frame with
    | replied replies going =>
      have none : cfsOf (onBus (isoTp.entry s (.frame can mem frame))) = [] := by
        apply cfsOf_eq_nil
        intro reply member
        rw [replies reply member]
        exact fcFrame_not_cf s _ _ _
      rw [none, List.length_nil, Message.moved_zero way.left] at moved
      rw [← Option.some.inj moved]
      exact going.resolve_left aborted
    | moved count _ frames next =>
      have cfs : (cfsOf (onBus (isoTp.entry s (.frame can mem frame)))).length = count := by
        have all := cfsOf_segments s.cfg ((mem before.data).load 0 before.length) (List.range' before.sent count)
        rw [frames]
        exact (congrArg List.length all).trans (by rw [List.length_map, List.length_range'])
      rw [cfs] at moved
      obtain ⟨same, left⟩ := Message.moved_eq moved
      rw [same]
      exact next left

theorem Followed.update (followed : Followed past s) (now : Word) :
    Followed (past ++ [isoTp.entry s (.update now)]) (s.update now) := by
  constructor
  intro message current
  have observed : observe (underway past) (isoTp.entry s (.update now)) =
      if s.txState = .waitFc ∧ (s.update now).txState = .idle then none else underway past := rfl
  rw [underway_snoc, observed] at current
  split at current
  · cases current
  · rename_i running
    apply (followed.way message current).of_tx
    apply IsoTp.update_tx_early
    intro expired
    exact running ⟨expired.1, (IsoTp.update_txState now s).trans (if_pos expired)⟩

theorem Followed.next (followed : Followed past s) (event : Event) :
    Followed (past ++ [isoTp.entry s event]) (isoTp.next s event) := by
  cases event with
  | frame can mem frame => exact followed.processFrame can mem frame
  | update now => exact followed.update now
  | send can mem data length => exact followed.send can mem data length
  | getData given maxLen =>
    constructor
    intro message current
    rw [underway_snoc] at current
    exact (followed.way message current).of_tx (IsoTp.getData_tx s given maxLen)

theorem Followed.run (cfg : IsoTpConfig) (rxBuf : Region Byte) (events : List Event) :
    Followed (isoTp.trace (.create cfg rxBuf) events) (isoTp.run (.create cfg rxBuf) events) := by
  have initial : Followed [] (.create cfg rxBuf) := by
    constructor
    intro message current
    cases current
  exact isoTp.trace_invariant_all (fun _ _ event followed => followed.next event) (.create cfg rxBuf) events initial

theorem takenFrom_single (can : ICanInterface) (frame : CanFrame) :
    takenFrom can 0 [frame] = if can.send 0 then [frame] else [] := rfl

theorem interrupts_send (can : ICanInterface) (mem : Memory) (data : Option Pointer) (length : Nat) :
    Interrupts (isoTp.entry s (.send can mem data length)) ↔
      (∃ source, data = some source) ∧ 0 < length ∧ length ≤ maxPayload ∧ can.send 0 = true := by
  constructor
  · intro interrupts
    obtain ⟨_, _, source, _, same, rest⟩ := interrupts
    cases same
    exact ⟨⟨source, rfl⟩, rest⟩
  · intro given
    obtain ⟨⟨source, rfl⟩, rest⟩ := given
    exact ⟨can, mem, source, length, rfl, rest⟩

theorem send_bus (can : ICanInterface) (mem : Memory) (data : Option Pointer) (length : Nat) :
    onBus (isoTp.entry s (.send can mem data length)) = [] ↔ ¬ Interrupts (isoTp.entry s (.send can mem data length)) := by
  have bus : onBus (isoTp.entry s (.send can mem data length)) = takenFrom can 0 (s.send can mem data length).sent := rfl
  rw [interrupts_send, bus]
  cases send_effect can mem s data length with
  | refused bad handled =>
    rw [handled]
    apply iff_of_true rfl
    intro given
    obtain ⟨⟨source, rfl⟩, some, fits, _⟩ := given
    rcases bad with null | empty | long
    · cases null
    · exact absurd empty (Nat.ne_of_gt some)
    · exact absurd fits (Nat.not_le.mpr long)
  | single source given some short _ sent =>
    subst given
    rw [sent, takenFrom_single]
    cases taken : can.send 0 with
    | true =>
      have fits : length ≤ maxPayload := Nat.le_trans short (by decide)
      exact iff_of_false (List.cons_ne_nil _ _) (not_not_intro ⟨⟨source, rfl⟩, some, fits, rfl⟩)
    | false => exact iff_of_true rfl fun given => nomatch given.2.2.2
  | blocked source given _ _ refusal _ sent =>
    rw [sent, takenFrom_single, refusal]
    exact iff_of_true rfl fun given => nomatch given.2.2.2
  | first source given multi handled =>
    have positive : 0 < length := Nat.lt_of_lt_of_le (by decide) multi.1
    rw [handled, takenFrom_single, multi.2.2]
    exact iff_of_false (List.cons_ne_nil _ _) (not_not_intro ⟨⟨source, given⟩, positive, multi.2.1, rfl⟩)

/-- A call of `send` that gets nothing onto the bus starts no message. -/
theorem observe_send_quiet (can : ICanInterface) (mem : Memory) (data : Option Pointer) (length : Nat)
    (current : Option Message) (quiet : ¬ Interrupts (isoTp.entry s (.send can mem data length))) :
    observe current (isoTp.entry s (.send can mem data length)) = current := by
  cases data with
  | none => rfl
  | some source =>
    apply observe_send_other
    intro multi
    have positive : 0 < length := Nat.lt_of_lt_of_le (by decide) multi.1
    exact quiet ((interrupts_send can mem (some source) length).mpr ⟨⟨source, rfl⟩, positive, multi.2⟩)

theorem not_interrupts {entry : Entry} (other : ∀ can mem data length, entry.event ≠ .send can mem data length) :
    ¬ Interrupts entry := by
  intro interrupts
  obtain ⟨can, mem, data, length, same, _⟩ := interrupts
  exact other can mem (some data) length same

theorem uninterrupted_other {entry : Entry} (noFrame : ∀ can mem frame, entry.event ≠ .frame can mem frame)
    (noSend : ∀ can mem data length, entry.event ≠ .send can mem data length) (silent : onBus entry = []) :
    Uninterrupted past message entry ↔ ¬ Interrupts entry := by
  apply iff_of_true
  · exact ⟨fun can mem frame same => absurd same (noFrame can mem frame), fun _ => silent,
      fun can mem data length same => absurd same (noSend can mem data length)⟩
  · exact not_interrupts noSend

theorem uninterrupted_iff (followed : Followed past s) (current : underway past = some message) (event : Event) :
    Uninterrupted past message (isoTp.entry s event) ↔ ¬ Interrupts (isoTp.entry s event) := by
  cases event with
  | frame can mem frame =>
    refine iff_of_true ⟨?_, fun other => absurd rfl (other can mem frame), ?_⟩ (not_interrupts fun _ _ _ _ same => nomatch same)
    · intro _ _ _ same
      cases same
      cases (followed.way message current).carried can mem frame with
      | replied replies _ => exact Or.inl replies
      | moved count _ frames _ =>
        have length := congrArg List.length frames
        rw [List.length_map, List.length_range'] at length
        rw [length]
        exact Or.inr frames
    · intro _ _ _ _ same
      cases same
  | update now => exact uninterrupted_other (fun _ _ _ same => nomatch same) (fun _ _ _ _ same => nomatch same) rfl
  | send can mem data length =>
    constructor
    · intro uninterrupted
      exact (send_bus can mem data length).mp (uninterrupted.quiet fun _ _ _ same => nomatch same)
    · intro quiet
      refine ⟨?_, fun _ => (send_bus can mem data length).mpr quiet, ?_⟩
      · intro _ _ _ given
        cases given
      · intro _ _ _ _ _
        rw [underway_snoc, observe_send_quiet can mem data length _ quiet]
        exact current
  | getData given maxLen =>
    exact uninterrupted_other (fun _ _ _ same => nomatch same) (fun _ _ _ _ same => nomatch same) rfl

/-- Segmented messages are not interleaved exactly when no call of `send` gets a frame onto the bus
    while a message is on its way. -/
theorem never_interleaved_iff (cfg : IsoTpConfig) (rxBuf : Region Byte) (events : List Event) :
    (∀ past entry later message, isoTp.trace (.create cfg rxBuf) events = past ++ entry :: later →
        underway past = some message → Uninterrupted past message entry) ↔
      ∀ past entry later message, isoTp.trace (.create cfg rxBuf) events = past ++ entry :: later →
        underway past = some message → ¬ Interrupts entry := by
  have each : ∀ past entry later message, isoTp.trace (.create cfg rxBuf) events = past ++ entry :: later →
      underway past = some message → (Uninterrupted past message entry ↔ ¬ Interrupts entry) := by
    intro past entry later message split current
    obtain ⟨first, event, _, _, rfl, rfl, _⟩ := isoTp.trace_split split
    exact uninterrupted_iff (Followed.run cfg rxBuf first) current event
  constructor
  · intro all past entry later message split current
    exact (each past entry later message split current).mp (all past entry later message split current)
  · intro all past entry later message split current
    exact (each past entry later message split current).mpr (all past entry later message split current)

def secondResponse : List Event :=
  [.send .ready twentyMemory (some 0) 20, .send .ready twentyMemory (some 1) 20]

theorem pending_message_discarded :
    (¬ ∀ past entry later message, isoTp.trace (.create kDefaultIsoTpConfig (Region.fill 0)) secondResponse =
        past ++ entry :: later → underway past = some message → Uninterrupted past message entry) ∧
      underway (isoTp.trace (.create kDefaultIsoTpConfig (Region.fill 0)) secondResponse) = some ⟨1, 20, 0⟩ := by
  refine ⟨fun all => ?_, rfl⟩
  have uninterrupted := all (isoTp.trace (.create kDefaultIsoTpConfig (Region.fill 0)) (secondResponse.take 1)) _ []
    ⟨0, 20, 0⟩ rfl rfl
  have none := uninterrupted.quiet fun _ _ _ same => nomatch same
  exact absurd (congrArg List.length none) (by decide)

end Uds.Transport
