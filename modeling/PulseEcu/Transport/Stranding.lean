import PulseEcu.Transport.PeerAbort

open Foundation

namespace Uds.Transport

def Strands (entry : Entry) : Prop :=
  ∃ can mem frame, entry.event = .frame can mem frame ∧ ContinuedBy entry.before frame ∧
    ∃ i, i < blockFrames (frame.data 1) entry.before.framesLeft ∧ can.send i = false

def ProlongedBy (s : IsoTp) (frame : CanFrame) : Prop :=
  s.txState = .waitFc ∧ (IsFc s.cfg kFcWait frame ∨
    IsFc s.cfg kFcCts frame ∧ blockFrames (frame.data 1) s.framesLeft < s.framesLeft)

instance (s : IsoTp) (frame : CanFrame) : Decidable (ProlongedBy s frame) := inferInstanceAs (Decidable (_ ∧ _))

def progress (entry : Entry) : Option Word :=
  match entry.event with
  | .send can _ (some _) length => if Multi can length then some can.getTickMs else none
  | .frame can _ frame => if ProlongedBy entry.before frame then some can.getTickMs else none
  | _ => none

def lastProgress (record : List Entry) : Option Word := record.reverse.findSome? progress

/-- The transmitter waits for flow control or for nothing, and an `update` that comes `nBsMs` or more
    after the last progress ends the transmission. -/
structure Live (record : List Entry) (s : IsoTp) : Prop where
  state : s.txState = .idle ∨ s.txState = .waitFc
  timeout : ∀ tick, lastProgress record = some tick → ∀ now : Word, tick.toNat + s.cfg.nBsMs.toNat ≤ now.toNat →
    (s.update now).txState = .idle

structure Timed (cfg : IsoTpConfig) (record : List Entry) (s : IsoTp) : Prop where
  config : s.cfg = cfg
  running : s.txState = .waitFc → ∃ tick, lastProgress record = some tick ∧ s.txDeadline = tick + cfg.nBsMs

inductive TxTurn (s : IsoTp) (event : Event) : Prop where
  | kept (tx : (isoTp.next s event).tx = s.tx) (none : progress (isoTp.entry s event) = none)
      (taken : ¬ Strands (isoTp.entry s event))
  | ended (state : (isoTp.next s event).txState = .idle) (none : progress (isoTp.entry s event) = none)
      (taken : ¬ Strands (isoTp.entry s event))
  | timed (tick : Word) (state : (isoTp.next s event).txState = .waitFc)
      (deadline : (isoTp.next s event).txDeadline = tick + s.cfg.nBsMs)
      (some : progress (isoTp.entry s event) = some tick) (taken : ¬ Strands (isoTp.entry s event))
  | stranded (state : (isoTp.next s event).txState = .sending) (refused : Strands (isoTp.entry s event))

variable {s : IsoTp} {can : ICanInterface} {mem : Memory} {frame : CanFrame}

theorem lastProgress_snoc (record : List Entry) (entry : Entry) :
    lastProgress (record ++ [entry]) = (progress entry).or (lastProgress record) := by
  rw [lastProgress, List.reverse_append, List.reverse_singleton, List.singleton_append, List.findSome?_cons]
  cases progress entry with
  | none => rfl
  | some tick => rfl

theorem not_strands {entry : Entry} (other : ∀ can mem frame, entry.event ≠ .frame can mem frame) : ¬ Strands entry := by
  intro strands
  obtain ⟨can, mem, frame, same, _⟩ := strands
  exact other can mem frame same

theorem strands_frame (can : ICanInterface) (mem : Memory) (frame : CanFrame) :
    Strands (isoTp.entry s (.frame can mem frame)) ↔ ContinuedBy s frame ∧
      ∃ i, i < blockFrames (frame.data 1) s.framesLeft ∧ can.send i = false := by
  constructor
  · intro strands
    obtain ⟨_, _, _, same, stranded⟩ := strands
    cases same
    exact stranded
  · intro stranded
    exact ⟨can, mem, frame, rfl, stranded⟩

theorem not_continued {fs : Byte} (fc : IsFc s.cfg fs frame) (other : fs ≠ kFcCts) : ¬ ContinuedBy s frame := by
  intro continued
  exact other (fc.2.2.2.symm.trans continued.2.2.2.2)

theorem frame_kept (tx : (s.processFrame can mem frame).state.tx = s.tx) (continued : ¬ ContinuedBy s frame)
    (prolonged : ¬ ProlongedBy s frame) : TxTurn s (.frame can mem frame) :=
  .kept tx (if_neg prolonged) fun strands => continued ((strands_frame can mem frame).mp strands).1

theorem sweep_turn (continued : ContinuedBy s frame)
    (sweep : Sweep can mem (s.opened frame) (blockFrames (frame.data 1) s.framesLeft) [] (s.processFrame can mem frame)) :
    TxTurn s (.frame can mem frame) := by
  obtain ⟨waiting, fc⟩ := continued
  have strands := @strands_frame s can mem frame
  have next : isoTp.next s (.frame can mem frame) = (s.processFrame can mem frame).state := rfl
  have taken : (∀ j, j < blockFrames (frame.data 1) s.framesLeft → can.send (([] : List CanFrame).length + j) = true) →
      ¬ Strands (isoTp.entry s (.frame can mem frame)) := by
    intro all refused
    obtain ⟨_, i, inside, refusal⟩ := strands.mp refused
    have taken := all i inside
    rw [List.length_nil, Nat.zero_add] at taken
    exact absurd (taken.symm.trans refusal) (by decide)
  generalize s.processFrame can mem frame = outcome at sweep next
  cases sweep with
  | refused i inside _ refusal =>
    rw [List.length_nil, Nat.zero_add] at refusal
    apply TxTurn.stranded
    · rw [next]
      exact IsoTp.advanced_txState (s.opened frame) i
    · exact strands.mpr ⟨⟨waiting, fc⟩, i, inside, refusal⟩
  | paused more all =>
    apply TxTurn.timed can.getTickMs
    · rw [next]
      rfl
    · rw [next]
      exact congrArg (fun cfg : IsoTpConfig => can.getTickMs + cfg.nBsMs) (IsoTp.advanced_cfg (s.opened frame) _)
    · exact if_pos ⟨waiting, Or.inr ⟨fc, more⟩⟩
    · exact taken all
  | finished all every =>
    have whole : ¬ ProlongedBy s frame := by
      intro prolonged
      rcases prolonged.2 with wait | ⟨_, less⟩
      · exact absurd (wait.2.2.2.symm.trans fc.2.2.2) (by decide)
      · exact absurd all (Nat.ne_of_lt less)
    apply TxTurn.ended
    · rw [next]
      rfl
    · exact if_neg whole
    · exact taken every

theorem frame_turn (can : ICanInterface) (mem : Memory) (frame : CanFrame) : TxTurn s (.frame can mem frame) := by
  cases processFrame_effect can mem s frame with
  | quiet tx _ unanswered =>
    apply frame_kept tx
    · exact fun continued => unanswered _ continued.2 continued.1
    · intro prolonged
      rcases prolonged.2 with wait | ⟨cts, _⟩
      · exact unanswered _ wait prolonged.1
      · exact unanswered _ cts prolonged.1
  | waited waiting fc handled =>
    have next : isoTp.next s (.frame can mem frame) = { s with txDeadline := can.getTickMs + s.cfg.nBsMs } :=
      congrArg Outcome.state handled
    apply TxTurn.timed can.getTickMs
    · rw [next]
      exact waiting
    · rw [next]
    · exact if_pos ⟨waiting, Or.inl fc⟩
    · exact fun strands => not_continued fc (by decide) ((strands_frame can mem frame).mp strands).1
  | aborted _ fs fc other state _ =>
    apply frame_kept
    · rw [state]
    · exact not_continued fc other.1
    · intro prolonged
      rcases prolonged.2 with wait | ⟨cts, _⟩
      · exact other.2 (fc.2.2.2.symm.trans wait.2.2.2)
      · exact other.1 (fc.2.2.2.symm.trans cts.2.2.2)
  | swept waiting fc sweep => exact sweep_turn ⟨waiting, fc⟩ sweep

theorem send_turn (can : ICanInterface) (mem : Memory) (data : Option Pointer) (length : Nat) :
    TxTurn s (.send can mem data length) := by
  have taken : ¬ Strands (isoTp.entry s (.send can mem data length)) := not_strands fun _ _ _ same => nomatch same
  cases data with
  | none => exact .kept rfl rfl taken
  | some source =>
    by_cases multi : Multi can length
    · have started := IsoTp.send_first can mem s source length multi.1 multi.2.1 multi.2.2
      have next : isoTp.next s (.send can mem (some source) length) = s.started can source length :=
        congrArg Outcome.state started
      apply TxTurn.timed can.getTickMs
      · rw [next]
        rfl
      · rw [next]
        rfl
      · exact if_pos multi
      · exact taken
    · have kept : (isoTp.next s (.send can mem (some source) length)).tx = s.tx :=
        congrArg IsoTp.tx (send_other can s source length multi)
      exact .kept kept (if_neg multi) taken

theorem update_turn (now : Word) : TxTurn s (.update now) := by
  have taken : ¬ Strands (isoTp.entry s (.update now)) := not_strands fun _ _ _ same => nomatch same
  by_cases expired : s.txState = .waitFc ∧ s.txDeadline > 0 ∧ now ≥ s.txDeadline
  · apply TxTurn.ended
    · exact (IsoTp.update_txState now s).trans (if_pos expired)
    · rfl
    · exact taken
  · exact .kept (IsoTp.update_tx_early expired) rfl taken

theorem tx_turn (s : IsoTp) (event : Event) : TxTurn s event := by
  cases event with
  | frame can mem frame => exact frame_turn can mem frame
  | update now => exact update_turn now
  | send can mem data length => exact send_turn can mem data length
  | getData given maxLen =>
    exact .kept (IsoTp.getData_tx s given maxLen) rfl (not_strands fun _ _ _ same => nomatch same)

theorem Timed.next {cfg : IsoTpConfig} {record : List Entry} (timed : Timed cfg record s) (event : Event) :
    Timed cfg (record ++ [isoTp.entry s event]) (isoTp.next s event) := by
  constructor
  · rw [IsoTp.next_cfg]
    exact timed.config
  · intro waiting
    rw [lastProgress_snoc]
    cases tx_turn s event with
    | kept tx none _ =>
      simp only [IsoTp.tx, TxView.mk.injEq] at tx
      obtain ⟨state, _, _, _, _, _, _, _, deadline⟩ := tx
      rw [none, deadline]
      exact timed.running (state.symm.trans waiting)
    | ended state _ _ => cases state.symm.trans waiting
    | timed tick _ deadline some _ =>
      rw [some, deadline, timed.config]
      exact ⟨tick, rfl, rfl⟩
    | stranded state _ => cases state.symm.trans waiting

/-- A running timer is one that `update` looks at, unless it was to run out at tick 0. -/
theorem Timed.live_iff {cfg : IsoTpConfig} {record : List Entry} (timed : Timed cfg record s) :
    Live record s ↔ s.txState ≠ .sending ∧ (s.txState = .waitFc → lastProgress record = some 0 → cfg.nBsMs ≠ 0) := by
  constructor
  · intro live
    refine ⟨fun sending => ?_, fun waiting last zero => ?_⟩
    · rcases live.state with idle | waiting
      · cases sending.symm.trans idle
      · cases sending.symm.trans waiting
    · obtain ⟨tick, known, deadline⟩ := timed.running waiting
      have origin : tick = 0 := Option.some.inj (known.symm.trans last)
      rw [origin, zero] at deadline
      have off : ¬ (s.txState = .waitFc ∧ s.txDeadline > 0 ∧ (0 : Word) ≥ s.txDeadline) := by
        rw [deadline]
        exact fun expired => absurd expired.2.1 (by decide)
      have idle := live.timeout 0 last 0 (by rw [timed.config, zero]; decide)
      rw [IsoTp.update_txState, if_neg off] at idle
      cases waiting.symm.trans idle
  · intro armed
    obtain ⟨notSending, running⟩ := armed
    cases state : s.txState with
    | idle =>
      refine ⟨Or.inl state, fun tick _ now _ => ?_⟩
      rw [IsoTp.update_txState, state]
      rfl
    | waitFc =>
      refine ⟨Or.inr state, fun tick last now late => ?_⟩
      obtain ⟨origin, known, deadline⟩ := timed.running state
      have same : origin = tick := Option.some.inj (known.symm.trans last)
      rw [same] at deadline
      have limit := now.isLt
      have due : s.txDeadline.toNat = tick.toNat + cfg.nBsMs.toNat := by
        rw [timed.config] at late
        rw [deadline, BitVec.toNat_add]
        omega
      have positive : s.txDeadline > 0 := by
        apply BitVec.lt_def.mpr
        apply Nat.pos_of_ne_zero
        intro zero
        have start : tick = 0 := BitVec.eq_of_toNat_eq (by show tick.toNat = 0; omega)
        have none : cfg.nBsMs = 0 := BitVec.eq_of_toNat_eq (by show cfg.nBsMs.toNat = 0; omega)
        rw [start] at last
        exact running state last none
      have reached : now ≥ s.txDeadline := by
        apply BitVec.le_def.mpr
        rw [timed.config] at late
        omega
      rw [IsoTp.update_txState, if_pos ⟨state, positive, reached⟩]
    | sending => exact absurd state notSending

theorem Timed.create (cfg : IsoTpConfig) (rxBuf : Region Byte) : Timed cfg [] (.create cfg rxBuf) := by
  constructor
  · rfl
  · intro waiting
    cases waiting

theorem Live.create (cfg : IsoTpConfig) (rxBuf : Region Byte) : Live [] (.create cfg rxBuf) := by
  apply (Timed.create cfg rxBuf).live_iff.mpr
  constructor
  · intro sending
    cases sending
  · intro waiting
    cases waiting

def Sustains (cfg : IsoTpConfig) (entry : Entry) : Prop :=
  ¬ Strands entry ∧ ¬ (cfg.nBsMs = 0 ∧ progress entry = some 0)

theorem live_step {cfg : IsoTpConfig} {record : List Entry} (timed : Timed cfg record s) (live : Live record s)
    (event : Event) :
    Live (record ++ [isoTp.entry s event]) (isoTp.next s event) ↔ Sustains cfg (isoTp.entry s event) := by
  obtain ⟨notSending, running⟩ := timed.live_iff.mp live
  rw [(timed.next event).live_iff, lastProgress_snoc]
  cases tx_turn s event with
  | kept tx none taken =>
    have state : (isoTp.next s event).txState = s.txState := congrArg TxView.state tx
    rw [state, none]
    exact iff_of_true ⟨notSending, running⟩ ⟨taken, fun both => nomatch none.symm.trans both.2⟩
  | ended state none taken =>
    rw [state]
    exact iff_of_true ⟨by decide, fun waiting => nomatch waiting⟩ ⟨taken, fun both => nomatch none.symm.trans both.2⟩
  | timed tick state _ some taken =>
    rw [state, Sustains, some]
    constructor
    · intro armed
      exact ⟨taken, fun both => armed.2 rfl both.2 both.1⟩
    · intro sustains
      exact ⟨by decide, fun _ start zero => sustains.2 ⟨zero, start⟩⟩
  | stranded state refused =>
    rw [state]
    exact iff_of_false (fun armed => armed.1 rfl) fun sustains => sustains.1 refused

/-- No transmission is ever stranded exactly when the driver takes every consecutive frame that the peer
    lets out, and no timer of length 0 is started at tick 0. -/
theorem never_stranded_iff (cfg : IsoTpConfig) (rxBuf : Region Byte) (events : List Event) :
    (∀ first rest, events = first ++ rest →
        Live (isoTp.trace (.create cfg rxBuf) first) (isoTp.run (.create cfg rxBuf) first)) ↔
      ∀ entry ∈ isoTp.trace (.create cfg rxBuf) events, Sustains cfg entry :=
  @Machine.prefixes_iff _ _ _ isoTp (Timed cfg) Live (Sustains cfg) (fun _ _ event timed => timed.next event)
    (fun _ _ event timed live => live_step timed live event) (.create cfg rxBuf) events
    (Timed.create cfg rxBuf) (Live.create cfg rxBuf)

def fullMailbox : List Event :=
  [.send .ready twentyMemory (some 0) 20,
    .frame ⟨5, fun _ => false⟩ twentyMemory (.make kDefaultIsoTpConfig.rxId [0x30, 0, 0] 3)]

theorem stranded_for_ever :
    (¬ ∀ first rest, fullMailbox = first ++ rest → Live (isoTp.trace (.create kDefaultIsoTpConfig (Region.fill 0)) first)
        (isoTp.run (.create kDefaultIsoTpConfig (Region.fill 0)) first)) ∧
      ∀ now, ((isoTp.run (.create kDefaultIsoTpConfig (Region.fill 0)) fullMailbox).update now).txState = .sending := by
  have state : (isoTp.run (.create kDefaultIsoTpConfig (Region.fill 0)) fullMailbox).txState = .sending := rfl
  constructor
  · intro live
    rcases (live fullMailbox [] rfl).state with idle | waiting
    · cases idle
    · cases waiting
  · intro now
    rw [IsoTp.update_txState, state]
    rfl

end Uds.Transport
