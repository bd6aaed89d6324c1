import PulseEcu.Server.KeepAlive
import PulseEcu.Transport.Reassembly

open Foundation

namespace Uds.UdsServer

open Transport

variable {σ : Type}

def received (s : UdsServer σ) : List Byte := s.transport.rxBuf.load 0 s.transport.rxExpected

def waiting (s : UdsServer σ) : List (List Byte) := if s.transport.dataReady then [s.received] else []

/-- The message that a data frame completed: `process_frame` answered Ok to it. -/
def completion (entry : Entry σ) : Option (List Byte) :=
  match entry.event with
  | .frame can frame =>
    if (pciType frame = 0 ∨ pciType frame = 2) ∧ (entry.before.processFrame can frame).2.result = .ok then
      some entry.after.received
    else none
  | .process _ _ => none

def handledRequest (entry : Entry σ) : Option (List Byte) :=
  match entry.event with
  | .frame _ _ => none
  | .process _ _ =>
    if entry.before.requestLen > 0 then some (entry.before.request.load 0 entry.before.requestLen) else none

/-- A single or first frame is taken while a completed message still waits for `process`. -/
def Discards (s : UdsServer σ) : ServerEvent → Prop
  | .frame _ frame => s.transport.dataReady = true ∧ (pciType frame = 0 ∨ pciType frame = 1) ∧
      ¬ Rejected s.transport.cfg frame
  | .process _ _ => False

instance (s : UdsServer σ) (event : ServerEvent) : Decidable (s.Discards event) :=
  match event with
  | .frame _ _ => inferInstanceAs (Decidable (_ ∧ _ ∧ _))
  | .process _ _ => inferInstanceAs (Decidable False)

def completions (record : List (Entry σ)) : List (List Byte) := record.filterMap completion

def handledRequests (record : List (Entry σ)) : List (List Byte) := record.filterMap handledRequest

def discarded (record : List (Entry σ)) : Nat := record.countP fun entry => entry.before.Discards entry.event

/-- Once `process` is called again, the messages handled are the messages completed, each once
    and in that order. -/
def ServedOnce (start : UdsServer σ) (events : List ServerEvent) : Prop :=
  ∀ can tick, handledRequests ((udsServer σ).trace start (events ++ [.process can tick])) =
    completions ((udsServer σ).trace start (events ++ [.process can tick]))

structure Tally (record : List (Entry σ)) (s : UdsServer σ) : Prop where
  invariant : RxInvariant s.transport
  counted : (completions record).length = (handledRequests record).length + s.waiting.length + discarded record
  kept : discarded record = 0 → completions record = handledRequests record ++ s.waiting

structure Balanced (entry : Entry σ) : Prop where
  invariant : RxInvariant entry.after.transport
  counted : entry.before.waiting.length + (completion entry).toList.length =
    (handledRequest entry).toList.length + entry.after.waiting.length +
      if entry.before.Discards entry.event then 1 else 0
  kept : ¬ entry.before.Discards entry.event →
    entry.before.waiting ++ (completion entry).toList = (handledRequest entry).toList ++ entry.after.waiting

variable {record : List (Entry σ)} {s : UdsServer σ}

theorem Tally.snoc {entry : Entry σ} (tally : Tally record entry.before) (balanced : Balanced entry) :
    Tally (record ++ [entry]) entry.after := by
  have completed : completions (record ++ [entry]) = completions record ++ (completion entry).toList := by
    simp [completions, List.filterMap_append, List.filterMap_cons]
    cases completion entry <;> rfl
  have handled : handledRequests (record ++ [entry]) = handledRequests record ++ (handledRequest entry).toList := by
    simp [handledRequests, List.filterMap_append, List.filterMap_cons]
    cases handledRequest entry <;> rfl
  have lost : discarded (record ++ [entry]) =
      discarded record + if entry.before.Discards entry.event then 1 else 0 := by
    simp [discarded, List.countP_append, List.countP_cons]
  have before := tally.counted
  have step := balanced.counted
  constructor
  · exact balanced.invariant
  · rw [completed, handled, lost, List.length_append, List.length_append]
    omega
  · rw [lost]
    intro none
    by_cases discards : entry.before.Discards entry.event
    · rw [if_pos discards] at none
      omega
    · rw [completed, handled, tally.kept (by omega), List.append_assoc, List.append_assoc, balanced.kept discards]

section

variable (can : ICanInterface) (frame : CanFrame)

def fed (s : UdsServer σ) (can : ICanInterface) (frame : CanFrame) : Outcome :=
  s.transport.processFrame can (s.memory (Region.fill 0)) frame

theorem waiting_of_rx {t : UdsServer σ} (same : t.transport.rx = s.transport.rx) : t.waiting = s.waiting := by
  simp only [IsoTp.rx, RxView.mk.injEq] at same
  obtain ⟨_, buf, expected, _, _, _, ready⟩ := same
  rw [waiting, waiting, received, received, buf, expected, ready]

theorem completion_frame : completion ((udsServer σ).entry s (.frame can frame)) =
    if (pciType frame = 0 ∨ pciType frame = 2) ∧ (s.fed can frame).result = .ok then
      some ((udsServer σ).entry s (.frame can frame)).after.received
    else none := rfl

theorem frame_quiet (invariant : RxInvariant s.transport) (same : (s.fed can frame).state.rx = s.transport.rx)
    (incomplete : ¬ ((pciType frame = 0 ∨ pciType frame = 2) ∧ (s.fed can frame).result = .ok))
    (spared : ¬ s.Discards (.frame can frame)) : Balanced ((udsServer σ).entry s (.frame can frame)) := by
  have none : completion ((udsServer σ).entry s (.frame can frame)) = none := by
    rw [completion_frame, if_neg incomplete]
  have kept : ((udsServer σ).entry s (.frame can frame)).after.waiting = s.waiting := waiting_of_rx same
  have spared : ¬ ((udsServer σ).entry s (.frame can frame)).before.Discards
      ((udsServer σ).entry s (.frame can frame)).event := spared
  constructor
  · exact invariant.of_rx same
  · rw [none, kept, if_neg spared]
    exact Nat.add_comm _ _
  · intro _
    rw [none, kept]
    exact List.append_nil _

theorem frame_replaced (invariant : RxInvariant s.transport)
    (only : ((udsServer σ).entry s (.frame can frame)).after.waiting =
      (completion ((udsServer σ).entry s (.frame can frame))).toList)
    (discards : s.Discards (.frame can frame) ↔ s.transport.dataReady = true) :
    Balanced ((udsServer σ).entry s (.frame can frame)) := by
  have before : ((udsServer σ).entry s (.frame can frame)).before.waiting = s.waiting := rfl
  have handled : handledRequest ((udsServer σ).entry s (.frame can frame)) = none := rfl
  have spared : ((udsServer σ).entry s (.frame can frame)).before.Discards
      ((udsServer σ).entry s (.frame can frame)).event ↔ s.transport.dataReady = true := discards
  constructor
  · exact invariant.processFrame can (s.memory (Region.fill 0)) frame
  · rw [before, handled, only, waiting]
    by_cases ready : s.transport.dataReady = true
    · rw [if_pos ready, if_pos (spared.mpr ready)]
      simp [Nat.add_comm]
    · rw [if_neg ready, if_neg (mt spared.mp ready)]
      simp
  · intro kept
    have empty : ¬ s.transport.dataReady = true := fun ready => kept (spared.mpr ready)
    rw [before, handled, only, waiting, if_neg empty]
    rfl

theorem waiting_empty (empty : s.transport.dataReady = false) : s.waiting = [] := by
  rw [waiting, empty]
  rfl

theorem waiting_ready (ready : s.transport.dataReady = true) : s.waiting = [s.received] := by
  rw [waiting, if_pos ready]

theorem frame_completed (invariant : RxInvariant s.transport) (data : pciType frame = 0 ∨ pciType frame = 2)
    (ok : (s.fed can frame).result = .ok) (ready : (s.fed can frame).state.dataReady = true)
    (discards : s.Discards (.frame can frame) ↔ s.transport.dataReady = true) :
    Balanced ((udsServer σ).entry s (.frame can frame)) := by
  have ready : ((udsServer σ).entry s (.frame can frame)).after.transport.dataReady = true := ready
  apply frame_replaced can frame invariant
  · rw [waiting_ready ready, completion_frame, if_pos ⟨data, ok⟩]
    rfl
  · exact discards

theorem frame_unfinished (invariant : RxInvariant s.transport) (pending : (s.fed can frame).result ≠ .ok)
    (empty : (s.fed can frame).state.dataReady = false)
    (discards : s.Discards (.frame can frame) ↔ s.transport.dataReady = true) :
    Balanced ((udsServer σ).entry s (.frame can frame)) := by
  have empty : ((udsServer σ).entry s (.frame can frame)).after.transport.dataReady = false := empty
  apply frame_replaced can frame invariant
  · rw [waiting_empty empty, completion_frame, if_neg fun completed => pending completed.2]
    rfl
  · exact discards

theorem not_discards (later : ¬ (pciType frame = 0 ∨ pciType frame = 1)) : ¬ s.Discards (.frame can frame) :=
  fun discards => later discards.2.1

theorem opening_discards (taken : ¬ Rejected s.transport.cfg frame) (opening : pciType frame = 0 ∨ pciType frame = 1) :
    s.Discards (.frame can frame) ↔ s.transport.dataReady = true := by
  constructor
  · exact fun discards => discards.1
  · exact fun ready => ⟨ready, opening, taken⟩

theorem consecutive_balanced (invariant : RxInvariant s.transport) (type : pciType frame = 2) :
    Balanced ((udsServer σ).entry s (.frame can frame)) := by
  have spared : ¬ s.Discards (.frame can frame) := not_discards can frame (by rw [type]; decide)
  have idle : s.transport.rxState = .receiving → (s.Discards (.frame can frame) ↔ s.transport.dataReady = true) := by
    intro receiving
    have empty := (invariant.receiving receiving).2.2.2
    rw [empty]
    exact ⟨fun discards => absurd discards spared, fun ready => nomatch ready⟩
  have fedBy : s.fed can frame = s.transport.processFrame can (s.memory (Region.fill 0)) frame := rfl
  cases processFrame_reception can (s.memory (Region.fill 0)) s.transport frame invariant with
  | ignored rx single first consecutive =>
    apply frame_quiet can frame invariant rx
    · intro completed
      exact (consecutive type).2 completed.2
    · exact spared
  | single single _ _ _ => exact absurd (type.symm.trans single) (by decide)
  | first first _ _ => exact absurd (type.symm.trans first) (by decide)
  | more n _ receiving _ _ _ accepted =>
    apply frame_unfinished can frame invariant
    · rw [fedBy, accepted]
      exact fun done => nomatch done
    · rw [fedBy, accepted]
      exact (invariant.receiving receiving).2.2.2
    · exact idle receiving
  | last n _ receiving _ _ _ accepted =>
    apply frame_completed can frame invariant (Or.inr type)
    · rw [fedBy, accepted]
    · rw [fedBy, accepted]
      rfl
    · exact idle receiving

theorem frame_balanced (invariant : RxInvariant s.transport) :
    Balanced ((udsServer σ).entry s (.frame can frame)) := by
  by_cases rejected : Rejected s.transport.cfg frame
  · have ignored : s.fed can frame = ⟨.error, s.transport, []⟩ := rejected_ignored can _ rejected
    apply frame_quiet can frame invariant
    · rw [ignored]
    · rw [ignored]
      exact fun completed => nomatch completed.2
    · exact fun discards => discards.2.2 rejected
  · rcases not_rejected rejected with ⟨id, nonempty, single | first | consecutive | flowControl⟩
    · have accepted : s.fed can frame = _ := single_accepted can _ rejected single
      apply frame_completed can frame invariant (Or.inl single)
      · rw [accepted]
      · rw [accepted]
        rfl
      · exact opening_discards can frame rejected (Or.inl single)
    · have accepted : s.fed can frame = _ := first_accepted can _ rejected first
      apply frame_unfinished can frame invariant
      · rw [accepted]
        exact fun done => nomatch done
      · rw [accepted]
        rfl
      · exact opening_discards can frame rejected (Or.inr first)
    · exact consecutive_balanced can frame invariant consecutive
    · apply frame_quiet can frame invariant
      · show (s.transport.processFrame can _ frame).state.rx = _
        rw [IsoTp.processFrame_flowControl can _ s.transport frame id nonempty flowControl]
        exact IsoTp.handleFc_rx ..
      · rw [flowControl]
        exact fun completed => absurd completed.1 (by decide)
      · exact not_discards can frame (by rw [flowControl]; decide)

end

section

variable (can : ICanInterface) (tick : Word)

theorem handleRequest_rx (len : Nat) : (s.handleRequest can len).1.transport.rx = s.transport.rx := by
  simp only [handleRequest]
  split
  · rfl
  · cases s.findService (s.reqBuf 0) with
    | none => exact IsoTp.send_rx ..
    | some svc =>
      dsimp only
      split
      · exact IsoTp.send_rx ..
      · rfl

theorem RxInvariant.fetch (invariant : RxInvariant s.transport) : RxInvariant s.fetch.2.transport := by
  unfold UdsServer.fetch
  split
  · exact invariant.getData true maxPayload
  · exact invariant

theorem RxInvariant.process (invariant : RxInvariant s.transport) : RxInvariant (s.process can tick).1.transport := by
  have finished : ∀ t : UdsServer σ, RxInvariant t.transport → RxInvariant (t.finish can tick).transport :=
    fun t before => before.next (.update can.getTickMs)
  by_cases arrived : s.requestLen > 0
  · rw [process_arrived s can tick arrived]
    apply finished
    exact (RxInvariant.fetch invariant).of_rx (handleRequest_rx can s.requestLen)
  · rw [process_silent s can tick arrived]
    exact finished _ (RxInvariant.fetch invariant)

theorem process_handles (invariant : RxInvariant s.transport) :
    (handledRequest ((udsServer σ).entry s (.process can tick))).toList = s.waiting := by
  have entry : handledRequest ((udsServer σ).entry s (.process can tick)) =
      if s.requestLen > 0 then some (s.request.load 0 s.requestLen) else none := rfl
  rw [entry]
  cases ready : s.transport.dataReady with
  | false =>
    rw [requestLen_eq_zero s ready, waiting_empty ready]
    rfl
  | true =>
    obtain ⟨_, positive, all, bounded⟩ := invariant.ready ready
    have whole : min s.transport.rxExpected maxPayload = s.transport.rxExpected := Nat.min_eq_left (by
      unfold maxPayload
      omega)
    have bytes : (s.transport.getData true maxPayload).1 = s.received := by
      have smaller : (if s.transport.rxReceived < maxPayload then s.transport.rxReceived else maxPayload) =
          s.transport.rxExpected := by
        rw [all]
        split
        · rfl
        · omega
      simp only [IsoTp.getData, ready, received]
      rw [if_neg (by simp), smaller]
    have length : s.received.length = s.transport.rxExpected := Region.load_length ..
    have len : s.requestLen = s.received.length := by
      rw [requestLen, UdsServer.fetch, if_pos ready]
      exact congrArg List.length bytes
    have cells : s.request = s.reqBuf.store 0 s.received := by
      rw [request, UdsServer.fetch, if_pos ready]
      exact congrArg (s.reqBuf.store 0) bytes
    have arrived : s.requestLen > 0 := by omega
    rw [if_pos arrived, waiting_ready ready, cells, len, Region.load_store]
    rfl

theorem process_waiting : (s.process can tick).1.waiting = [] := waiting_empty (s.process_ready can tick)

theorem process_balanced (invariant : RxInvariant s.transport) :
    Balanced ((udsServer σ).entry s (.process can tick)) := by
  have handles := process_handles can tick invariant
  have rest : ((udsServer σ).entry s (.process can tick)).after.waiting = [] := process_waiting can tick
  have none : completion ((udsServer σ).entry s (.process can tick)) = none := rfl
  have before : ((udsServer σ).entry s (.process can tick)).before.waiting = s.waiting := rfl
  have spared : ¬ ((udsServer σ).entry s (.process can tick)).before.Discards
      ((udsServer σ).entry s (.process can tick)).event := id
  constructor
  · exact RxInvariant.process can tick invariant
  · rw [handles, rest, none, before, if_neg spared]
    rfl
  · intro _
    rw [handles, rest, none, before]
    rfl

end

theorem Tally.next (tally : Tally record s) (event : ServerEvent) :
    Tally (record ++ [(udsServer σ).entry s event]) ((udsServer σ).next s event) := by
  cases event with
  | frame can frame =>
    have balanced := frame_balanced can frame tally.invariant
    exact tally.snoc balanced
  | process can tick =>
    have balanced := process_balanced can tick tally.invariant
    exact tally.snoc balanced

theorem boot_transport (transport : IsoTp) (timing : TimingConfig) (onTimeout : Option (σ → σ))
    (reqBuf respBuf : Region Byte) (state : σ) (services : List (IService σ)) :
    (boot transport timing onTimeout reqBuf respBuf state services).transport = transport :=
  @boot_induction σ (fun s => s.transport = transport) _ _ _ _ _ _ _ rfl fun _ _ _ kept => kept

theorem Tally.start (cfg : IsoTpConfig) (rxBuf : Region Byte) (timing : TimingConfig) (onTimeout : Option (σ → σ))
    (reqBuf respBuf : Region Byte) (state : σ) (services : List (IService σ)) :
    Tally [] (boot (.create cfg rxBuf) timing onTimeout reqBuf respBuf state services) := by
  have transport := boot_transport (.create cfg rxBuf) timing onTimeout reqBuf respBuf state services
  have empty : (boot (.create cfg rxBuf) timing onTimeout reqBuf respBuf state services).waiting = [] := by
    apply waiting_empty
    rw [transport]
    rfl
  constructor
  · rw [transport]
    exact RxInvariant.create cfg rxBuf
  · rw [empty]
    rfl
  · intro _
    rw [empty]
    rfl

end Uds.UdsServer
