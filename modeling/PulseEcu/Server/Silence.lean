import PulseEcu.Server.Conversation
import PulseEcu.Transport.Stranding

open Foundation

namespace Uds

open Transport

namespace Transport

structure RunsOut (due : Nat) (s : IsoTp) : Prop where
  receiving : s.rxState = .receiving → 0 < s.rxDeadline.toNat ∧ s.rxDeadline.toNat ≤ due
  waiting : s.txState = .waitFc → 0 < s.txDeadline.toNat ∧ s.txDeadline.toNat ≤ due

/-- The configured timeouts, from ticks up to `latest` on, end before the tick counter does. -/
structure Limits (cfg : IsoTpConfig) (latest due : Nat) : Prop where
  nCr : 0 < cfg.nCrMs.toNat ∧ latest + cfg.nCrMs.toNat ≤ due
  nBs : 0 < cfg.nBsMs.toNat ∧ latest + cfg.nBsMs.toNat ≤ due
  fits : due < 2 ^ 32

/-- A receiver that collects has its timer from this frame, or from before. -/
theorem accept_collecting {grant : CanFrame} {due deadline : Word} {r : Receiver} {pdu : Option Pdu} {total : Nat}
    {bytes : List Byte} {sn : Byte} (collecting : (r.accept grant due pdu).1 = .collecting total bytes sn deadline) :
    deadline = due ∨ ∃ total bytes sn, r = .collecting total bytes sn deadline := by
  cases pdu with
  | none => exact Or.inr ⟨total, bytes, sn, collecting⟩
  | some pdu =>
    cases pdu with
    | single payload => cases collecting
    | first announced payload =>
      cases collecting
      exact Or.inl rfl
    | flowControl status bs st => exact Or.inr ⟨total, bytes, sn, collecting⟩
    | consecutive number payload =>
      cases r with
      | idle => cases collecting
      | holding message => cases collecting
      | collecting announced taken next due' =>
        simp only [Receiver.accept] at collecting
        split at collecting
        · exact Or.inr ⟨total, bytes, sn, collecting⟩
        · split at collecting
          · cases collecting
          · cases collecting
            exact Or.inl rfl

theorem update_collecting {now deadline : Word} {r : Receiver} {total : Nat} {bytes : List Byte} {sn : Byte}
    (collecting : r.update now = .collecting total bytes sn deadline) :
    r = .collecting total bytes sn deadline ∧ ¬ (deadline > 0 ∧ now ≥ deadline) := by
  cases r with
  | idle => cases collecting
  | holding message => cases collecting
  | collecting announced taken next due =>
    rw [Receiver.update] at collecting
    split at collecting
    · cases collecting
    · rename_i early
      cases collecting
      exact ⟨rfl, early⟩

theorem take_collecting {given : Bool} {maxLen : Nat} {deadline : Word} {r : Receiver} {total : Nat}
    {bytes : List Byte} {sn : Byte} (collecting : (r.take given maxLen).1 = .collecting total bytes sn deadline) :
    r = .collecting total bytes sn deadline := by
  cases r with
  | idle => cases collecting
  | collecting announced taken next due => exact collecting
  | holding message =>
    rw [Receiver.take] at collecting
    split at collecting <;> cases collecting

theorem collects {s : IsoTp} {total : Nat} {bytes : List Byte} {sn : Byte} {deadline : Word}
    (same : s.receiver = .collecting total bytes sn deadline) : s.rxState = .receiving ∧ s.rxDeadline = deadline := by
  unfold IsoTp.receiver at same
  split at same
  · rename_i receiving
    cases same
    exact ⟨receiving, rfl⟩
  · split at same <;> cases same

def Event.tick : Event → Option Word
  | .frame can _ _ => some can.getTickMs
  | .send can _ _ _ => some can.getTickMs
  | _ => none

theorem progress_tick {entry : Entry} {tick : Word} (some : progress entry = some tick) :
    entry.event.tick = .some tick := by
  unfold progress at some
  split at some
  · rename_i can mem source length event
    rw [event]
    split at some
    · exact some
    · cases some
  · rename_i can mem frame event
    rw [event]
    split at some
    · exact some
    · cases some
  · cases some

section

variable {cfg : IsoTpConfig} {latest due : Nat} {s : IsoTp}

theorem expires_later (limits : Limits cfg latest due) {tick timeout deadline : Word}
    (timer : 0 < timeout.toNat ∧ latest + timeout.toNat ≤ due) (early : tick.toNat ≤ latest)
    (same : deadline = tick + timeout) : 0 < deadline.toNat ∧ deadline.toNat ≤ due := by
  have fits := limits.fits
  rw [same, BitVec.toNat_add, Nat.mod_eq_of_lt (by omega)]
  omega

theorem RunsOut.receives (expires : RunsOut due s) (limits : Limits cfg latest due) {r : Receiver}
    (receives : Receives cfg s r) {event : Event} (early : ∀ tick, event.tick = some tick → tick.toNat ≤ latest)
    (receiving : (isoTp.next s event).rxState = .receiving) :
    0 < (isoTp.next s event).rxDeadline.toNat ∧ (isoTp.next s event).rxDeadline.toNat ≤ due := by
  have collecting := IsoTp.receiver_receiving receiving
  have kept : ∀ total bytes sn, s.receiver = .collecting total bytes sn (isoTp.next s event).rxDeadline →
      0 < (isoTp.next s event).rxDeadline.toNat ∧ (isoTp.next s event).rxDeadline.toNat ≤ due := by
    intro total bytes sn same
    obtain ⟨before, deadline⟩ := collects same
    rw [← deadline]
    exact expires.receiving before
  have simulates := isoTp_simulates_receiver cfg
  cases meaning : heard cfg event with
  | none =>
    have rests := simulates.rests receives trivial meaning
    rw [rests.same, ← receives.same] at collecting
    exact kept _ _ _ collecting
  | some means =>
    have acts := (simulates.acts receives trivial meaning).1
    rw [acts.same, ← receives.same] at collecting
    cases event with
    | frame can mem frame =>
      by_cases control : ∃ status bs st, readPdu cfg frame = some (.flowControl status bs st)
      · obtain ⟨status, bs, st, read⟩ := control
        simp only [heard, read] at meaning
        cases meaning
      · rw [heard_other can mem fun status bs st read => control ⟨status, bs, st, read⟩] at meaning
        cases meaning
        rcases accept_collecting collecting with now | ⟨total, bytes, sn, before⟩
        · exact expires_later limits limits.nCr (early can.getTickMs rfl) now
        · exact kept total bytes sn before
    | update now =>
      cases meaning
      exact kept _ _ _ (update_collecting collecting).1
    | send can mem data length => cases meaning
    | getData given maxLen =>
      cases meaning
      exact kept _ _ _ (take_collecting collecting)

theorem RunsOut.next (expires : RunsOut due s) (limits : Limits cfg latest due) {r : Receiver}
    (receives : Receives cfg s r) {event : Event} (early : ∀ tick, event.tick = some tick → tick.toNat ≤ latest) :
    RunsOut due (isoTp.next s event) := by
  refine ⟨expires.receives limits receives early, fun waiting => ?_⟩
  cases tx_turn s event with
  | kept tx _ _ =>
    simp only [IsoTp.tx, TxView.mk.injEq] at tx
    obtain ⟨state, _, _, _, _, _, _, _, deadline⟩ := tx
    rw [deadline]
    exact expires.waiting (state.symm.trans waiting)
  | ended state _ _ => cases state.symm.trans waiting
  | timed tick _ deadline started _ =>
    rw [receives.cfg] at deadline
    exact expires_later limits limits.nBs (early tick (progress_tick started)) deadline
  | stranded state _ => cases state.symm.trans waiting

/-- An `update` at `due` or later stops both halves. -/
theorem RunsOut.stopped (expires : RunsOut due s) {now : Word} (late : due ≤ now.toNat) {r : Receiver}
    (receives : Receives cfg s r) (empty : ∀ message, r ≠ .holding message) :
    (r.update now) = .idle ∧ (s.update now).txState ≠ .waitFc := by
  constructor
  · cases r with
    | idle => rfl
    | holding message => exact absurd rfl (empty message)
    | collecting total bytes sn deadline =>
      obtain ⟨receiving, same⟩ := collects receives.same
      obtain ⟨positive, bound⟩ := expires.receiving receiving
      rw [same] at positive bound
      exact if_pos ⟨BitVec.lt_def.mpr positive, BitVec.le_def.mpr (Nat.le_trans bound late)⟩
  · intro waiting
    rw [IsoTp.update_txState] at waiting
    split at waiting
    · cases waiting
    · rename_i early
      obtain ⟨positive, bound⟩ := expires.waiting waiting
      exact early ⟨waiting, BitVec.lt_def.mpr positive, BitVec.le_def.mpr (Nat.le_trans bound late)⟩

end

end Transport

variable {σ : Type}

def ServerEvent.can : ServerEvent → ICanInterface
  | .frame can _ => can
  | .process can _ => can

namespace UdsServer

inductive Calls (can : ICanInterface) (transport : IsoTp) : List Event → Prop where
  | silent (empty : transport.dataReady = false) : Calls can transport [.update can.getTickMs]
  | fetched : Calls can transport [.getData true maxPayload, .update can.getTickMs]
  | answered (mem : Memory) (pointer : Pointer) (length : Nat) :
      Calls can transport [.getData true maxPayload, .send can mem (some pointer) length, .update can.getTickMs]

structure Bounded (cfg : IsoTpConfig) (due : Nat) (s : UdsServer σ) : Prop where
  receives : Receives cfg s.transport s.transport.receiver
  expires : RunsOut due s.transport

section

variable {cfg : IsoTpConfig} {latest due : Nat} {s : UdsServer σ}

theorem receives_next {t : IsoTp} (receives : Receives cfg t t.receiver) (event : Event) :
    Receives cfg (isoTp.next t event) (isoTp.next t event).receiver :=
  ⟨(IsoTp.next_cfg t event).trans receives.cfg, receives.invariant.next event, rfl⟩

theorem fetch_transport (s : UdsServer σ) :
    s.transport.dataReady = false ∧ s.fetch = (0, s) ∨
      s.transport.dataReady = true ∧ s.fetch.2.transport = isoTp.next s.transport (.getData true maxPayload) := by
  unfold fetch
  cases ready : s.transport.dataReady with
  | false => exact Or.inl ⟨rfl, rfl⟩
  | true => exact Or.inr ⟨rfl, rfl⟩

theorem process_transport (s : UdsServer σ) (can : ICanInterface) (tick : Word) :
    ∃ calls, Calls can s.transport calls ∧ (s.process can tick).1.transport = isoTp.run s.transport calls := by
  rcases s.fetch_transport with ⟨empty, fetched⟩ | ⟨_, taken⟩
  · refine ⟨_, .silent empty, ?_⟩
    have none : ¬ s.requestLen > 0 := by
      rw [requestLen, fetched]
      exact Nat.lt_irrefl 0
    rw [s.process_silent can tick none, fetched]
    rfl
  · by_cases arrived : s.requestLen > 0
    · have awake : (s.awake tick).transport = isoTp.next s.transport (.getData true maxPayload) := taken
      obtain ⟨_, handed⟩ := (s.awake tick).handleRequest_plain can arrived
      rw [s.process_arrived can tick arrived]
      cases handed with
      | silent _ same _ =>
        refine ⟨_, .fetched, ?_⟩
        show ((s.awake tick).handleRequest can s.requestLen).1.transport.update can.getTickMs = _
        rw [same, awake]
        rfl
      | spoken mem pointer _ _ state _ =>
        refine ⟨_, .answered mem pointer ((s.awake tick).plain.respond s.requestLen).2.length, ?_⟩
        show ((s.awake tick).handleRequest can s.requestLen).1.transport.update can.getTickMs = _
        rw [state, awake]
        rfl
    · refine ⟨_, .fetched, ?_⟩
      rw [s.process_silent can tick arrived]
      show s.fetch.2.transport.update can.getTickMs = _
      rw [taken]
      rfl

theorem Bounded.calls (bounded : Bounded cfg due s) (limits : Limits cfg latest due) (calls : List Event)
    (early : ∀ call ∈ calls, ∀ tick, call.tick = some tick → tick.toNat ≤ latest) {t : UdsServer σ}
    (same : t.transport = isoTp.run s.transport calls) : Bounded cfg due t := by
  have run : Receives cfg (isoTp.run s.transport calls) (isoTp.run s.transport calls).receiver ∧
      RunsOut due (isoTp.run s.transport calls) := by
    obtain ⟨receives, expires⟩ := bounded
    clear same
    generalize s.transport = transport at receives expires
    induction calls generalizing transport with
    | nil => exact ⟨receives, expires⟩
    | cons call calls ih =>
      obtain ⟨now, later⟩ := List.forall_mem_cons.mp early
      exact ih later _ (receives_next receives call) (expires.next limits receives now)
  rw [← same] at run
  exact ⟨run.1, run.2⟩

theorem Bounded.next (bounded : Bounded cfg due s) (limits : Limits cfg latest due) (event : ServerEvent)
    (early : event.can.getTickMs.toNat ≤ latest) : Bounded cfg due ((udsServer σ).next s event) := by
  cases event with
  | frame can frame =>
    apply bounded.calls limits [s.frameEvent can frame]
    · intro call member tick same
      rw [List.mem_singleton.mp member] at same
      cases same
      exact early
    · rfl
  | process can tick =>
    obtain ⟨calls, made, same⟩ := s.process_transport can tick
    apply bounded.calls limits calls _ same
    intro call member now starts
    cases made with
    | silent _ =>
      rw [List.mem_singleton.mp member] at starts
      cases starts
    | fetched =>
      rcases List.mem_cons.mp member with rfl | last
      · cases starts
      · rw [List.mem_singleton.mp last] at starts
        cases starts
    | answered mem pointer length =>
      rcases List.mem_cons.mp member with rfl | member
      · cases starts
      · rcases List.mem_cons.mp member with rfl | last
        · cases starts
          exact early
        · rw [List.mem_singleton.mp last] at starts
          cases starts

theorem Bounded.run (bounded : Bounded cfg due s) (limits : Limits cfg latest due) (events : List ServerEvent)
    (early : ∀ event ∈ events, event.can.getTickMs.toNat ≤ latest) : Bounded cfg due ((udsServer σ).run s events) := by
  induction events generalizing s with
  | nil => exact bounded
  | cons event events ih =>
    obtain ⟨now, later⟩ := List.forall_mem_cons.mp early
    exact ih (bounded.next limits event now) later

theorem Bounded.boot (cfg : IsoTpConfig) (due : Nat) (rxBuf : Region Byte) (timing : TimingConfig)
    (onTimeout : Option (σ → σ)) (reqBuf respBuf : Region Byte) (state : σ) (services : List (IService σ)) :
    Bounded cfg due (boot (.create cfg rxBuf) timing onTimeout reqBuf respBuf state services) := by
  have transport := boot_transport (.create cfg rxBuf) timing onTimeout reqBuf respBuf state services
  refine ⟨?_, ?_⟩
  · rw [transport]
    exact ⟨rfl, RxInvariant.create cfg rxBuf, rfl⟩
  · rw [transport]
    exact ⟨fun receiving => (nomatch receiving), fun waiting => (nomatch waiting)⟩

theorem receiver_empty {t : IsoTp} (empty : t.dataReady = false) : ∀ message, t.receiver ≠ .holding message := by
  intro message holding
  unfold IsoTp.receiver at holding
  split at holding
  · cases holding
  · rw [empty] at holding
    cases holding

theorem taken_empty (r : Receiver) (maxLen : Nat) : ∀ message, (r.take true maxLen).1 ≠ .holding message := by
  cases r with
  | idle => exact fun _ same => nomatch same
  | collecting => exact fun _ same => nomatch same
  | holding => exact fun _ same => nomatch same

theorem updated_empty {r : Receiver} (empty : ∀ message, r ≠ .holding message) (now : Word) :
    ∀ message, r.update now ≠ .holding message := by
  intro message holding
  cases r with
  | idle => cases holding
  | holding held => exact empty held rfl
  | collecting total bytes sn deadline =>
    rw [Receiver.update] at holding
    split at holding <;> cases holding

/-- A call of `process` leaves no request waiting. -/
theorem Bounded.emptied (bounded : Bounded cfg due s) (can : ICanInterface) (tick : Word) :
    ∀ message, (s.process can tick).1.transport.receiver ≠ .holding message := by
  have receives := bounded.receives
  have taken := receives.getData true maxPayload
  obtain ⟨calls, made, same⟩ := s.process_transport can tick
  rw [same]
  cases made with
  | silent empty =>
    have updated := receives.update can.getTickMs
    show ∀ message, (s.transport.update can.getTickMs).receiver ≠ .holding message
    rw [updated.same]
    exact updated_empty (receiver_empty empty) can.getTickMs
  | fetched =>
    have updated := taken.update can.getTickMs
    show ∀ message, ((s.transport.getData true maxPayload).2.update can.getTickMs).receiver ≠ .holding message
    rw [updated.same]
    exact updated_empty (taken_empty _ maxPayload) can.getTickMs
  | answered mem pointer length =>
    have sent := taken.of_rx (IsoTp.send_rx can mem (s.transport.getData true maxPayload).2 (some pointer) length)
      (IsoTp.next_cfg _ (.send can mem (some pointer) length))
    have updated := sent.update can.getTickMs
    show ∀ message, (((s.transport.getData true maxPayload).2.send can mem (some pointer) length).state.update
      can.getTickMs).receiver ≠ .holding message
    rw [updated.same]
    exact updated_empty (taken_empty _ maxPayload) can.getTickMs

theorem emptied_ready {t : IsoTp} (receives : Receives cfg t t.receiver) (empty : ∀ message, t.receiver ≠ .holding message) :
    t.dataReady = false := by
  cases ready : t.dataReady with
  | false => rfl
  | true =>
    obtain ⟨idle, _⟩ := receives.invariant.ready ready
    exact absurd (IsoTp.receiver_ready idle ready) (empty _)

/-- A round that finds no request, and comes when all timers have run out, leaves the transport idle. -/
theorem Bounded.quiet (bounded : Bounded cfg due s) (can : ICanInterface) (tick : Word)
    (empty : ∀ message, s.transport.receiver ≠ .holding message) (late : due ≤ can.getTickMs.toNat) :
    Carries cfg ((udsServer σ).next s (.process can tick))
      ⟨.idle, .idle, ((udsServer σ).next s (.process can tick)).plain⟩ := by
  have silent : s.fetch = (0, s) := by
    rcases s.fetch_transport with ⟨_, fetched⟩ | ⟨ready, _⟩
    · exact fetched
    · exact Bool.noConfusion (ready.symm.trans (emptied_ready bounded.receives empty))
  have none : ¬ s.requestLen > 0 := by
    rw [requestLen, silent]
    exact Nat.lt_irrefl 0
  have next : (udsServer σ).next s (.process can tick) = s.finish can tick := by
    show (s.process can tick).1 = _
    rw [s.process_silent can tick none, silent]
  obtain ⟨idle, stopped⟩ := bounded.expires.stopped late bounded.receives empty
  have receives := bounded.receives.update can.getTickMs
  rw [idle] at receives
  rw [next]
  refine ⟨receives, ⟨receives.cfg, stopped⟩, ?_, rfl⟩
  intro _ _ _ waiting
  cases waiting

/-- However a run went, and whatever it left unfinished: once the bus has been silent for longer than
    every timeout, a conversation is delivered like one after start-up. -/
theorem silence_recovers (cfg : IsoTpConfig) (rxBuf : Region Byte) (timing : TimingConfig)
    (onTimeout : Option (σ → σ)) (reqBuf respBuf : Region Byte) (state : σ) (services : List (IService σ))
    (events : List ServerEvent) (first : Poll) (rest : List Poll) (last : Poll) (latest due : Nat)
    (limits : Limits cfg latest due)
    (early : ∀ event ∈ events ++ (first :: rest).map Poll.event, event.can.getTickMs.toNat ≤ latest)
    (late : due ≤ last.can.getTickMs.toNat) (turns : List Turn) :
    let start := boot (.create cfg rxBuf) timing onTimeout reqBuf respBuf state services
    let recovered := (udsServer σ).run start (events ++ (first :: rest).map Poll.event ++ [last.event])
    let ends := (udsServer σ).run recovered (turns.flatMap Turn.events)
    Conversation cfg recovered.plain turns →
      ends.plain = (messageServer σ).run recovered.plain (turns.flatMap Turn.messages) ∧
        ends.transport.receiver = .idle ∧ ends.transport.txState ≠ .waitFc ∧
        ((udsServer σ).trace recovered (turns.flatMap Turn.events)).flatMap Machine.Entry.output =
          conversationFrames cfg recovered.plain turns := by
  intro start recovered ends proper
  have initial : Bounded cfg due start := .boot cfg due rxBuf timing onTimeout reqBuf respBuf state services
  have bounded := initial.run limits _ early
  have empty : ∀ message, ((udsServer σ).run start (events ++ (first :: rest).map Poll.event)).transport.receiver ≠
      .holding message := by
    obtain ⟨rounds, round, split⟩ : ∃ rounds round, first :: rest = rounds ++ [round] :=
      ⟨_, _, (List.dropLast_concat_getLast (List.cons_ne_nil first rest)).symm⟩
    rw [split, List.map_append, List.map_singleton, ← List.append_assoc] at early ⊢
    have before := initial.run limits (events ++ rounds.map Poll.event) fun event member =>
      early event (List.mem_append_left _ member)
    rw [Machine.run_snoc]
    exact before.emptied round.can round.tick
  have idle : Carries cfg recovered ⟨.idle, .idle, recovered.plain⟩ := by
    have quiet := bounded.quiet last.can last.tick empty late
    have same : recovered = (udsServer σ).next
        ((udsServer σ).run start (events ++ (first :: rest).map Poll.event)) last.event := Machine.run_snoc ..
    rw [same]
    exact quiet
  obtain ⟨carries, sent⟩ := (Goes.conversation cfg turns recovered.plain proper).followed idle
  exact ⟨carries.server, carries.receives.same, carries.conveys.of, sent⟩

def unfinished : List ServerEvent :=
  [.frame readerCan (.make 0x7DF [0x10, 0x0A, 0x2E, 0xF1, 0x90, 0x57, 0x56, 0x57] 8)] ++ reads 0xF1 0x90

def lateCan : ICanInterface := ⟨5000, fun _ => true⟩

theorem silence_recovers_vin :
    let recovered := (udsServer Unit).run reader
      (unfinished ++ ([⟨readerCan, 20⟩] : List Poll).map Poll.event ++ [.process lateCan 5000])
    let ends := (udsServer Unit).run recovered ([vinTurn lateCan 5000].flatMap Turn.events)
    ends.plain = (messageServer Unit).run recovered.plain ([vinTurn lateCan 5000].flatMap Turn.messages) ∧
      ends.transport.receiver = .idle ∧ ends.transport.txState ≠ .waitFc ∧
      ((udsServer Unit).trace recovered ([vinTurn lateCan 5000].flatMap Turn.events)).flatMap Machine.Entry.output =
        conversationFrames kDefaultIsoTpConfig recovered.plain [vinTurn lateCan 5000] := by
  have limits : Limits kDefaultIsoTpConfig 10 2000 := ⟨by decide, by decide, by decide⟩
  apply silence_recovers kDefaultIsoTpConfig (Region.fill 0) kDefaultTiming none (Region.fill 0) (Region.fill 0) ()
    [identifiers.service] unfinished ⟨readerCan, 20⟩ [] ⟨lateCan, 5000⟩ 10 2000 limits
  · decide
  · decide
  · have started : Early (lateCan.getTickMs + kDefaultIsoTpConfig.nBsMs) [⟨lateCan, 5000⟩] :=
      List.forall_mem_singleton.mpr (by decide)
    exact ⟨vinTurn_proper (fun _ => rfl) started _ rfl, trivial⟩

end

end UdsServer

end Uds
