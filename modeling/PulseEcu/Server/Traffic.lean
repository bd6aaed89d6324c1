import PulseEcu.Server.InFlight
import PulseEcu.Server.RequestDelivery
import PulseEcu.Transport.Sweep

open Foundation

namespace Uds

namespace Transport

def owed (s : IsoTp) : Nat := if s.txState = .waitFc then s.framesLeft else 0

def OpensMessage (cfg : IsoTpConfig) (frame : CanFrame) : Prop := ¬ Rejected cfg frame ∧ pciType frame = 1

instance (cfg : IsoTpConfig) (frame : CanFrame) : Decidable (OpensMessage cfg frame) :=
  inferInstanceAs (Decidable (_ ∧ _))

variable {s t : IsoTp} {frame : CanFrame} (can : ICanInterface) (mem : Memory)

theorem owed_of_tx (same : t.tx = s.tx) : owed t = owed s := by
  simp only [IsoTp.tx, TxView.mk.injEq] at same
  obtain ⟨state, _, total, offset, _⟩ := same
  rw [owed, owed, IsoTp.framesLeft, IsoTp.framesLeft, state, total, offset]

theorem Sweep.pays {n : Nat} {outcome : Outcome} (sweep : Sweep can mem s n [] outcome) (sending : s.txState = .sending)
    (inside : n ≤ s.framesLeft) : outcome.sent.length + owed outcome.state ≤ s.framesLeft := by
  cases sweep with
  | refused i before _ _ =>
    have idle : (s.advanced i).txState ≠ .waitFc := by
      rw [IsoTp.advanced_txState, sending]
      decide
    rw [List.nil_append, IsoTp.nextCfs_length, owed, if_neg idle]
    omega
  | paused _ _ =>
    have left : owed ((s.advanced n).paused can) = (s.advanced n).framesLeft := if_pos rfl
    rw [List.nil_append, IsoTp.nextCfs_length, left, IsoTp.framesLeft_advanced]
    omega
  | finished _ _ =>
    have none : owed (s.advanced n).finished = 0 := if_neg (fun waiting => nomatch waiting)
    rw [List.nil_append, IsoTp.nextCfs_length, none]
    exact inside

theorem handleFc_pays (s : IsoTp) (frame : CanFrame) :
    (s.handleFc can mem frame).sent.length + owed (s.handleFc can mem frame).state ≤ owed s := by
  by_cases waiting : s.txState = .waitFc
  · by_cases cts : 3 ≤ frame.dlc.toNat ∧ frame.data 0 &&& 0x0F = kFcCts
    · obtain ⟨enough, status⟩ := cts
      have long : ¬ frame.dlc < 3 := fun short => absurd (BitVec.lt_def.mp short) (Nat.not_lt.mpr enough)
      have sweep := sendNextCfLoop_sweep can mem (s.txTotal - s.txOffset) (s.opened frame) [] (Nat.le_refl _)
      have paid := sweep.pays can mem rfl (blockFrames_le (frame.data 1) (s.opened frame).framesLeft)
      have handled : s.handleFc can mem frame = (s.opened frame).sendNextCf can mem := by
        simp only [IsoTp.handleFc, waiting, long, status, ne_eq, not_true_eq_false, if_false]
        rfl
      have all : owed s = (s.opened frame).framesLeft := if_pos waiting
      rw [handled, all]
      exact paid
    · obtain ⟨silent, deadline, state⟩ : (s.handleFc can mem frame).sent = [] ∧
          ∃ deadline, (s.handleFc can mem frame).state = { s with txDeadline := deadline } := handleFc_other can cts
      rw [silent, state]
      exact Nat.le_of_eq (Nat.zero_add _)
  · rw [handleFc_refused can waiting]
    exact Nat.le_of_eq (Nat.zero_add _)

theorem processFrame_pays (s : IsoTp) (frame : CanFrame) :
    (s.processFrame can mem frame).sent.length + owed (s.processFrame can mem frame).state ≤
      owed s + if OpensMessage s.cfg frame then 1 else 0 := by
  by_cases rejected : Rejected s.cfg frame
  · rw [rejected_ignored can mem rejected, if_neg fun opens => opens.1 rejected]
    exact Nat.le_of_eq (Nat.zero_add _)
  · rcases not_rejected rejected with ⟨id, nonempty, single | first | consecutive | flowControl⟩
    · rw [IsoTp.processFrame_single can mem s frame id nonempty single, handleSf_sent,
        owed_of_tx (IsoTp.handleSf_tx s frame)]
      exact Nat.le_add_right_of_le (Nat.le_of_eq (Nat.zero_add _))
    · have same := IsoTp.handleFf_tx can s frame
      rw [← IsoTp.processFrame_first can mem s frame id nonempty first] at same
      rw [owed_of_tx same, if_pos ⟨rejected, first⟩, first_accepted can mem rejected first]
      exact Nat.le_of_eq (Nat.add_comm _ _)
    · rw [IsoTp.processFrame_consecutive can mem s frame id nonempty consecutive, handleCf_sent,
        owed_of_tx (IsoTp.handleCf_tx can s frame)]
      exact Nat.le_add_right_of_le (Nat.le_of_eq (Nat.zero_add _))
    · rw [IsoTp.processFrame_flowControl can mem s frame id nonempty flowControl]
      exact Nat.le_add_right_of_le (handleFc_pays can mem s frame)

/-- The frames of a message: one, or a first frame with six bytes and then seven in each. -/
def framesFor (length : Nat) : Nat :=
  if length = 0 ∨ maxPayload < length then 0 else if length ≤ 7 then 1 else length / 7 + 1

theorem framesFor_le (length : Nat) : framesFor length ≤ 586 := by
  unfold framesFor maxPayload
  split
  · exact Nat.zero_le _
  · split
    · exact Nat.le_of_ble_eq_true rfl
    · omega

theorem framesFor_single {length : Nat} (some : 0 < length) (short : length ≤ 7) : framesFor length = 1 := by
  have fits : ¬ (length = 0 ∨ maxPayload < length) := by
    unfold maxPayload
    omega
  rw [framesFor, if_neg fits, if_pos short]

theorem framesFor_multi {length : Nat} (long : 8 ≤ length) (fits : length ≤ maxPayload) :
    framesFor length = length / 7 + 1 := by
  have fits : ¬ (length = 0 ∨ maxPayload < length) := by omega
  have long : ¬ length ≤ 7 := Nat.not_le.mpr long
  rw [framesFor, if_neg fits, if_neg long]

theorem send_pays (s : IsoTp) (data : Option Pointer) (length : Nat) :
    (s.send can mem data length).sent.length + owed (s.send can mem data length).state ≤
      owed s + framesFor length := by
  cases send_effect can mem s data length with
  | refused bad handled =>
    rw [handled]
    exact Nat.le_add_right_of_le (Nat.le_of_eq (Nat.zero_add _))
  | single source given some short state sent =>
    rw [state, sent, List.length_singleton, framesFor_single some short]
    exact Nat.le_of_eq (Nat.add_comm _ _)
  | blocked source given long fits refusal state sent =>
    rw [state, sent, List.length_singleton, framesFor_multi long fits]
    omega
  | first source given multi handled =>
    have left : owed (s.started can source length) = (length - 6 + 6) / 7 := if_pos rfl
    rw [handled, List.length_singleton, left, framesFor_multi multi.1 multi.2.1]
    omega

theorem update_owes (s : IsoTp) (now : Word) : owed (s.update now) ≤ owed s := by
  by_cases waiting : (s.update now).txState = .waitFc
  · exact Nat.le_of_eq (owed_of_tx (IsoTp.update_waiting now s waiting))
  · rw [owed, if_neg waiting]
    exact Nat.zero_le _

end Transport

open Transport

namespace UdsServer

variable {σ : Type}

def responseFrames (entry : Entry σ) : Nat :=
  match entry.event with
  | .frame _ _ => 0
  | .process _ tick =>
    if entry.before.requestLen > 0 then
      match entry.before.reply tick with
      | none => framesFor 3
      | some answer => if answer.send then framesFor answer.respLen else 0
    else 0

def OpensAt (cfg : IsoTpConfig) : ServerEvent → Prop
  | .frame _ frame => OpensMessage cfg frame
  | .process _ _ => False

instance (cfg : IsoTpConfig) : DecidablePred (OpensAt cfg)
  | .frame _ frame => inferInstanceAs (Decidable (OpensMessage cfg frame))
  | .process _ _ => inferInstanceAs (Decidable False)

section

variable (s : UdsServer σ) (can : ICanInterface) (tick : Word)

theorem sendResponse_pays (mem : Memory) (data : Pointer) (length : Nat) :
    (s.sendResponse can mem data length).2.length + owed (s.sendResponse can mem data length).1.transport ≤
      owed s.transport + framesFor length := send_pays can mem s.transport (some data) length

theorem handleRequest_pays (length : Nat) (arrived : length > 0) :
    (s.handleRequest can length).2.length + owed (s.handleRequest can length).1.transport ≤
      owed s.transport + match s.answerTo length with
        | none => framesFor 3
        | some answer => if answer.send then framesFor answer.respLen else 0 := by
  simp only [handleRequest, answerTo, if_neg (Nat.ne_of_gt arrived)]
  cases s.findService (s.reqBuf 0) with
  | none => exact sendResponse_pays ..
  | some svc =>
    dsimp only [Option.map_some]
    split
    · rename_i sends
      rw [if_pos sends.1]
      exact sendResponse_pays ..
    · exact Nat.le_add_right_of_le (Nat.le_of_eq (Nat.zero_add _))

theorem process_pays : (s.process can tick).2.length + owed (s.process can tick).1.transport ≤
    owed s.transport + responseFrames ((udsServer σ).entry s (.process can tick)) := by
  have fetched := owed_of_tx s.fetch_tx
  have before : responseFrames ((udsServer σ).entry s (.process can tick)) =
      if s.requestLen > 0 then
        match s.reply tick with
        | none => framesFor 3
        | some answer => if answer.send then framesFor answer.respLen else 0
      else 0 := rfl
  by_cases arrived : s.requestLen > 0
  · have handled := (s.awake tick).handleRequest_pays can s.requestLen arrived
    have left := update_owes ((s.awake tick).handleRequest can s.requestLen).1.transport can.getTickMs
    rw [← s.reply_eq tick arrived] at handled
    rw [before, if_pos arrived, process_arrived s can tick arrived, ← fetched]
    exact Nat.le_trans (Nat.add_le_add_left left _) handled
  · have left := update_owes s.fetch.2.transport can.getTickMs
    rw [fetched] at left
    rw [before, if_neg arrived, process_silent s can tick arrived, List.length_nil, Nat.zero_add]
    exact left

/-- Every frame that a step sends is paid for: by the message it opens, by the response it gives, or by
    what was owed. -/
theorem step_pays (cfg : IsoTpConfig) (same : s.transport.cfg = cfg) (event : ServerEvent) :
    ((udsServer σ).entry s event).output.length + owed ((udsServer σ).next s event).transport ≤
      owed s.transport + ((if OpensAt cfg event then 1 else 0) + responseFrames ((udsServer σ).entry s event)) := by
  cases event with
  | frame can frame =>
    have paid := processFrame_pays can (s.memory (Region.fill 0)) s.transport frame
    rw [same] at paid
    exact paid
  | process can tick =>
    have free : ¬ OpensAt cfg (.process can tick) := id
    rw [if_neg free, Nat.zero_add]
    exact s.process_pays can tick

end

theorem responseFrames_le (entry : Entry σ) : responseFrames entry ≤ 586 * (handledRequest entry).toList.length := by
  obtain ⟨s, event, _, _⟩ := entry
  cases event with
  | frame can frame => exact Nat.zero_le _
  | process can tick =>
    simp only [responseFrames, handledRequest]
    by_cases arrived : s.requestLen > 0
    · rw [if_pos arrived, if_pos arrived]
      cases s.reply tick with
      | none => exact framesFor_le 3
      | some answer =>
        dsimp only
        split
        · exact framesFor_le answer.respLen
        · exact Nat.zero_le _
    · rw [if_neg arrived]
      exact Nat.zero_le _

theorem sum_responseFrames_le (record : List (Entry σ)) :
    (record.map responseFrames).sum ≤ 586 * (handledRequests record).length := by
  induction record with
  | nil => exact Nat.zero_le _
  | cons entry record ih =>
    have head := responseFrames_le entry
    have whole : handledRequests (entry :: record) = (handledRequest entry).toList ++ handledRequests record := by
      rw [handledRequests, List.filterMap_cons]
      cases handledRequest entry <;> rfl
    rw [List.map_cons, List.sum_cons, whole, List.length_append]
    omega

theorem sum_credits (cfg : IsoTpConfig) (s : UdsServer σ) (events : List ServerEvent) :
    (((udsServer σ).trace s events).map fun entry =>
        (if OpensAt cfg entry.event then 1 else 0) + responseFrames entry).sum =
      events.countP (OpensAt cfg ·) + (((udsServer σ).trace s events).map responseFrames).sum := by
  induction events generalizing s with
  | nil => rfl
  | cons event events ih =>
    have rest := ih ((udsServer σ).next s event)
    have first : ((udsServer σ).entry s event).event = event := rfl
    simp only [Machine.trace, List.map_cons, List.sum_cons, List.countP_cons, decide_eq_true_eq, first]
    omega

/-- What goes out onto the bus is bounded by what came in: a flow control frame for each message
    opened, and for each request handled the frames of its response, at most 586. -/
theorem traffic_bounded (cfg : IsoTpConfig) (rxBuf : Region Byte) (timing : TimingConfig)
    (onTimeout : Option (σ → σ)) (reqBuf respBuf : Region Byte) (state : σ) (services : List (IService σ))
    (events : List ServerEvent) :
    let record := (udsServer σ).trace (boot (.create cfg rxBuf) timing onTimeout reqBuf respBuf state services) events
    (record.flatMap Machine.Entry.output).length ≤
        events.countP (OpensAt cfg ·) + (record.map responseFrames).sum ∧
      (record.map responseFrames).sum ≤ 586 * (handledRequests record).length := by
  have transport := boot_transport (.create cfg rxBuf) timing onTimeout reqBuf respBuf state services
  generalize boot (.create cfg rxBuf) timing onTimeout reqBuf respBuf state services = start at transport ⊢
  have constant (s : UdsServer σ) (event : ServerEvent) (same : s.transport.cfg = cfg) :
      ((udsServer σ).next s event).transport.cfg = cfg := (run_transport_cfg s [event]).trans same
  have paid := (udsServer σ).run_budget (fun s => owed s.transport) (fun entry => entry.output.length)
    (fun entry => (if OpensAt cfg entry.event then 1 else 0) + responseFrames entry) constant
    (fun s event same => s.step_pays cfg same event) start events (congrArg IsoTp.cfg transport)
  have nothing : owed start.transport = 0 := by
    rw [transport]
    rfl
  rw [sum_credits, nothing, Nat.zero_add] at paid
  refine ⟨?_, sum_responseFrames_le _⟩
  rw [List.length_flatMap]
  exact Nat.le_trans (Nat.le_add_right _ _) paid

end UdsServer

end Uds
