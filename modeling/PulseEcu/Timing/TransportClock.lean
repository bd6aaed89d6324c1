import PulseEcu.Foundation.Clock
import PulseEcu.Transport.FlowControl
import PulseEcu.Transport.Reassembly

open Foundation

namespace Uds.Transport

def ICanInterface.shift (c : Word) (can : ICanInterface) : ICanInterface := { can with getTickMs := can.getTickMs + c }

def Event.shift (c : Word) : Event → Event
  | frame can mem received => .frame (can.shift c) mem received
  | update now => .update (now + c)
  | send can mem data length => .send (can.shift c) mem data length
  | getData given maxLen => .getData given maxLen

namespace IsoTp

def timeless (s : IsoTp) : IsoTp := { s with rxDeadline := 0, txDeadline := 0 }

/-- The N_Cr deadline of a reception and the N_Bs deadline of a transmission are compared on their laps,
    also where they came to 0. -/
def Steady (s : IsoTp) : Event → Prop
  | .update now => (s.rxState = .receiving → Timely s.cfg.nCrMs s.rxDeadline now) ∧
      (s.txState = .waitFc → Timely s.cfg.nBsMs s.txDeadline now)
  | _ => True

def dated (s : IsoTp) (rx tx : Word) : IsoTp := { s with rxDeadline := rx, txDeadline := tx }

structure Dated (c : Word) (s : IsoTp) (rx tx : Word) : Prop where
  rx : s.rxState = .receiving → rx = s.rxDeadline + c
  tx : s.txState = .waitFc → tx = s.txDeadline + c

def Later (c : Word) (s s' : IsoTp) : Prop := ∃ rx tx, s' = s.dated rx tx ∧ Dated c s rx tx

def Kept (c : Word) (outcome outcome' : Outcome) : Prop :=
  ∃ rx tx, outcome' = { outcome with state := outcome.state.dated rx tx } ∧ Dated c outcome.state rx tx

variable {c rx tx : Word} {s : IsoTp} {can : ICanInterface} {mem : Memory} {frame : CanFrame}

theorem Kept.unchanged (dates : Dated c s rx tx) (result : IsoTpResult) (sent : List CanFrame) :
    Kept c ⟨result, s, sent⟩ ⟨result, s.dated rx tx, sent⟩ := ⟨rx, tx, rfl, dates⟩

theorem handleSf_kept (dates : Dated c s rx tx) : Kept c (s.handleSf frame) ((s.dated rx tx).handleSf frame) := by
  refine ⟨rx, tx, ?_, ?_⟩
  · simp only [handleSf]
    repeat' split
    all_goals rfl
  · simp only [handleSf]
    repeat' split
    · exact dates
    · exact dates
    · refine ⟨?_, dates.tx⟩
      intro receiving
      cases receiving

theorem handleFf_kept (dates : Dated c s rx tx) :
    Kept c (s.handleFf can frame) ((s.dated rx tx).handleFf (can.shift c) frame) := by
  unfold handleFf
  by_cases short : frame.dlc < 8
  · rw [if_pos short, if_pos short]
    exact .unchanged dates .error []
  · rw [if_neg short, if_neg short]
    dsimp only
    by_cases small : (ffLength frame).toNat < 8
    · rw [if_pos small, if_pos small]
      exact .unchanged dates .error []
    · rw [if_neg small, if_neg small]
      by_cases long : (ffLength frame).toNat > maxPayload
      · rw [if_pos long, if_pos long]
        exact .unchanged dates .overflow _
      · rw [if_neg long, if_neg long]
        refine ⟨can.getTickMs + c + s.cfg.nCrMs, tx, rfl, ?_, dates.tx⟩
        intro _
        exact (add_right_swap can.getTickMs s.cfg.nCrMs c).symm

theorem handleCf_kept (dates : Dated c s rx tx) :
    Kept c (s.handleCf can frame) ((s.dated rx tx).handleCf (can.shift c) frame) := by
  unfold handleCf
  by_cases receiving : s.rxState = .receiving
  · have receiving' : (s.dated rx tx).rxState = .receiving := receiving
    rw [if_neg (not_not_intro receiving), if_neg (not_not_intro receiving')]
    by_cases sn : frame.data 0 &&& 0x0F = s.rxSn
    · have sn' : frame.data 0 &&& 0x0F = (s.dated rx tx).rxSn := sn
      rw [if_neg (not_not_intro sn), if_neg (not_not_intro sn')]
      dsimp only
      by_cases long : s.rxReceived + cfCopyLen (s.rxExpected - s.rxReceived) frame > maxPayload
      · have long' : (s.dated rx tx).rxReceived +
          cfCopyLen ((s.dated rx tx).rxExpected - (s.dated rx tx).rxReceived) frame > maxPayload := long
        rw [if_pos long, if_pos long']
        exact ⟨rx, tx, rfl, dates.rx, dates.tx⟩
      · have long' : ¬ (s.dated rx tx).rxReceived +
          cfCopyLen ((s.dated rx tx).rxExpected - (s.dated rx tx).rxReceived) frame > maxPayload := long
        rw [if_neg long, if_neg long']
        by_cases last : s.rxReceived + cfCopyLen (s.rxExpected - s.rxReceived) frame ≥ s.rxExpected
        · have last' : (s.dated rx tx).rxReceived +
            cfCopyLen ((s.dated rx tx).rxExpected - (s.dated rx tx).rxReceived) frame ≥ (s.dated rx tx).rxExpected := last
          rw [if_pos last, if_pos last']
          exact ⟨can.getTickMs + c + s.cfg.nCrMs, tx, rfl, fun receiving => (nomatch receiving), dates.tx⟩
        · have last' : ¬ (s.dated rx tx).rxReceived +
            cfCopyLen ((s.dated rx tx).rxExpected - (s.dated rx tx).rxReceived) frame ≥ (s.dated rx tx).rxExpected := last
          rw [if_neg last, if_neg last']
          refine ⟨can.getTickMs + c + s.cfg.nCrMs, tx, rfl, ?_, dates.tx⟩
          intro _
          exact (add_right_swap can.getTickMs s.cfg.nCrMs c).symm
    · have sn' : ¬ frame.data 0 &&& 0x0F = (s.dated rx tx).rxSn := sn
      rw [if_pos sn, if_pos sn']
      exact .unchanged dates .wrongSn []
  · have receiving' : ¬ (s.dated rx tx).rxState = .receiving := receiving
    rw [if_pos receiving, if_pos receiving']
    exact .unchanged dates .error []

theorem sendNextCfLoop_kept (rounds : Nat) (sent : List CanFrame) (dates : Dated c s rx tx) :
    Kept c (sendNextCfLoop can mem rounds s sent)
      (sendNextCfLoop (can.shift c) mem rounds (s.dated rx tx) sent) := by
  have finished : ∀ {s : IsoTp} {sent : List CanFrame}, Dated c s rx tx →
      Kept c ⟨.ok, { s with txState := .idle }, sent⟩ ⟨.ok, { s.dated rx tx with txState := .idle }, sent⟩ :=
    fun dates => ⟨rx, tx, rfl, dates.rx, fun waiting => nomatch waiting⟩
  induction rounds generalizing s sent with
  | zero => exact finished dates
  | succ rounds ih =>
    unfold sendNextCfLoop
    by_cases left : s.txOffset < s.txTotal
    · have left' : (s.dated rx tx).txOffset < (s.dated rx tx).txTotal := left
      rw [if_pos left, if_pos left']
      by_cases full : s.txBsRem ≠ 0 ∧ s.txBsCount ≥ s.txBsRem
      · have full' : (s.dated rx tx).txBsRem ≠ 0 ∧ (s.dated rx tx).txBsCount ≥ (s.dated rx tx).txBsRem := full
        rw [if_pos full, if_pos full']
        refine ⟨rx, can.getTickMs + c + s.cfg.nBsMs, rfl, dates.rx, ?_⟩
        intro _
        exact (add_right_swap can.getTickMs s.cfg.nBsMs c).symm
      · have full' : ¬ ((s.dated rx tx).txBsRem ≠ 0 ∧ (s.dated rx tx).txBsCount ≥ (s.dated rx tx).txBsRem) := full
        rw [if_neg full, if_neg full']
        by_cases taken : can.send sent.length = true
        · have taken' : (can.shift c).send sent.length = true := taken
          rw [if_pos taken, if_pos taken']
          exact ih (sent ++ [s.cfFrame mem]) ⟨dates.rx, dates.tx⟩
        · have taken' : ¬ (can.shift c).send sent.length = true := taken
          rw [if_neg taken, if_neg taken']
          exact ⟨rx, tx, rfl, dates⟩
    · have left' : ¬ (s.dated rx tx).txOffset < (s.dated rx tx).txTotal := left
      rw [if_neg left, if_neg left']
      exact finished dates

theorem handleFc_kept (dates : Dated c s rx tx) :
    Kept c (s.handleFc can mem frame) ((s.dated rx tx).handleFc (can.shift c) mem frame) := by
  by_cases waiting : s.txState = .waitFc
  · have waiting' : (s.dated rx tx).txState = .waitFc := waiting
    unfold handleFc
    rw [if_neg (not_not_intro waiting), if_neg (not_not_intro waiting')]
    by_cases short : frame.dlc < 3
    · rw [if_pos short, if_pos short]
      exact .unchanged dates .error []
    · rw [if_neg short, if_neg short]
      dsimp only
      by_cases overflow : frame.data 0 &&& 0x0F = kFcOvfl
      · rw [if_pos overflow, if_pos overflow]
        exact .unchanged dates .overflow []
      · rw [if_neg overflow, if_neg overflow]
        by_cases wait : frame.data 0 &&& 0x0F = kFcWait
        · rw [if_pos wait, if_pos wait]
          refine ⟨rx, can.getTickMs + c + s.cfg.nBsMs, rfl, dates.rx, ?_⟩
          intro _
          exact (add_right_swap can.getTickMs s.cfg.nBsMs c).symm
        · rw [if_neg wait, if_neg wait]
          by_cases cts : frame.data 0 &&& 0x0F = kFcCts
          · rw [if_neg (not_not_intro cts), if_neg (not_not_intro cts)]
            exact sendNextCfLoop_kept (s.txTotal - s.txOffset) [] ⟨dates.rx, fun waiting => nomatch waiting⟩
          · rw [if_pos cts, if_pos cts]
            exact .unchanged dates .error []
  · rw [handleFc_refused can waiting, @handleFc_refused (s.dated rx tx) mem frame (can.shift c) waiting]
    exact .unchanged dates .error []

theorem processFrame_kept (dates : Dated c s rx tx) :
    Kept c (s.processFrame can mem frame) ((s.dated rx tx).processFrame (can.shift c) mem frame) := by
  by_cases rejected : Rejected s.cfg frame
  · have rejected' : Rejected (s.dated rx tx).cfg frame := rejected
    rw [rejected_ignored can mem rejected, rejected_ignored (can.shift c) mem rejected']
    exact .unchanged dates .error []
  · rcases not_rejected rejected with ⟨id, nonempty, single | first | consecutive | flowControl⟩
    · rw [processFrame_single can mem s frame id nonempty single,
        processFrame_single (can.shift c) mem (s.dated rx tx) frame id nonempty single]
      exact handleSf_kept dates
    · rw [processFrame_first can mem s frame id nonempty first,
        processFrame_first (can.shift c) mem (s.dated rx tx) frame id nonempty first]
      exact handleFf_kept dates
    · rw [processFrame_consecutive can mem s frame id nonempty consecutive,
        processFrame_consecutive (can.shift c) mem (s.dated rx tx) frame id nonempty consecutive]
      exact handleCf_kept dates
    · rw [processFrame_flowControl can mem s frame id nonempty flowControl,
        processFrame_flowControl (can.shift c) mem (s.dated rx tx) frame id nonempty flowControl]
      exact handleFc_kept dates

theorem send_kept (data : Option Pointer) (length : Nat) (dates : Dated c s rx tx) :
    Kept c (s.send can mem data length) ((s.dated rx tx).send (can.shift c) mem data length) := by
  cases data with
  | none => exact .unchanged dates .error []
  | some data =>
    unfold send
    dsimp only
    by_cases refused : length = 0 ∨ length > maxPayload
    · rw [if_pos refused, if_pos refused]
      exact .unchanged dates .error []
    · rw [if_neg refused, if_neg refused]
      by_cases short : length ≤ 7
      · rw [if_pos short, if_pos short]
        exact ⟨rx, tx, rfl, dates⟩
      · rw [if_neg short, if_neg short]
        by_cases taken : can.send 0 = true
        · have taken' : (can.shift c).send 0 = true := taken
          rw [if_pos taken, if_pos taken']
          refine ⟨rx, can.getTickMs + c + s.cfg.nBsMs, rfl, dates.rx, ?_⟩
          intro _
          exact (add_right_swap can.getTickMs s.cfg.nBsMs c).symm
        · have taken' : ¬ (can.shift c).send 0 = true := taken
          rw [if_neg taken, if_neg taken']
          exact ⟨rx, tx, rfl, dates⟩

theorem getData_kept (given : Bool) (maxLen : Nat) (dates : Dated c s rx tx) :
    (s.dated rx tx).getData given maxLen = ((s.getData given maxLen).1, (s.getData given maxLen).2.dated rx tx) ∧
      Dated c (s.getData given maxLen).2 rx tx := by
  by_cases empty : s.dataReady = false ∨ given = false
  · have empty' : (s.dated rx tx).dataReady = false ∨ given = false := empty
    rw [getData, getData, if_pos empty, if_pos empty']
    exact ⟨rfl, dates⟩
  · have empty' : ¬ ((s.dated rx tx).dataReady = false ∨ given = false) := empty
    rw [getData, getData, if_neg empty, if_neg empty']
    exact ⟨rfl, dates.rx, dates.tx⟩

theorem updateRx_kept (now : Word) (dates : Dated c s rx tx)
    (first : s.rxState = .receiving → Timely s.cfg.nCrMs s.rxDeadline now)
    (second : s.rxState = .receiving → Timely s.cfg.nCrMs rx (now + c)) :
    Later c (s.updateRx now) ((s.dated rx tx).updateRx (now + c)) := by
  by_cases receiving : s.rxState = .receiving
  · have receiving' : (s.dated rx tx).rxState = .receiving := receiving
    have second := second receiving
    rw [dates.rx receiving] at second
    have same := (first receiving).over_shift second
    rw [← dates.rx receiving, ← pos_iff_ne_zero, ← pos_iff_ne_zero] at same
    rw [updateRx, updateRx]
    by_cases expired : s.rxDeadline > 0 ∧ now ≥ s.rxDeadline
    · rw [if_pos ⟨receiving, expired⟩, if_pos ⟨receiving', same.mpr expired⟩]
      refine ⟨0, tx, rfl, ?_, dates.tx⟩
      intro receiving
      cases receiving
    · rw [if_neg fun late => expired late.2, if_neg fun late => expired (same.mp late.2)]
      exact ⟨rx, tx, rfl, dates⟩
  · have receiving' : ¬ (s.dated rx tx).rxState = .receiving := receiving
    rw [updateRx, updateRx, if_neg fun late => receiving late.1, if_neg fun late => receiving' late.1]
    exact ⟨rx, tx, rfl, dates⟩

theorem updateTx_kept (now : Word) (dates : Dated c s rx tx)
    (first : s.txState = .waitFc → Timely s.cfg.nBsMs s.txDeadline now)
    (second : s.txState = .waitFc → Timely s.cfg.nBsMs tx (now + c)) :
    Later c (s.updateTx now) ((s.dated rx tx).updateTx (now + c)) := by
  by_cases waiting : s.txState = .waitFc
  · have waiting' : (s.dated rx tx).txState = .waitFc := waiting
    have second := second waiting
    rw [dates.tx waiting] at second
    have same := (first waiting).over_shift second
    rw [← dates.tx waiting, ← pos_iff_ne_zero, ← pos_iff_ne_zero] at same
    rw [updateTx, updateTx]
    by_cases expired : s.txDeadline > 0 ∧ now ≥ s.txDeadline
    · rw [if_pos ⟨waiting, expired⟩, if_pos ⟨waiting', same.mpr expired⟩]
      refine ⟨rx, tx, rfl, dates.rx, ?_⟩
      intro waiting
      cases waiting
    · rw [if_neg fun late => expired late.2, if_neg fun late => expired (same.mp late.2)]
      exact ⟨rx, tx, rfl, dates⟩
  · have waiting' : ¬ (s.dated rx tx).txState = .waitFc := waiting
    rw [updateTx, updateTx, if_neg fun late => waiting late.1, if_neg fun late => waiting' late.1]
    exact ⟨rx, tx, rfl, dates⟩

theorem update_kept (now : Word) (dates : Dated c s rx tx) (first : Steady s (.update now))
    (second : Steady (s.dated rx tx) (.update (now + c))) :
    Later c (s.update now) ((s.dated rx tx).update (now + c)) := by
  obtain ⟨rx', tx', same, left⟩ := updateRx_kept now dates first.1 second.1
  have kept := updateRx_tx now s
  have kept' := updateRx_tx (now + c) (s.dated rx tx)
  rw [same] at kept'
  have state : (s.updateRx now).txState = s.txState := congrArg TxView.state kept
  have deadline : (s.updateRx now).txDeadline = s.txDeadline := congrArg TxView.deadline kept
  have config : (s.updateRx now).cfg = s.cfg := by
    unfold updateRx
    split
    · rfl
    · rfl
  rw [update, update, same]
  apply updateTx_kept now left
  · rw [state, deadline, config]
    exact first.2
  · have due : tx' = tx := congrArg TxView.deadline kept'
    rw [state, config, due]
    exact second.2

theorem Kept.reply {outcome outcome' : Outcome} (kept : Kept c outcome outcome') :
    outcome.reply.2 = outcome'.reply.2 ∧ Later c outcome.reply.1 outcome'.reply.1 := by
  obtain ⟨rx, tx, rfl, dates⟩ := kept
  exact ⟨rfl, rx, tx, rfl, dates⟩

theorem Later.step {s' : IsoTp} (related : Later c s s') (event : Event) (first : Steady s event)
    (second : Steady s' (event.shift c)) :
    isoTp.output s event = isoTp.output s' (event.shift c) ∧
      Later c (isoTp.next s event) (isoTp.next s' (event.shift c)) := by
  obtain ⟨rx, tx, rfl, dates⟩ := related
  cases event with
  | frame can mem frame => exact (processFrame_kept dates).reply
  | update now => exact ⟨rfl, update_kept now dates first second⟩
  | send can mem data length => exact (send_kept data length dates).reply
  | getData given maxLen =>
    obtain ⟨same, left⟩ := getData_kept given maxLen dates
    constructor
    · show Output.data (s.getData given maxLen).1 = .data ((s.dated rx tx).getData given maxLen).1
      rw [same]
    · exact ⟨rx, tx, congrArg Prod.snd same, left⟩

theorem translates (cfg : IsoTpConfig) (rxBuf : Region Byte) (c : Word) (events : List Event)
    (steady : isoTp.AllSteps Steady (create cfg rxBuf) events)
    (steady' : isoTp.AllSteps Steady (create cfg rxBuf) (events.map (Event.shift c))) :
    isoTp.Translates Event.shift timeless (create cfg rxBuf) c events := by
  have initial : Later c (create cfg rxBuf) (create cfg rxBuf) :=
    ⟨0, 0, rfl, fun receiving => (nomatch receiving), fun waiting => nomatch waiting⟩
  have runs := isoTp.related_runs (fun _ _ event related first second => Later.step related event first second) _ _
    events initial steady steady'
  refine ⟨runs.1, ?_⟩
  obtain ⟨rx, tx, same, _⟩ := runs.2
  rw [same]
  rfl

end IsoTp

end Uds.Transport
