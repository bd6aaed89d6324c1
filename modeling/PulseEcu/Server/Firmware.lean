import PulseEcu.Hal.Stm32Can
import PulseEcu.Server.UdsServer

open Foundation

namespace Uds

open Transport

/-- Where the main loop is: in `receive`, at a frame that `receive` returned, or behind the inner loop. -/
inductive Program where
  | receiving
  | handling (frame : CanFrame)
  | serving

def Program.after : RingBuffer.Shown CanFrame → Program
  | .returned frame => .handling frame
  | .empty => .serving
  | _ => .receiving

def Program.inHand : Program → List CanFrame
  | .handling frame => [frame]
  | _ => []

structure Firmware (σ : Type) where
  ring : RingBuffer.Shared CanFrame
  program : Program
  server : UdsServer σ

/-- The main loop goes on, with what the driver answers meanwhile, or the interrupt handler runs. It
    shares nothing but the ring with the main loop, so that `process_frame` and `process` are one step. -/
inductive FirmwareEvent (μ : Type) where
  | proceed (can : ICanInterface) (tick : Word)
  | interrupt (message : Option μ)

namespace Firmware

variable {σ μ : Type}

/-- `while (true) { while (can.receive(f)) isotp.process_frame(f); server.process(); }` -/
def proceed (can : ICanInterface) (tick : Word) (f : Firmware σ) : Firmware σ × List CanFrame :=
  match f.program with
  | .receiving =>
    let read := RingBuffer.read Stm32.kRxBufSize f.ring
    ({ f with ring := read.1, program := .after read.2 }, [])
  | .handling frame =>
    let handled := f.server.processFrame can frame
    ({ f with program := .receiving, server := handled.1 }, handled.2.sent)
  | .serving =>
    let served := f.server.process can tick
    ({ f with program := .receiving, server := served.1 }, served.2)

def machine (σ : Type) (make : μ → CanFrame) : Machine (Firmware σ) (FirmwareEvent μ) (List CanFrame) where
  step f
    | .proceed can tick => f.proceed can tick
    | .interrupt message =>
      ({ f with ring := (RingBuffer.machine Stm32.kRxBufSize make).next f.ring (.interrupt message) }, [])

abbrev Entry (σ μ : Type) := Machine.Entry (Firmware σ) (FirmwareEvent μ) (List CanFrame)

def boot (buf : Region CanFrame) (server : UdsServer σ) : Firmware σ := ⟨Stm32.boot buf, .receiving, server⟩

def ringEntry (make : μ → CanFrame) (entry : Entry σ μ) : Option (RingBuffer.Entry μ CanFrame) :=
  match entry.event, entry.before.program with
  | .proceed _ _, .receiving => some ((RingBuffer.machine Stm32.kRxBufSize make).entry entry.before.ring .read)
  | .proceed _ _, _ => none
  | .interrupt message, _ =>
    some ((RingBuffer.machine Stm32.kRxBufSize make).entry entry.before.ring (.interrupt message))

def serverEvent (entry : Entry σ μ) : Option ServerEvent :=
  match entry.event, entry.before.program with
  | .proceed can _, .handling frame => some (.frame can frame)
  | .proceed can tick, .serving => some (.process can tick)
  | _, _ => none

def served (past : List (Entry σ μ)) : List ServerEvent := past.filterMap serverEvent

def fed : List ServerEvent → List CanFrame
  | [] => []
  | .frame _ frame :: events => frame :: fed events
  | .process _ _ :: events => fed events

def stored (make : μ → CanFrame) (past : List (Entry σ μ)) : List CanFrame :=
  RingBuffer.stored (past.filterMap (ringEntry make))

def FindsEmpty (entry : Entry σ μ) : Prop := entry.before.program = .receiving ∧ entry.after.program = .serving

def Drops (make : μ → CanFrame) (entry : Entry σ μ) : Prop :=
  ∃ message, entry.event = .interrupt (some message) ∧
    (RingBuffer.write Stm32.kRxBufSize entry.before.ring (make message)).2 = .dropped (make message)

/-- What a run of the firmware comes to: a run of the server alone, which is given the frames that
    were stored, in their order; all of them when `receive` finds the ring empty, and none is lost unless
    15 are on their way. -/
structure Linear (make : μ → CanFrame) (start : UdsServer σ) (past : List (Entry σ μ)) (f : Firmware σ) : Prop where
  server : f.server = (udsServer σ).run start (served past)
  sent : past.flatMap Machine.Entry.output =
    ((udsServer σ).trace start (served past)).flatMap Machine.Entry.output
  inOrder : fed (served past) <+: stored make past
  caughtUp : ∀ earlier entry later, past = earlier ++ entry :: later → FindsEmpty entry →
    fed (served earlier) = stored make earlier
  dropped : ∀ earlier entry later, past = earlier ++ entry :: later → Drops make entry →
    (fed (served earlier)).length + 15 ≤ (stored make earlier).length

section

variable {make : μ → CanFrame} {start : UdsServer σ} {past : List (Entry σ μ)} {f : Firmware σ}

theorem fed_append (one other : List ServerEvent) : fed (one ++ other) = fed one ++ fed other := by
  induction one with
  | nil => rfl
  | cons event events ih =>
    cases event with
    | frame can frame => rw [List.cons_append, fed, ih, fed, List.cons_append]
    | process can tick => rw [List.cons_append, fed, ih, fed]

theorem returned_append (one other : List (RingBuffer.Entry μ CanFrame)) :
    RingBuffer.returned (one ++ other) = RingBuffer.returned one ++ RingBuffer.returned other := List.flatMap_append

structure Runs (make : μ → CanFrame) (start : UdsServer σ) (past : List (Entry σ μ)) (f : Firmware σ) : Prop where
  server : f.server = (udsServer σ).run start (served past)
  sent : past.flatMap Machine.Entry.output =
    ((udsServer σ).trace start (served past)).flatMap Machine.Entry.output
  ring : RingBuffer.Sound Stm32.kRxBufSize (past.filterMap (ringEntry make)) f.ring
  handed : RingBuffer.returned (past.filterMap (ringEntry make)) = fed (served past) ++ f.program.inHand

theorem after_inHand (shown : RingBuffer.Shown CanFrame) : (Program.after shown).inHand = shown.outward := by
  cases shown <;> rfl

theorem interrupt_outward (ring : RingBuffer.Shared CanFrame) (message : Option μ) :
    ((RingBuffer.machine Stm32.kRxBufSize make).output ring (.interrupt message)).outward = [] := by
  cases message with
  | none => rfl
  | some message =>
    show (RingBuffer.write Stm32.kRxBufSize ring (make message)).2.outward = []
    unfold RingBuffer.write
    dsimp only
    split <;> rfl

/-- A step that is a step of the ring. -/
theorem Runs.ringStep (runs : Runs make start past f) {event : FirmwareEvent μ} (move : RingBuffer.Event μ)
    (program : Program)
    (rings : ringEntry make ((machine σ make).entry f event) =
      some ((RingBuffer.machine Stm32.kRxBufSize make).entry f.ring move))
    (silent : serverEvent ((machine σ make).entry f event) = none)
    (step : (machine σ make).step f event =
      ({ f with ring := (RingBuffer.machine Stm32.kRxBufSize make).next f.ring move, program := program }, []))
    (hand : f.program.inHand ++ ((RingBuffer.machine Stm32.kRxBufSize make).output f.ring move).outward = program.inHand) :
    Runs make start (past ++ [(machine σ make).entry f event]) ((machine σ make).next f event) := by
  have after : (machine σ make).next f event =
      { f with ring := (RingBuffer.machine Stm32.kRxBufSize make).next f.ring move, program := program } :=
    congrArg Prod.fst step
  have output : (machine σ make).output f event = [] := congrArg Prod.snd step
  have events : served (past ++ [(machine σ make).entry f event]) = served past := by
    simp only [served, List.filterMap_append, List.filterMap_cons, silent, List.filterMap_nil, List.append_nil]
  have entries : (past ++ [(machine σ make).entry f event]).filterMap (ringEntry make) =
      past.filterMap (ringEntry make) ++ [(RingBuffer.machine Stm32.kRxBufSize make).entry f.ring move] := by
    simp only [List.filterMap_append, List.filterMap_cons, rings, List.filterMap_nil]
  rw [after]
  refine ⟨?_, ?_, ?_, ?_⟩
  · rw [events]
    exact runs.server
  · rw [events, List.flatMap_append, runs.sent]
    simp [Machine.entry, output]
  · rw [entries]
    exact runs.ring.next move
  · rw [entries, events, returned_append, runs.handed, List.append_assoc, ← hand]
    simp [RingBuffer.returned, Machine.entry]

/-- A step that is a call of the server. -/
theorem Runs.serverStep (runs : Runs make start past f) {event : FirmwareEvent μ} (call : ServerEvent)
    (still : ringEntry make ((machine σ make).entry f event) = none)
    (calls : serverEvent ((machine σ make).entry f event) = some call)
    (step : (machine σ make).step f event =
      ({ f with program := .receiving, server := (udsServer σ).next f.server call }, (udsServer σ).output f.server call))
    (hand : f.program.inHand = fed [call]) :
    Runs make start (past ++ [(machine σ make).entry f event]) ((machine σ make).next f event) := by
  have after : (machine σ make).next f event =
      { f with program := .receiving, server := (udsServer σ).next f.server call } := congrArg Prod.fst step
  have output : (machine σ make).output f event = (udsServer σ).output f.server call := congrArg Prod.snd step
  have events : served (past ++ [(machine σ make).entry f event]) = served past ++ [call] := by
    simp only [served, List.filterMap_append, List.filterMap_cons, calls, List.filterMap_nil]
  have entries : (past ++ [(machine σ make).entry f event]).filterMap (ringEntry make) =
      past.filterMap (ringEntry make) := by
    simp only [List.filterMap_append, List.filterMap_cons, still, List.filterMap_nil, List.append_nil]
  rw [after]
  refine ⟨?_, ?_, ?_, ?_⟩
  · rw [events, Machine.run_snoc, ← runs.server]
  · rw [events, Machine.trace_snoc, List.flatMap_append, List.flatMap_append, runs.sent, ← runs.server]
    simp [Machine.entry, output]
  · rw [entries]
    exact runs.ring
  · rw [entries, events, fed_append, runs.handed, hand]
    exact (List.append_nil _).symm

theorem Runs.next (runs : Runs make start past f) (event : FirmwareEvent μ) :
    Runs make start (past ++ [(machine σ make).entry f event]) ((machine σ make).next f event) := by
  cases event with
  | interrupt message =>
    refine runs.ringStep (.interrupt message) f.program rfl ?_ rfl ?_
    · cases program : f.program <;> rfl
    · rw [interrupt_outward, List.append_nil]
  | proceed can tick =>
    cases program : f.program with
    | receiving =>
      refine runs.ringStep .read (.after (RingBuffer.read Stm32.kRxBufSize f.ring).2) ?_ ?_ ?_ ?_
      · simp only [ringEntry, Machine.entry, program]
      · simp only [serverEvent, Machine.entry, program]
      · simp only [machine, proceed, program]
        rfl
      · rw [program, after_inHand]
        rfl
    | handling frame =>
      refine runs.serverStep (.frame can frame) ?_ ?_ ?_ (by rw [program]; rfl)
      · simp only [ringEntry, Machine.entry, program]
      · simp only [serverEvent, Machine.entry, program]
      · simp only [machine, proceed, program]
        rfl
    | serving =>
      refine runs.serverStep (.process can tick) ?_ ?_ ?_ (by rw [program]; rfl)
      · simp only [ringEntry, Machine.entry, program]
      · simp only [serverEvent, Machine.entry, program]
      · simp only [machine, proceed, program]
        rfl

theorem Runs.initial (make : μ → CanFrame) (buf : Region CanFrame) (start : UdsServer σ) :
    Runs make start [] (boot buf start) := by
  have room : 0 < Stm32.kRxBufSize := by decide
  refine ⟨rfl, rfl, ⟨⟨[], RingBuffer.empty_holds room buf, rfl, trivial⟩, ?_, ?_⟩, rfl⟩
  · intro earlier entry later split
    cases earlier <;> cases split
  · intro earlier entry later split
    cases earlier <;> cases split

theorem Runs.inOrder (runs : Runs make start past f) : fed (served past) <+: stored make past := by
  have ring := runs.ring.fifo.inOrder
  rw [runs.handed] at ring
  exact (List.prefix_append _ _).trans ring

theorem findsEmpty_shown {f : Firmware σ} {event : FirmwareEvent μ} (empty : FindsEmpty ((machine σ make).entry f event)) :
    (RingBuffer.read Stm32.kRxBufSize f.ring).2 = .empty := by
  obtain ⟨before, after⟩ := empty
  have program : f.program = .receiving := before
  cases event with
  | interrupt message =>
    have same : f.program = .serving := after
    cases program.symm.trans same
  | proceed can tick =>
    have ends : Program.after (RingBuffer.read Stm32.kRxBufSize f.ring).2 = .serving := by
      simpa only [Machine.entry, Machine.next, machine, proceed, program] using after
    cases shown : (RingBuffer.read Stm32.kRxBufSize f.ring).2 with
    | empty => rfl
    | _ =>
      rw [shown] at ends
      cases ends

theorem read_empty_held (size : Nat) (ring : RingBuffer.Shared CanFrame) (empty : (RingBuffer.read size ring).2 = .empty) :
    RingBuffer.held ring = [] := by
  cases progress : ring.progress with
  | advanced frame =>
    rw [RingBuffer.read, progress] at empty
    cases empty
  | _ => simp only [RingBuffer.held, progress]

/-- When `receive` finds nothing, the server has been given every frame that was stored. -/
theorem Runs.caughtUp (runs : Runs make start past f) {event : FirmwareEvent μ}
    (empty : FindsEmpty ((machine σ make).entry f event)) : fed (served past) = stored make past := by
  have shown := findsEmpty_shown empty
  have hand : f.program.inHand = [] := by rw [show f.program = .receiving from empty.1]; rfl
  have sound : RingBuffer.Sound Stm32.kRxBufSize _ ((RingBuffer.machine Stm32.kRxBufSize make).next f.ring .read) :=
    runs.ring.next .read
  have none : RingBuffer.waiting (past.filterMap (ringEntry make)) f.ring = [] := sound.refused _ _ [] rfl shown
  have handed := runs.handed
  rw [hand, List.append_nil] at handed
  rw [RingBuffer.waiting, List.drop_eq_nil_iff, read_empty_held _ f.ring shown, handed] at none
  exact runs.inOrder.eq_of_length_le none

/-- A frame is dropped only when 15 are on their way. -/
theorem Runs.dropped (runs : Runs make start past f) {event : FirmwareEvent μ}
    (drops : Drops make ((machine σ make).entry f event)) :
    (fed (served past)).length + 15 ≤ (stored make past).length := by
  obtain ⟨message, rfl, shown⟩ := drops
  have sound : RingBuffer.Sound Stm32.kRxBufSize _
      ((RingBuffer.machine Stm32.kRxBufSize make).next f.ring (.interrupt (some message))) :=
    runs.ring.next (.interrupt (some message))
  have full := sound.dropped _ _ [] rfl (make message) shown
  have handed := congrArg List.length runs.handed
  rw [RingBuffer.waiting, List.length_drop] at full
  have waiting : (stored make past).length - ((RingBuffer.returned (past.filterMap (ringEntry make))).length +
      (RingBuffer.held f.ring).length) = 15 := full
  rw [List.length_append] at handed
  omega

/-- Wherever the interrupts fall, a run of the main loop over the receive ring is a run of the server
    alone on the stored frames. -/
theorem interrupts_linearized (make : μ → CanFrame) (buf : Region CanFrame) (start : UdsServer σ)
    (events : List (FirmwareEvent μ)) :
    Linear make start ((machine σ make).trace (boot buf start) events) ((machine σ make).run (boot buf start) events) := by
  have all : ∀ events, Runs make start ((machine σ make).trace (boot buf start) events)
      ((machine σ make).run (boot buf start) events) := fun events =>
    (machine σ make).trace_invariant_all (fun past f event (runs : Runs make start past f) => runs.next event) _ events
      (Runs.initial make buf start)
  have runs := all events
  refine ⟨runs.server, runs.sent, runs.inOrder, ?_, ?_⟩
  · intro earlier entry later split empty
    obtain ⟨first, event, rest, _, rfl, rfl, _⟩ := (machine σ make).trace_split split
    exact (all first).caughtUp empty
  · intro earlier entry later split drops
    obtain ⟨first, event, rest, _, rfl, rfl, _⟩ := (machine σ make).trace_split split
    exact (all first).dropped drops

end

end Firmware

end Uds
