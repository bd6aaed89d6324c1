import PulseEcu.Services.DownloadSession

open Foundation

namespace Uds

namespace DownloadSession

variable {ω : Type}

def handsOff (accept : DownloadRequest → ω → (Bool × Nat) × ω) (request : DownloadRequest)
    (state : TransferDataService ω × ω) : (Bool × Nat) × (TransferDataService ω × ω) :=
  ((accept request state.2).1, (state.1, (accept request state.2).2))

def wired (target : Target) (timing : TimingConfig) (control : DiagnosticSessionControlService ω)
    (onTimeout : Option (ω → ω)) (accept : Option (DownloadRequest → ω → (Bool × Nat) × ω))
    (write : Option (Byte → Region Byte → Nat → ω → Bool × ω)) (exit : RequestTransferExitService ω) (world : ω) :
    DownloadSession ω :=
  boot target timing control onTimeout (accept.map handsOff) write exit world

def Opens (s : DownloadSession ω) : Event → Prop
  | .download r => s.dl.Opens s.target r.req r.reqLen s.session (s.td, s.world)
  | _ => False

/-- What the coupling promises of a step: the same service state on both sides, a first block
    that reaches the application once a download is taken, nothing left after an exit. -/
structure InStep (entry : Entry ω) : Prop where
  active : entry.after.td.active = entry.after.dl.active
  opened : ∀ r, entry.event = .download r →
    (entry.before.handleDownload r).message.head? = some (RequestDownloadService.serviceId + 0x40) →
    entry.after.td.callback ≠ none → ∀ block : Request, 2 ≤ block.reqLen → block.req 1 = 0x01 →
      (entry.after.handleData block).calls = [.block 0x01 (block.req.load 2 (block.reqLen - 2))]
  closed : ∀ r, entry.event = .exit r →
    (entry.before.handleExit r).message.head? = some (RequestTransferExitService.serviceId + 0x40) →
      entry.after.dl.active = false ∧ entry.after.td.active = false

structure Unstarted (s : DownloadSession ω) : Prop where
  transfer : s.td.active = false
  accept : ∀ callback, s.dl.callback = some callback → ∀ request state, (callback request state).2.1 = state.1

variable {s : DownloadSession ω}

theorem wired_unstarted (target : Target) (timing : TimingConfig) (control : DiagnosticSessionControlService ω)
    (onTimeout : Option (ω → ω)) (accept : Option (DownloadRequest → ω → (Bool × Nat) × ω))
    (write : Option (Byte → Region Byte → Nat → ω → Bool × ω)) (exit : RequestTransferExitService ω) (world : ω) :
    (wired target timing control onTimeout accept write exit world).Unstarted := by
  refine ⟨rfl, fun callback given request state => ?_⟩
  obtain ⟨own, _, rfl⟩ := Option.map_eq_some_iff.mp given
  rfl

theorem Unstarted.download (unstarted : s.Unstarted) (r : Request) : ((machine ω).next s (.download r)).Unstarted := by
  have kept : (s.handleDownload r).state.2.1 = s.td := by
    rcases s.dl.handle_world s.target r.req r.reqLen r.resp r.respLen s.session (s.td, s.world) with
      same | ⟨callback, given, asked⟩
    · exact congrArg Prod.fst same
    · exact (congrArg Prod.fst asked).trans (unstarted.accept callback given _ _)
  have callbacks : (s.handleDownload r).state.1.callback = s.dl.callback := by
    by_cases opens : s.Opens (.download r)
    · have opened := (s.dl.handle_opened s.target r.req r.reqLen r.resp r.respLen s.session (s.td, s.world) opens).2
      rw [handleDownload, opened]
    · have same := (s.dl.handle_unopened s.target r.req r.reqLen r.resp r.respLen s.session (s.td, s.world) opens).2
      rw [handleDownload, same]
  refine ⟨?_, fun callback given => unstarted.accept callback (callbacks.symm.trans given)⟩
  exact (congrArg TransferDataService.active kept).trans unstarted.transfer

theorem Unstarted.exit (unstarted : s.Unstarted) (r : Request) : ((machine ω).next s (.exit r)).Unstarted := by
  by_cases closes : s.dl.active = true ∧ s.exit.verdict r.req r.reqLen r.resp r.respLen s.world = true
  · obtain ⟨_, download, transfer⟩ := s.exit.handle_closed r.req r.reqLen r.resp r.respLen s.session s.dl s.td s.world
      closes.1 closes.2
    exact ⟨congrArg TransferDataService.active transfer, fun callback given => unstarted.accept callback
      ((congrArg RequestDownloadService.callback download).symm.trans given)⟩
  · obtain ⟨_, download, transfer⟩ := s.exit.handle_unclosed r.req r.reqLen r.resp r.respLen s.session s.dl s.td s.world
      closes
    exact ⟨(congrArg TransferDataService.active transfer).trans unstarted.transfer, fun callback given =>
      unstarted.accept callback ((congrArg RequestDownloadService.callback download).symm.trans given)⟩

theorem Unstarted.next (unstarted : s.Unstarted) (event : Event) : ((machine ω).next s event).Unstarted := by
  cases event with
  | download r => exact unstarted.download r
  | data r =>
    have same := (s.td.handle_active r.req r.reqLen r.resp r.respLen s.session s.world).1
    exact ⟨same.trans unstarted.transfer, unstarted.accept⟩
  | exit r => exact unstarted.exit r
  | control r => exact ⟨unstarted.transfer, unstarted.accept⟩
  | sessionUpdate tickMs => exact ⟨unstarted.transfer, unstarted.accept⟩
  | keepAlive tickMs => exact ⟨unstarted.transfer, unstarted.accept⟩
  | reset => exact ⟨unstarted.transfer, unstarted.accept⟩

theorem opened_active (r : Request) (opens : s.Opens (.download r)) :
    ((machine ω).next s (.download r)).dl.active = true :=
  congrArg RequestDownloadService.active
    (s.dl.handle_opened s.target r.req r.reqLen r.resp r.respLen s.session (s.td, s.world) opens).2

theorem unopened_inactive (idle : s.dl.active = false) (event : Event) (closed : ¬ s.Opens event) :
    ((machine ω).next s event).dl.active = false := by
  cases event with
  | download r =>
    have same := (s.dl.handle_unopened s.target r.req r.reqLen r.resp r.respLen s.session (s.td, s.world) closed).2
    exact (congrArg RequestDownloadService.active same).trans idle
  | exit r =>
    rcases s.exit.handle_active r.req r.reqLen r.resp r.respLen s.session (s.dl, s.td, s.world) with ended | same
    · exact ended.1
    · exact (congrArg RequestDownloadService.active same.1).trans idle
  | data r => exact idle
  | control r => exact idle
  | sessionUpdate tickMs => exact idle
  | keepAlive tickMs => exact idle
  | reset => exact idle

theorem InStep.of_unopened (unstarted : s.Unstarted) (idle : s.dl.active = false) (event : Event)
    (closed : ¬ s.Opens event) : InStep ((machine ω).entry s event) := by
  have transfer := (unstarted.next event).transfer
  have download := unopened_inactive idle event closed
  refine ⟨transfer.trans download.symm, fun r same positive => ?_, fun r _ _ => ⟨download, transfer⟩⟩
  have same : event = .download r := same
  rw [same] at closed
  exact absurd ((s.dl.handle_positive_iff s.target r.req r.reqLen r.resp r.respLen s.session (s.td, s.world)).mp positive)
    closed

/-- The services are in step in exactly the runs that take no download: the first one taken
    leaves TransferData behind. -/
theorem services_in_step_iff (target : Target) (timing : TimingConfig) (control : DiagnosticSessionControlService ω)
    (onTimeout : Option (ω → ω)) (accept : Option (DownloadRequest → ω → (Bool × Nat) × ω))
    (write : Option (Byte → Region Byte → Nat → ω → Bool × ω)) (exit : RequestTransferExitService ω) (world : ω)
    (events : List Event) :
    (∀ entry ∈ (machine ω).trace (wired target timing control onTimeout accept write exit world) events, InStep entry) ↔
      ∀ entry ∈ (machine ω).trace (wired target timing control onTimeout accept write exit world) events,
        ¬ Opens entry.before entry.event := by
  have initial := wired_unstarted target timing control onTimeout accept write exit world
  have kept : ∀ s event, Unstarted s → Unstarted ((machine ω).next s event) := fun s event fresh => fresh.next event
  constructor
  · intro inStep entry member opens
    obtain ⟨past, later, split⟩ := List.append_of_mem member
    obtain ⟨first, event, rest, _, _, rfl, _⟩ := (machine ω).trace_split split
    have unstarted := (machine ω).run_invariant_all kept _ first initial
    have same := (inStep _ member).active
    cases event with
    | download r =>
      have running := opened_active r opens
      have still := (unstarted.next (.download r)).transfer
      exact Bool.noConfusion (running.symm.trans (same.symm.trans still))
    | _ => exact opens
  · intro closed
    have whole := (machine ω).trace_invariant
      (fun past s event (good : (∀ entry ∈ past, InStep entry) ∧ Unstarted s ∧ s.dl.active = false)
          (closed : ¬ s.Opens event) =>
        ⟨Machine.forall_mem_snoc good.1 (.of_unopened good.2.1 good.2.2 event closed), good.2.1.next event,
          unopened_inactive good.2.2 event closed⟩)
      _ events ⟨List.forall_mem_nil _, initial, rfl⟩ closed
    exact whole.1

def receiving : DownloadSession Unit :=
  wired .cortexM kDefaultTiming ⟨none⟩ none (some fun _ state => ((true, 0x100), state))
    (some fun _ _ _ _ => (true, ())) ⟨none⟩ ()

theorem services_out_of_step :
    ¬ ∀ entry ∈ (machine Unit).trace receiving
        [.control (request [0x10, 0x02]), .download (request [0x34, 0x00, 0x11, 0x20, 0x10])], InStep entry := by
  intro inStep
  have positive : (((machine Unit).next receiving (.control (request [0x10, 0x02]))).handleDownload
      (request [0x34, 0x00, 0x11, 0x20, 0x10])).message.head? = some (RequestDownloadService.serviceId + 0x40) := by
    decide
  have taken := inStep _ (List.mem_cons_of_mem _ List.mem_cons_self)
  have reached := taken.opened _ rfl positive (by decide) (request [0x36, 0x01, 0xAA]) (by decide) rfl
  exact absurd reached (by decide)

end DownloadSession

end Uds
