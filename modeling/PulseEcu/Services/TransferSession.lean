import PulseEcu.Services.DownloadCoupling
import PulseEcu.Services.MemoryServices

open Foundation

namespace Uds

structure TransferSession (ω : Type) where
  downloads : DownloadSession ω
  ul : RequestUploadService ω

namespace TransferSession

variable {ω : Type}

abbrev Request := DownloadSession.Request

inductive Event where
  | transfer (event : DownloadSession.Event)
  | upload (request : Request)

def handleUpload (s : TransferSession ω) (r : Request) : Handled UploadCall (RequestUploadService ω × ω) :=
  s.ul.handle s.downloads.target r.req r.reqLen r.resp r.respLen s.downloads.session s.downloads.world

def machine (ω : Type) : Machine (TransferSession ω) Event (List TransferCall × List UploadCall) where
  step s
    | .transfer event =>
      ({ s with downloads := (DownloadSession.machine ω).next s.downloads event },
        (DownloadSession.machine ω).output s.downloads event, [])
    | .upload r =>
      let handled := s.handleUpload r
      (⟨{ s.downloads with world := handled.state.2 }, handled.state.1⟩, [], handled.calls)

abbrev Entry (ω : Type) := Machine.Entry (TransferSession ω) Event (List TransferCall × List UploadCall)

def Downloading (s : TransferSession ω) : Prop := s.downloads.dl.active = true

def Uploading (s : TransferSession ω) : Prop := s.ul.active = true

def Opens (s : TransferSession ω) : Event → Prop
  | .transfer event => s.downloads.Opens event
  | .upload r => s.ul.Opens s.downloads.target r.req r.reqLen s.downloads.world

def Overlaps (s : TransferSession ω) : Event → Prop
  | .transfer event => s.downloads.Opens event ∧ s.Uploading
  | .upload r => s.ul.Opens s.downloads.target r.req r.reqLen s.downloads.world ∧ s.Downloading

def Exits (entry : Entry ω) : Prop :=
  ∃ r, entry.event = .transfer (.exit r) ∧ (entry.before.downloads.handleExit r).message.head? =
    some (RequestTransferExitService.serviceId + 0x40)

structure Renewed (s : TransferSession ω) : Prop where
  download : ∀ r : Request, s.downloads.Programming → RequestDownloadService.WellFormed r.req r.reqLen →
    s.downloads.Accepts r →
      (s.downloads.handleDownload r).message.head? = some (RequestDownloadService.serviceId + 0x40)
  upload : ∀ r : Request, RequestUploadService.WellFormed r.req r.reqLen →
    s.ul.verdict s.downloads.target r.req s.downloads.world = true →
      (s.handleUpload r).message.head? = some (RequestUploadService.serviceId + 0x40)

/-- At most one of the two is active, an accepted exit ends it, and until one is opened again
    the way is free for either. -/
structure Closed (past : List (Entry ω)) (s : TransferSession ω) : Prop where
  exclusive : ¬ (s.Downloading ∧ s.Uploading)
  ended : ∀ entry ∈ past, Exits entry → ¬ entry.after.Downloading ∧ ¬ entry.after.Uploading
  renewed : ∀ earlier entry later, past = earlier ++ entry :: later → Exits entry →
    (∀ other ∈ later, ¬ Opens other.before other.event) → s.Renewed

structure Separate (past : List (Entry ω)) (s : TransferSession ω) : Prop where
  exclusive : ¬ (s.Downloading ∧ s.Uploading)
  ended : ∀ entry ∈ past, Exits entry → ¬ entry.after.Downloading ∧ ¬ entry.after.Uploading
  idle : ∀ earlier entry later, past = earlier ++ entry :: later → Exits entry →
    (∀ other ∈ later, ¬ Opens other.before other.event) → ¬ s.Downloading ∧ ¬ s.Uploading

variable {past : List (Entry ω)} {s : TransferSession ω}

theorem renewed_of_idle (download : ¬ s.Downloading) (upload : ¬ s.Uploading) : s.Renewed := by
  have download : s.downloads.dl.active = false := Bool.eq_false_iff.mpr download
  have upload : s.ul.active = false := Bool.eq_false_iff.mpr upload
  refine ⟨fun r programming wellFormed accepts => ?_, fun r wellFormed accepts => ?_⟩
  · obtain ⟨callback, given, takes⟩ := accepts
    exact RequestDownloadService.handle_accepted _ _ _ _ _ _ _ _ wellFormed programming download given takes
  · exact (s.ul.handle_opened s.downloads.target r.req r.reqLen r.resp r.respLen s.downloads.session s.downloads.world
      ⟨wellFormed, upload, accepts⟩).1

theorem Separate.closed (separate : Separate past s) : Closed past s := by
  refine ⟨separate.exclusive, separate.ended, fun earlier entry later split exits none => ?_⟩
  obtain ⟨download, upload⟩ := separate.idle earlier entry later split exits none
  exact renewed_of_idle download upload

theorem unopened_idle (event : Event) (unopened : ¬ s.Opens event) :
    (¬ s.Downloading → ¬ ((machine ω).next s event).Downloading) ∧
      (¬ s.Uploading → ¬ ((machine ω).next s event).Uploading) := by
  cases event with
  | transfer event =>
    refine ⟨fun idle => ?_, id⟩
    have inactive := DownloadSession.unopened_inactive (Bool.eq_false_iff.mpr idle) event unopened
    exact Bool.eq_false_iff.mp inactive
  | upload r =>
    refine ⟨id, fun idle active => idle ?_⟩
    have same := (s.ul.handle_unopened s.downloads.target r.req r.reqLen r.resp r.respLen s.downloads.session
      s.downloads.world unopened).2
    exact (congrArg RequestUploadService.active same).symm.trans active

theorem next_exclusive (exclusive : ¬ (s.Downloading ∧ s.Uploading)) (event : Event) (apart : ¬ s.Overlaps event) :
    ¬ (((machine ω).next s event).Downloading ∧ ((machine ω).next s event).Uploading) := by
  intro both
  obtain ⟨download, upload⟩ := both
  cases event with
  | transfer event =>
    have upload : s.Uploading := upload
    have unopened : ¬ s.downloads.Opens event := fun opens => apart ⟨opens, upload⟩
    have idle : ¬ s.Downloading := fun active => exclusive ⟨active, upload⟩
    exact (unopened_idle (.transfer event) unopened).1 idle download
  | upload r =>
    have download : s.Downloading := download
    have unopened : ¬ s.Opens (.upload r) := fun opens => apart ⟨opens, download⟩
    have idle : ¬ s.Uploading := fun active => exclusive ⟨download, active⟩
    exact (unopened_idle (.upload r) unopened).2 idle upload

theorem exits_idle (exclusive : ¬ (s.Downloading ∧ s.Uploading)) (event : Event)
    (exits : Exits ((machine ω).entry s event)) :
    ¬ ((machine ω).next s event).Downloading ∧ ¬ ((machine ω).next s event).Uploading := by
  obtain ⟨r, same, positive⟩ := exits
  have same : event = .transfer (.exit r) := same
  subst same
  obtain ⟨running, ends⟩ := (s.downloads.exit.handle_positive_iff r.req r.reqLen r.resp r.respLen s.downloads.session
    s.downloads.dl s.downloads.td s.downloads.world).mp positive
  have ended := (s.downloads.exit.handle_closed r.req r.reqLen r.resp r.respLen s.downloads.session s.downloads.dl
    s.downloads.td s.downloads.world running ends).2.1
  refine ⟨fun active => ?_, fun upload => exclusive ⟨running, upload⟩⟩
  have inactive := congrArg RequestDownloadService.active ended
  exact Bool.noConfusion (inactive.symm.trans active)

theorem Separate.next (separate : Separate past s) (event : Event) (apart : ¬ s.Overlaps event) :
    Separate (past ++ [(machine ω).entry s event]) ((machine ω).next s event) := by
  have ended := exits_idle separate.exclusive event
  refine ⟨next_exclusive separate.exclusive event apart, Machine.forall_mem_snoc separate.ended ended,
    fun earlier source later split exits none => ?_⟩
  rcases Machine.split_snoc split with ⟨_, rfl, _⟩ | ⟨rest, rfl, joined⟩
  · exact ended exits
  · obtain ⟨download, upload⟩ := separate.idle earlier source rest joined exits fun other member =>
      none other (List.mem_append_left _ member)
    have unopened := none _ (List.mem_append_right rest List.mem_cons_self)
    have stays := unopened_idle event unopened
    exact ⟨stays.1 download, stays.2 upload⟩

theorem overlaps_both (event : Event) (overlaps : s.Overlaps event) :
    ((machine ω).next s event).Downloading ∧ ((machine ω).next s event).Uploading := by
  cases event with
  | transfer event =>
    obtain ⟨opens, upload⟩ := overlaps
    refine ⟨?_, upload⟩
    cases event with
    | download r => exact DownloadSession.opened_active r opens
    | _ => exact absurd opens id
  | upload r =>
    obtain ⟨opens, download⟩ := overlaps
    exact ⟨download, congrArg RequestUploadService.active (s.ul.handle_opened s.downloads.target r.req r.reqLen r.resp
      r.respLen s.downloads.session s.downloads.world opens).2⟩

def boot (target : Target) (timing : TimingConfig) (control : DiagnosticSessionControlService ω)
    (onTimeout : Option (ω → ω))
    (accept : Option (DownloadRequest → TransferDataService ω × ω → (Bool × Nat) × (TransferDataService ω × ω)))
    (write : Option (Byte → Region Byte → Nat → ω → Bool × ω)) (exit : RequestTransferExitService ω)
    (upload : Option (UploadRequest → ω → (Bool × Nat) × ω)) (world : ω) : TransferSession ω :=
  ⟨.boot target timing control onTimeout accept write exit world, .create upload⟩

/-- Downloads and uploads exclude each other, and end, in exactly the runs in which none is opened
    while the other one is active. -/
theorem transfers_closed_iff (target : Target) (timing : TimingConfig) (control : DiagnosticSessionControlService ω)
    (onTimeout : Option (ω → ω))
    (accept : Option (DownloadRequest → TransferDataService ω × ω → (Bool × Nat) × (TransferDataService ω × ω)))
    (write : Option (Byte → Region Byte → Nat → ω → Bool × ω)) (exit : RequestTransferExitService ω)
    (upload : Option (UploadRequest → ω → (Bool × Nat) × ω)) (world : ω) (events : List Event) :
    (∀ first rest, events = first ++ rest →
      Closed ((machine ω).trace (boot target timing control onTimeout accept write exit upload world) first)
        ((machine ω).run (boot target timing control onTimeout accept write exit upload world) first)) ↔
    ∀ entry ∈ (machine ω).trace (boot target timing control onTimeout accept write exit upload world) events,
      ¬ Overlaps entry.before entry.event := by
  constructor
  · intro closed entry member overlaps
    obtain ⟨past, later, split⟩ := List.append_of_mem member
    obtain ⟨first, event, rest, joined, _, rfl, _⟩ := (machine ω).trace_split split
    have reached := closed (first ++ [event]) rest (by rw [joined]; simp)
    rw [Machine.run_snoc] at reached
    exact reached.exclusive (overlaps_both event overlaps)
  · intro apart first rest joined
    have initial : Separate [] (boot target timing control onTimeout accept write exit upload world) := by
      refine ⟨fun both => ?_, by simp, fun earlier entry later split => ?_⟩
      · cases both.1
      · cases earlier <;> cases split
    rw [joined, Machine.trace_append] at apart
    have separate := (machine ω).trace_invariant
      (fun past s event (separate : Separate past s) (apart : ¬ s.Overlaps event) => separate.next event apart)
      _ first initial fun entry member => apart entry (List.mem_append_left _ member)
    exact separate.closed

section

def request (bytes : List Byte) : Request := DownloadSession.request bytes

def serving : TransferSession Unit :=
  ⟨DownloadSession.flashing, .create (some fun _ _ => ((true, 0x100), ()))⟩

def overlapping : List Event :=
  [.transfer (.control (request [0x10, 0x02])), .upload (request [0x35, 0x00, 0x11, 0x20, 0x10]),
    .transfer (.download (request [0x34, 0x00, 0x11, 0x20, 0x10])), .transfer (.exit (request [0x37]))]

theorem upload_left_open :
    ¬ ∀ first rest, overlapping = first ++ rest →
      Closed ((machine Unit).trace serving first) ((machine Unit).run serving first) := by
  intro closed
  have reached := closed overlapping [] (List.append_nil _).symm
  have active : ((machine Unit).run serving overlapping).ul.active = true := by decide
  have ended := reached.ended _ (List.mem_of_getLast? (by rfl)) ⟨request [0x37], rfl, by decide⟩
  exact ended.2 active

end

end TransferSession

end Uds
