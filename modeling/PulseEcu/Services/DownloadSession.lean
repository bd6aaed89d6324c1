import PulseEcu.Foundation.Run
import PulseEcu.Services.SessionServices
import PulseEcu.Services.Transfer

open Foundation

namespace Uds

/-- The three services of a download and the session; the accept callback gets at the
    `TransferDataService` besides the application `ω`. -/
structure DownloadSession (ω : Type) where
  target : Target
  session : UdsSession
  control : DiagnosticSessionControlService ω
  onTimeout : Option (ω → ω)
  dl : RequestDownloadService (TransferDataService ω × ω)
  td : TransferDataService ω
  exit : RequestTransferExitService ω
  world : ω

namespace DownloadSession

variable {ω : Type}

structure Request where
  req : Region Byte
  reqLen : Nat
  resp : Region Byte
  respLen : Nat

inductive Event where
  | download (request : Request)
  | data (request : Request)
  | exit (request : Request)
  | control (request : Request)
  | sessionUpdate (tickMs : Word)
  | keepAlive (tickMs : Word)
  | reset

def handleDownload (s : DownloadSession ω) (r : Request) :
    Handled TransferCall (RequestDownloadService (TransferDataService ω × ω) × TransferDataService ω × ω) :=
  s.dl.handle s.target r.req r.reqLen r.resp r.respLen s.session (s.td, s.world)

def handleData (s : DownloadSession ω) (r : Request) : Handled TransferCall (TransferDataService ω × ω) :=
  s.td.handle r.req r.reqLen r.resp r.respLen s.session s.world

def handleExit (s : DownloadSession ω) (r : Request) :
    Handled TransferCall (RequestDownloadService (TransferDataService ω × ω) × TransferDataService ω × ω) :=
  s.exit.handle r.req r.reqLen r.resp r.respLen s.session (s.dl, s.td, s.world)

def machine (ω : Type) : Machine (DownloadSession ω) Event (List TransferCall) where
  step s
    | .download r =>
      let handled := s.handleDownload r
      ({ s with dl := handled.state.1, td := handled.state.2.1, world := handled.state.2.2 }, handled.calls)
    | .data r =>
      let handled := s.handleData r
      ({ s with td := handled.state.1, world := handled.state.2 }, handled.calls)
    | .exit r =>
      let handled := s.handleExit r
      ({ s with dl := handled.state.1, td := handled.state.2.1, world := handled.state.2.2 }, handled.calls)
    | .control r =>
      let handled := s.control.handle r.req r.reqLen r.resp r.respLen s.session s.world
      ({ s with session := handled.2, world := handled.1.state }, [])
    | .sessionUpdate tickMs =>
      let updated := s.session.update tickMs
      ({ s with session := updated.1, world := if updated.2 then (s.onTimeout.getD id) s.world else s.world }, [])
    | .keepAlive tickMs => ({ s with session := s.session.keepAlive tickMs }, [])
    | .reset => ({ s with session := s.session.reset }, [])

abbrev Entry (ω : Type) := Machine.Entry (DownloadSession ω) Event (List TransferCall)

def Active (s : DownloadSession ω) : Prop := s.dl.active = true ∨ s.td.active = true

def Programming (s : DownloadSession ω) : Prop := s.session.session = .programming

instance (s : DownloadSession ω) : Decidable s.Programming := inferInstanceAs (Decidable (_ = _))

def Enters (entry : Entry ω) : Prop := ¬ entry.before.Programming ∧ entry.after.Programming

def Starts (entry : Entry ω) : Prop := entry.before.dl.active = false ∧ entry.after.dl.active = true

def Accepts (s : DownloadSession ω) (r : Request) : Prop :=
  ∃ callback, s.dl.callback = some callback ∧
    (callback (RequestDownloadService.parse s.target r.req) (s.td, s.world)).1.1 = true

/-- A download does not outlive its Programming session, no block is written outside one, and
    a new session takes a download until one is started. -/
structure Confined (past : List (Entry ω)) (s : DownloadSession ω) : Prop where
  session : s.Active → s.Programming
  blocks : ∀ entry ∈ past, ∀ seq data, .block seq data ∈ entry.output → entry.before.Programming
  renewed : ∀ earlier entry later, past = earlier ++ entry :: later → Enters entry →
    (∀ other ∈ later, ¬ Starts other) → ∀ r : Request, s.Programming →
      RequestDownloadService.WellFormed r.req r.reqLen → s.Accepts r →
        (s.handleDownload r).message.head? = some (RequestDownloadService.serviceId + 0x40)

def Finished (s : DownloadSession ω) (event : Event) : Prop :=
  s.Programming → ¬ ((machine ω).next s event).Programming → ¬ s.Active

structure Fresh (past : List (Entry ω)) (s : DownloadSession ω) : Prop where
  session : s.Active → s.Programming
  blocks : ∀ entry ∈ past, ∀ seq data, .block seq data ∈ entry.output → entry.before.Programming
  idle : ∀ earlier entry later, past = earlier ++ entry :: later → Enters entry →
    (∀ other ∈ later, ¬ Starts other) → s.dl.active = false

variable {past : List (Entry ω)} {s : DownloadSession ω}

theorem Fresh.confined (fresh : Fresh past s) : Confined past s := by
  refine ⟨fresh.session, fresh.blocks, fun earlier entry later split enters none r programming formed accepts => ?_⟩
  obtain ⟨callback, given, accepted⟩ := accepts
  exact RequestDownloadService.handle_accepted s.target s.dl r.req r.reqLen r.resp r.respLen s.session (s.td, s.world)
    formed programming (fresh.idle earlier entry later split enters none) given accepted

theorem Fresh.snoc (fresh : Fresh past s) (entry : Entry ω) (before : entry.before = s)
    (session : entry.after.Active → entry.after.Programming)
    (blocks : ∀ seq data, .block seq data ∈ entry.output → s.Active)
    (entered : Enters entry → ¬ s.Active → entry.after.dl.active = false) : Fresh (past ++ [entry]) entry.after := by
  refine ⟨session, Machine.forall_mem_snoc fresh.blocks fun seq data called => ?_,
    fun earlier source later split enters none => ?_⟩
  · rw [before]
    exact fresh.session (blocks seq data called)
  · rcases Machine.split_snoc split with ⟨_, rfl, _⟩ | ⟨rest, rfl, joined⟩
    · refine entered enters fun active => enters.1 ?_
      rw [before]
      exact fresh.session active
    · have quiet := fresh.idle earlier source rest joined enters fun other member =>
        none other (List.mem_append_left _ member)
      have unstarted := none entry (List.mem_append_right rest List.mem_cons_self)
      rw [← before] at quiet
      exact Bool.eq_false_iff.mpr fun active => unstarted ⟨quiet, active⟩

theorem Fresh.control (fresh : Fresh past s) (entry : Entry ω) (before : entry.before = s)
    (silent : entry.output = []) (dl : entry.after.dl = s.dl) (td : entry.after.td = s.td)
    (finished : s.Programming → ¬ entry.after.Programming → ¬ s.Active) : Fresh (past ++ [entry]) entry.after := by
  have same : entry.after.Active → s.Active := by
    intro active
    rw [Active, dl, td] at active
    exact active
  refine fresh.snoc entry before (fun active => ?_) (fun seq data called => ?_) fun _ idle => ?_
  · have active := same active
    exact Decidable.byContradiction fun left => finished (fresh.session active) left active
  · rw [silent] at called
    cases called
  · rw [dl]
    exact Bool.eq_false_iff.mpr fun active => idle (Or.inl active)

theorem Fresh.download (fresh : Fresh past s) (r : Request) :
    Fresh (past ++ [(machine ω).entry s (.download r)]) ((machine ω).next s (.download r)) := by
  refine fresh.snoc ((machine ω).entry s (.download r)) rfl (fun active => ?_) (fun seq data called => ?_)
    fun enters => absurd enters.2 enters.1
  · rcases s.dl.handle_active s.target r.req r.reqLen r.resp r.respLen s.session (s.td, s.world) with same | ⟨inside, _⟩
    · apply fresh.session
      have same : (s.handleDownload r).state = (s.dl, s.td, s.world) := same
      have active : (s.handleDownload r).state.1.active = true ∨ (s.handleDownload r).state.2.1.active = true := active
      rw [same] at active
      exact active
    · exact inside
  · exact absurd called (s.dl.handle_calls s.target r.req r.reqLen r.resp r.respLen s.session (s.td, s.world) seq data)

theorem Fresh.data (fresh : Fresh past s) (r : Request) :
    Fresh (past ++ [(machine ω).entry s (.data r)]) ((machine ω).next s (.data r)) := by
  obtain ⟨same, running⟩ := s.td.handle_active r.req r.reqLen r.resp r.respLen s.session s.world
  refine fresh.snoc ((machine ω).entry s (.data r)) rfl (fun active => fresh.session ?_) (fun seq data called => ?_)
    fun enters => absurd enters.2 enters.1
  · rcases active with download | transfer
    · exact Or.inl download
    · exact Or.inr (same.symm.trans transfer)
  · exact Or.inr (running (List.ne_nil_of_mem called))

theorem Fresh.exit (fresh : Fresh past s) (r : Request) :
    Fresh (past ++ [(machine ω).entry s (.exit r)]) ((machine ω).next s (.exit r)) := by
  have stops := s.exit.handle_active r.req r.reqLen r.resp r.respLen s.session (s.dl, s.td, s.world)
  refine fresh.snoc ((machine ω).entry s (.exit r)) rfl (fun active => fresh.session ?_) (fun seq data called => ?_)
    fun enters => absurd enters.2 enters.1
  · have active : (s.handleExit r).state.1.active = true ∨ (s.handleExit r).state.2.1.active = true := active
    rcases stops with ⟨download, transfer⟩ | ⟨download, transfer⟩
    · rcases active with still | still
      · exact absurd (download.symm.trans still) (by decide)
      · exact absurd (transfer.symm.trans still) (by decide)
    · rw [handleExit, download, transfer] at active
      exact active
  · exact absurd called (s.exit.handle_calls r.req r.reqLen r.resp r.respLen s.session (s.dl, s.td, s.world) seq data)

theorem Fresh.next (fresh : Fresh past s) (event : Event) (finished : Finished s event) :
    Fresh (past ++ [(machine ω).entry s event]) ((machine ω).next s event) := by
  cases event with
  | download r => exact fresh.download r
  | data r => exact fresh.data r
  | exit r => exact fresh.exit r
  | control r => exact fresh.control ((machine ω).entry s (.control r)) rfl rfl rfl rfl finished
  | sessionUpdate tickMs => exact fresh.control ((machine ω).entry s (.sessionUpdate tickMs)) rfl rfl rfl rfl finished
  | keepAlive tickMs => exact fresh.control ((machine ω).entry s (.keepAlive tickMs)) rfl rfl rfl rfl finished
  | reset => exact fresh.control ((machine ω).entry s .reset) rfl rfl rfl rfl finished

def boot (target : Target) (timing : TimingConfig) (control : DiagnosticSessionControlService ω)
    (onTimeout : Option (ω → ω))
    (accept : Option (DownloadRequest → TransferDataService ω × ω → (Bool × Nat) × (TransferDataService ω × ω)))
    (write : Option (Byte → Region Byte → Nat → ω → Bool × ω)) (exit : RequestTransferExitService ω) (world : ω) :
    DownloadSession ω :=
  ⟨target, .create timing, control, onTimeout, .create accept, .create write, exit, world⟩

/-- In every run that leaves Programming session only when no download is active, downloads are
    confined to it. -/
theorem download_confined (target : Target) (timing : TimingConfig) (control : DiagnosticSessionControlService ω)
    (onTimeout : Option (ω → ω))
    (accept : Option (DownloadRequest → TransferDataService ω × ω → (Bool × Nat) × (TransferDataService ω × ω)))
    (write : Option (Byte → Region Byte → Nat → ω → Bool × ω)) (exit : RequestTransferExitService ω) (world : ω)
    (events : List Event)
    (finished : ∀ entry ∈ (machine ω).trace (boot target timing control onTimeout accept write exit world) events,
      Finished entry.before entry.event) :
    Confined ((machine ω).trace (boot target timing control onTimeout accept write exit world) events)
      ((machine ω).run (boot target timing control onTimeout accept write exit world) events) := by
  have initial : Fresh [] (boot target timing control onTimeout accept write exit world) := by
    refine ⟨fun active => ?_, by simp, fun earlier entry later split => ?_⟩
    · rcases active with download | transfer
      · cases download
      · cases transfer
    · cases earlier <;> cases split
  have fresh := (machine ω).trace_invariant
    (fun past s event (fresh : Fresh past s) (finished : Finished s event) => fresh.next event finished) _ events
    initial finished
  exact fresh.confined

section

def flashing : DownloadSession Unit :=
  boot .cortexM kDefaultTiming ⟨none⟩ none (some fun _ state => ((true, 0x100), (state.1.start, state.2)))
    (some fun _ _ _ _ => (true, ())) ⟨none⟩ ()

def request (bytes : List Byte) : Request :=
  ⟨(Region.fill 0).store 0 bytes, bytes.length, Region.fill 0, 4096⟩

def writing : List Event :=
  [.control (request [0x10, 0x02]), .download (request [0x34, 0x00, 0x11, 0x20, 0x10]),
    .data (request [0x36, 0x01, 0xAA])]

def writingAgain : List Event :=
  writing ++ [.exit (request [0x37]), .control (request [0x10, 0x01])] ++ writing

theorem download_confined_exit :
    Confined ((machine Unit).trace flashing writingAgain) ((machine Unit).run flashing writingAgain) := by
  refine download_confined .cortexM kDefaultTiming ⟨none⟩ none _ _ ⟨none⟩ () _ fun entry member => ?_
  have leaves : ∀ entry ∈ (machine Unit).trace flashing writingAgain, entry.before.session.session = .programming →
      entry.after.session.session ≠ .programming →
        ¬ (entry.before.dl.active = true ∨ entry.before.td.active = true) := by
    decide
  obtain ⟨before, event, rfl⟩ := (machine Unit).entry_of_mem_trace member
  exact leaves _ member

theorem download_outlives_session :
    ¬ Confined ((machine Unit).trace flashing (writing ++ [.control (request [0x10, 0x03]), .data (request [0x36, 0x02])]))
      ((machine Unit).run flashing (writing ++ [.control (request [0x10, 0x03]), .data (request [0x36, 0x02])])) := by
  intro confined
  have active : ((machine Unit).run flashing
    (writing ++ [.control (request [0x10, 0x03]), .data (request [0x36, 0x02])])).dl.active = true := by decide
  have inside := confined.session (Or.inl active)
  exact absurd inside (by decide)

end

end DownloadSession

end Uds
