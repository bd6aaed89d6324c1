import PulseEcu.Services.BlockTransfer
import PulseEcu.Services.DownloadSession

open Foundation

namespace Uds

/-- A memory behind the callbacks of a download: its bytes, where the next block goes, and how much of
    the announced length is to come. -/
structure FlashImage where
  memory : Region Byte
  pointer : Nat
  left : Nat

namespace FlashImage

def accept (maxBlock : Nat) (request : DownloadRequest) (state : TransferDataService FlashImage × FlashImage) :
    (Bool × Nat) × (TransferDataService FlashImage × FlashImage) :=
  ((true, maxBlock), (state.1.start, { state.2 with pointer := request.address.toNat, left := request.length }))

def write (_seq : Byte) (data : Region Byte) (len : Nat) (image : FlashImage) : Bool × FlashImage :=
  if len ≤ image.left then
    (true, ⟨image.memory.store image.pointer (data.load 0 len), image.pointer + len, image.left - len⟩)
  else (false, image)

def finish (_param : Option (Region Byte)) (_paramLen : Nat) (cells : Region Byte) (_room : Nat) (image : FlashImage) :
    (Bool × Region Byte × Nat) × FlashImage := ((decide (image.left = 0), cells, 0), image)

end FlashImage

namespace DownloadSession

variable {ω : Type}

/-- The services of a download over such a memory: the accept callback also starts the transfer, the data
    callback stores the block, and a change of session leaves the memory alone. -/
structure Wired (maxBlock : Nat) (s : DownloadSession FlashImage) : Prop where
  control : ∀ callback, s.control.callback = some callback → ∀ old new world,
    (callback old new world).memory = world.memory
  accept : s.dl.callback = some (FlashImage.accept maxBlock)
  write : s.td.callback = some FlashImage.write
  exit : s.exit = ⟨some FlashImage.finish⟩

def Request.Says (r : Request) (bytes : List Byte) : Prop :=
  r.reqLen = bytes.length ∧ r.req.load 0 bytes.length = bytes

inductive Taker where
  | control
  | download
  | data
  | exit

def Taker.serviceId : Taker → ServiceId
  | control => .diagnosticSessionControl
  | download => .requestDownload
  | data => .transferData
  | exit => .requestTransferExit

def Event.carries : Event → Option (Taker × Request)
  | .control r => some (.control, r)
  | .download r => some (.download, r)
  | .data r => some (.data, r)
  | .exit r => some (.exit, r)
  | _ => none

inductive Delivers : List Event → List (List Byte) → Prop
  | nil : Delivers [] []
  | update {tickMs : Word} {events : List Event} {script : List (List Byte)} (rest : Delivers events script) :
      Delivers (.sessionUpdate tickMs :: events) script
  | keepAlive {tickMs : Word} {events : List Event} {script : List (List Byte)} (rest : Delivers events script) :
      Delivers (.keepAlive tickMs :: events) script
  | asks {event : Event} {taker : Taker} {r : Request} {bytes : List Byte} {events : List Event}
      {script : List (List Byte)} (carried : event.carries = some (taker, r))
      (routed : bytes.head? = some taker.serviceId)
      (said : r.Says bytes) (rest : Delivers events script) : Delivers (event :: events) (bytes :: script)

def answer (s : DownloadSession ω) : Event → Option Byte
  | .control r => (s.control.handle r.req r.reqLen r.resp r.respLen s.session s.world).1.message.head?
  | .download r => (s.handleDownload r).message.head?
  | .data r => (s.handleData r).message.head?
  | .exit r => (s.handleExit r).message.head?
  | _ => none

def Positive (s : DownloadSession ω) (event : Event) : Prop :=
  ∀ taker r, event.carries = some (taker, r) → s.answer event = some (taker.serviceId + 0x40)

def Early (s : DownloadSession ω) : Event → Prop
  | .sessionUpdate tickMs => s.session.s3Deadline = 0 ∨ tickMs < s.session.s3Deadline
  | _ => True

def formatOf (addressBytes lengthBytes : Nat) : Byte := BitVec.ofNat 8 (16 * lengthBytes + addressBytes)

def downloadRequest (dataFormat : Byte) (addressBytes lengthBytes address length : Nat) : List Byte :=
  [ServiceId.requestDownload, dataFormat, formatOf addressBytes lengthBytes] ++ bytesOf addressBytes address ++
    bytesOf lengthBytes length

structure Encodes (target : Target) (addressBytes lengthBytes address length : Nat) : Prop where
  addressField : addressBytes < 16
  lengthField : lengthBytes < 16
  reach : address < 2 ^ 32
  encoded : address < 256 ^ addressBytes
  size : length < 2 ^ target.sizeBits
  counted : length < 256 ^ lengthBytes

def blockRequests : Nat → List (List Byte) → List (List Byte)
  | _, [] => []
  | k, block :: blocks => ([ServiceId.transferData, BlockTransfer.counter k] ++ block) :: blockRequests (k + 1) blocks

def imageScript (dataFormat : Byte) (addressBytes lengthBytes address : Nat) (blocks : List (List Byte)) :
    List (List Byte) :=
  [[ServiceId.diagnosticSessionControl, 0x02],
    downloadRequest dataFormat addressBytes lengthBytes address blocks.flatten.length] ++
    blockRequests 1 blocks ++ [[ServiceId.requestTransferExit]]

section

variable {r : Request} {bytes : List Byte}

theorem Request.Says.byte (said : r.Says bytes) {i : Nat} {b : Byte} (here : bytes[i]? = some b) : r.req i = b := by
  obtain ⟨bound, cell⟩ := List.getElem?_eq_some_iff.mp here
  have inside : i < (r.req.load 0 bytes.length).length := by rwa [Region.load_length]
  have read := Region.load_getElem r.req 0 bytes.length i inside
  rw [Nat.zero_add] at read
  rw [← read, ← cell]
  simp only [said.2]

theorem formatOf_fields : ∀ addressBytes < 16, ∀ lengthBytes < 16,
    addrLenOf (formatOf addressBytes lengthBytes) = addressBytes ∧
      sizeLenOf (formatOf addressBytes lengthBytes) = lengthBytes := by decide

theorem downloadRequest_reads {target : Target} {dataFormat : Byte} {addressBytes lengthBytes address length : Nat}
    (said : r.Says (downloadRequest dataFormat addressBytes lengthBytes address length))
    (fits : Encodes target addressBytes lengthBytes address length) :
    RequestDownloadService.WellFormed r.req r.reqLen ∧
      (RequestDownloadService.parse target r.req).address.toNat = address ∧
      (RequestDownloadService.parse target r.req).length = length := by
  obtain ⟨addressField, lengthField, reach, encoded, size, counted⟩ := fits
  have format : r.req 2 = formatOf addressBytes lengthBytes := said.byte rfl
  obtain ⟨addressLen, sizeLen⟩ := formatOf_fields addressBytes addressField lengthBytes lengthField
  have len := said.1
  simp only [downloadRequest, List.length_append, bytesOf_length, List.length_cons, List.length_nil] at len
  have addressBytesRead : r.req.load 3 addressBytes = bytesOf addressBytes address := by
    have middle := Region.load_middle said.2
    rwa [bytesOf_length] at middle
  have lengthBytesRead : r.req.load (3 + addressBytes) lengthBytes = bytesOf lengthBytes length := by
    have whole := said.2
    rw [downloadRequest, ← List.append_nil (_ ++ _ ++ _)] at whole
    have middle := Region.load_middle whole
    rwa [bytesOf_length, List.length_append, bytesOf_length] at middle
  refine ⟨⟨by omega, by rw [format, addressLen, sizeLen]; omega⟩, ?_, ?_⟩
  · show (parseAddress r.req 3 (r.req 2)).toNat = address
    rw [parseAddress_toNat, declaredAddress, format, addressLen, addressBytesRead, bigEndian_bytesOf,
      Nat.mod_eq_of_lt encoded, Nat.mod_eq_of_lt reach]
  · show (parseSize r.req 3 (r.req 2) target).toNat = length
    rw [parseSize_toNat, declaredSize, format, addressLen, sizeLen, lengthBytesRead, bigEndian_bytesOf,
      Nat.mod_eq_of_lt counted, Nat.mod_eq_of_lt size]

end

inductive Awaits (maxBlock : Nat) (final : Region Byte) : DownloadSession FlashImage → List (List Byte) → Prop
  | away {s : DownloadSession FlashImage} {dataFormat : Byte} {addressBytes lengthBytes address : Nat}
      {blocks : List (List Byte)} (wired : s.Wired maxBlock) (session : s.session.session = .default)
      (idle : s.dl.active = false) (fits : Encodes s.target addressBytes lengthBytes address blocks.flatten.length)
      (goal : s.world.memory.store address blocks.flatten = final) :
      Awaits maxBlock final s (imageScript dataFormat addressBytes lengthBytes address blocks)
  | inside {s : DownloadSession FlashImage} {dataFormat : Byte} {addressBytes lengthBytes address : Nat}
      {blocks : List (List Byte)} (wired : s.Wired maxBlock) (programming : s.Programming) (idle : s.dl.active = false)
      (fits : Encodes s.target addressBytes lengthBytes address blocks.flatten.length)
      (goal : s.world.memory.store address blocks.flatten = final) :
      Awaits maxBlock final s (downloadRequest dataFormat addressBytes lengthBytes address blocks.flatten.length ::
        (blockRequests 1 blocks ++ [[ServiceId.requestTransferExit]]))
  | transferring {s : DownloadSession FlashImage} {k : Nat} {blocks : List (List Byte)} (wired : s.Wired maxBlock)
      (programming : s.Programming) (download : s.dl.active = true) (transfer : s.td.active = true)
      (expected : s.td.expectedSeq = BlockTransfer.counter k) (left : s.world.left = blocks.flatten.length)
      (goal : s.world.memory.store s.world.pointer blocks.flatten = final) :
      Awaits maxBlock final s (blockRequests k blocks ++ [[ServiceId.requestTransferExit]])
  | done {s : DownloadSession FlashImage} (programming : s.Programming) (download : s.dl.active = false)
      (transfer : s.td.active = false) (goal : s.world.memory = final) : Awaits maxBlock final s []

section

variable {maxBlock : Nat} {final : Region Byte} {s : DownloadSession FlashImage} {r : Request}

theorem control_programming (wired : s.Wired maxBlock) (session : s.session.session = .default)
    (said : r.Says [ServiceId.diagnosticSessionControl, 0x02]) :
    s.answer (.control r) = some (ServiceId.diagnosticSessionControl + 0x40) ∧ ∃ entered world,
      (machine FlashImage).next s (.control r) = { s with session := entered, world := world } ∧
        entered.session = .programming ∧ world.memory = s.world.memory := by
  have sub : r.req 1 = 0x02 := said.byte rfl
  have long : ¬ r.reqLen < 2 := by rw [said.1]; decide
  have entered : (s.session.transition (.ofByte (0x02 &&& 0x7F))).1 = true := by
    rw [UdsSession.transition, session]
    rfl
  have programming : (s.session.transition (.ofByte (0x02 &&& 0x7F))).2.session = .programming := by
    rw [UdsSession.transition_session, if_pos entered]
    rfl
  have short : ¬ (0x02 : Byte) &&& 0x7F < 1 ∧ ¬ (0x02 : Byte) &&& 0x7F > 3 := by decide
  have handled : (s.control.handle r.req r.reqLen r.resp r.respLen s.session s.world).1.send = true ∧
      (s.control.handle r.req r.reqLen r.resp r.respLen s.session s.world).1.respLen = 6 ∧
      (s.control.handle r.req r.reqLen r.resp r.respLen s.session s.world).1.resp 0 =
        ServiceId.diagnosticSessionControl + 0x40 ∧
      (s.control.handle r.req r.reqLen r.resp r.respLen s.session s.world).1.state.memory = s.world.memory := by
    unfold DiagnosticSessionControlService.handle
    rw [if_neg long, sub]
    dsimp only
    rw [if_neg (not_or.mpr short), if_pos entered]
    cases given : s.control.callback with
    | none => exact ⟨rfl, rfl, rfl, rfl⟩
    | some callback => exact ⟨rfl, rfl, rfl, wired.control callback given _ _ _⟩
  obtain ⟨send, respLen, first, memory⟩ := handled
  refine ⟨?_, _, _, rfl, ?_, memory⟩
  · rw [answer, message_head _ send (by rw [respLen]; decide), first]
  · rw [DiagnosticSessionControlService.handle_session, DiagnosticSessionControlService.asked, sub,
      if_neg (by simp [long])]
    exact programming

theorem download_taken (wired : s.Wired maxBlock) (programming : s.Programming) (idle : s.dl.active = false)
    (wellFormed : RequestDownloadService.WellFormed r.req r.reqLen) :
    s.answer (.download r) = some (ServiceId.requestDownload + 0x40) ∧
      (machine FlashImage).next s (.download r) =
        { s with
          dl := { s.dl with active := true }
          td := s.td.start
          world := ⟨s.world.memory, (RequestDownloadService.parse s.target r.req).address.toNat,
            (RequestDownloadService.parse s.target r.req).length⟩ } := by
  have accepts : s.dl.Accepts r.req r.reqLen s.session :=
    ⟨wellFormed, programming, idle, by rw [wired.accept]; exact Option.some_ne_none _⟩
  cases s.dl.handle_turn s.target r.req r.reqLen r.resp r.respLen s.session (s.td, s.world) with
  | denied nrc unaccepted same => exact absurd accepts unaccepted
  | refused callback _ given no same =>
    rw [RequestDownloadService.verdict, wired.accept] at no
    cases no
  | opened callback _ given takes same =>
    cases wired.accept.symm.trans given
    have handled : s.handleDownload r = _ := same
    refine ⟨by rw [answer, handled]; rfl, ?_⟩
    simp only [Machine.next, machine, handled]
    rfl

theorem block_taken (wired : s.Wired maxBlock) (transfer : s.td.active = true) {k : Nat} {block : List Byte}
    (expected : s.td.expectedSeq = BlockTransfer.counter k) (fits : block.length ≤ s.world.left)
    (said : r.Says ([ServiceId.transferData, BlockTransfer.counter k] ++ block)) :
    s.answer (.data r) = some (ServiceId.transferData + 0x40) ∧
      (machine FlashImage).next s (.data r) =
        { s with
          td := { s.td with expectedSeq := BlockTransfer.counter (k + 1) }
          world := ⟨s.world.memory.store s.world.pointer block, s.world.pointer + block.length,
            s.world.left - block.length⟩ } := by
  have seq : r.req 1 = BlockTransfer.counter k := said.byte rfl
  have len : r.reqLen = block.length + 2 := said.1
  have data : (r.req.advance 2).load 0 (r.reqLen - 2) = block := by
    have whole := said.2
    rw [← List.append_nil ([ServiceId.transferData, BlockTransfer.counter k] ++ block)] at whole
    rw [len, Region.advance_load]
    exact Region.load_middle whole
  have written : FlashImage.write (BlockTransfer.counter k) (r.req.advance 2) (r.reqLen - 2) s.world =
      (true, ⟨s.world.memory.store s.world.pointer block, s.world.pointer + block.length,
        s.world.left - block.length⟩) := by
    rw [FlashImage.write, data, len, Nat.add_sub_cancel, if_pos fits]
  have handled : s.handleData r = s.td.advanced (BlockTransfer.counter k) r.resp
      ⟨s.world.memory.store s.world.pointer block, s.world.pointer + block.length, s.world.left - block.length⟩
      [.block (BlockTransfer.counter k) (r.req.load 2 (r.reqLen - 2))] := by
    unfold handleData TransferDataService.handle
    rw [if_neg (by omega), if_neg (by rw [transfer]; decide), seq, expected, wired.write]
    dsimp only
    rw [if_neg (not_not_intro rfl), written]
    rfl
  refine ⟨by rw [answer, handled]; rfl, ?_⟩
  simp only [Machine.next, machine, handled, TransferDataService.advanced, ← BlockTransfer.counter_succ]
  rw [TransferDataService.seq_succ]

theorem exit_taken (wired : s.Wired maxBlock) (download : s.dl.active = true) (left : s.world.left = 0) :
    s.answer (.exit r) = some (ServiceId.requestTransferExit + 0x40) ∧
      (machine FlashImage).next s (.exit r) = { s with dl := s.dl.reset, td := s.td.reset } := by
  have handled : s.handleExit r =
      ⟨⟨true, (r.resp.store 0 [RequestTransferExitService.serviceId + 0x40]).graft 1
          ((r.resp.store 0 [RequestTransferExitService.serviceId + 0x40]).advance 1), 1,
        (s.dl.reset, s.td.reset, s.world)⟩, [.exit (r.req.load 1 (RequestTransferExitService.paramLen r.reqLen))]⟩ := by
    have finished : ∀ param paramLen cells room,
        FlashImage.finish param paramLen cells room s.world = ((true, cells, 0), s.world) := by
      intro param paramLen cells room
      rw [FlashImage.finish, left]
      rfl
    unfold handleExit RequestTransferExitService.handle
    rw [wired.exit]
    dsimp only
    rw [if_neg (by rw [download]; decide), finished]
    rfl
  refine ⟨by rw [answer, handled]; rfl, ?_⟩
  simp only [Machine.next, machine, handled]

theorem serviceId_injective : Function.Injective Taker.serviceId := by
  intro one other same
  cases one <;> cases other <;> first | rfl | exact absurd same (by decide)

theorem carried_control {event : Event} (carried : event.carries = some (.control, r)) : event = .control r := by
  cases event <;> cases carried
  rfl

theorem carried_download {event : Event} (carried : event.carries = some (.download, r)) : event = .download r := by
  cases event <;> cases carried
  rfl

theorem carried_data {event : Event} (carried : event.carries = some (.data, r)) : event = .data r := by
  cases event <;> cases carried
  rfl

theorem carried_exit {event : Event} (carried : event.carries = some (.exit, r)) : event = .exit r := by
  cases event <;> cases carried
  rfl

theorem positive_of {event : Event} {taker : Taker} (carried : event.carries = some (taker, r))
    (answered : s.answer event = some (taker.serviceId + 0x40)) : s.Positive event := by
  intro other r' same
  cases carried.symm.trans same
  exact answered

/-- What the tester says next is answered positively, and brings the download on. -/
theorem Awaits.answered {script rest : List (List Byte)} {bytes : List Byte} (awaits : Awaits maxBlock final s script)
    (next : script = bytes :: rest) {event : Event} {taker : Taker} (carried : event.carries = some (taker, r))
    (routed : bytes.head? = some taker.serviceId) (said : r.Says bytes) :
    s.Positive event ∧ Awaits maxBlock final ((machine FlashImage).next s event) rest := by
  cases awaits with
  | away wired session idle fits goal =>
    obtain ⟨rfl, rfl⟩ := List.cons.inj next
    have kind : taker = .control := serviceId_injective (Option.some.inj routed).symm
    subst kind
    obtain rfl := carried_control carried
    obtain ⟨positive, entered, world, same, programming, memory⟩ := control_programming wired session said
    refine ⟨positive_of carried positive, ?_⟩
    rw [same]
    exact .inside ⟨wired.control, wired.accept, wired.write, wired.exit⟩ programming idle fits (by rw [memory]; exact goal)
  | inside wired programming idle fits goal =>
    obtain ⟨rfl, rfl⟩ := List.cons.inj next
    have kind : taker = .download := serviceId_injective (Option.some.inj routed).symm
    subst kind
    obtain rfl := carried_download carried
    obtain ⟨wellFormed, address, length⟩ := downloadRequest_reads said fits
    obtain ⟨positive, same⟩ := download_taken wired programming idle wellFormed
    refine ⟨positive_of carried positive, ?_⟩
    rw [same, address, length]
    exact .transferring ⟨wired.control, wired.accept, wired.write, wired.exit⟩ programming rfl rfl rfl rfl goal
  | @transferring k blocks wired programming download transfer expected left goal =>
    cases blocks with
    | nil =>
      obtain ⟨rfl, rfl⟩ := List.cons.inj next
      have kind : taker = .exit := serviceId_injective (Option.some.inj routed).symm
      subst kind
      obtain rfl := carried_exit carried
      obtain ⟨positive, same⟩ := exit_taken wired download left
      refine ⟨positive_of carried positive, ?_⟩
      rw [same]
      rw [List.flatten_nil, Region.store_nil] at goal
      exact .done programming rfl rfl goal
    | cons block blocks =>
      obtain ⟨rfl, rfl⟩ := List.cons.inj next
      have kind : taker = .data := serviceId_injective (Option.some.inj routed).symm
      subst kind
      obtain rfl := carried_data carried
      rw [List.flatten_cons, List.length_append] at left
      obtain ⟨positive, same⟩ := block_taken wired transfer expected (by omega) said
      refine ⟨positive_of carried positive, ?_⟩
      rw [same]
      rw [List.flatten_cons, Region.store_append] at goal
      exact .transferring ⟨wired.control, wired.accept, wired.write, wired.exit⟩ programming download transfer rfl
        (by dsimp only; omega) goal
  | done programming download transfer goal => cases next

/-- A call of a timer that does not end the session changes nothing the download depends on. -/
theorem Awaits.waits {script : List (List Byte)} (awaits : Awaits maxBlock final s script) {t : DownloadSession FlashImage}
    (same : t = { s with session := t.session }) (session : t.session.session = s.session.session) :
    Awaits maxBlock final t script := by
  rw [same]
  cases awaits with
  | away wired default idle fits goal =>
    exact .away ⟨wired.control, wired.accept, wired.write, wired.exit⟩ (session.trans default) idle fits goal
  | inside wired programming idle fits goal =>
    exact .inside ⟨wired.control, wired.accept, wired.write, wired.exit⟩ (session.trans programming) idle fits goal
  | transferring wired programming download transfer expected left goal =>
    exact .transferring ⟨wired.control, wired.accept, wired.write, wired.exit⟩ (session.trans programming) download
      transfer expected left goal
  | done programming download transfer goal => exact .done (session.trans programming) download transfer goal

theorem Awaits.finished {script : List (List Byte)} (awaits : Awaits maxBlock final s script) (empty : script = []) :
    s.world.memory = final ∧ s.Programming ∧ ¬ s.Active := by
  cases awaits with
  | away => cases empty
  | inside => cases empty
  | transferring => exact absurd empty (List.append_ne_nil_of_right_ne_nil _ (List.cons_ne_nil _ _))
  | done programming download transfer goal =>
    refine ⟨goal, programming, fun active => ?_⟩
    rcases active with active | active
    · exact Bool.noConfusion (download.symm.trans active)
    · exact Bool.noConfusion (transfer.symm.trans active)

theorem update_early {tickMs : Word} (early : s.Early (.sessionUpdate tickMs)) :
    (s.session.update tickMs).1.session = s.session.session ∧ (s.session.update tickMs).2 = false := by
  by_cases left : s.session.session = .default
  · rw [UdsSession.update, if_pos left]
    exact ⟨rfl, rfl⟩
  · rw [UdsSession.update_kept s.session tickMs left early]
    exact ⟨rfl, rfl⟩

theorem Awaits.run {events : List Event} {script : List (List Byte)} (delivers : Delivers events script)
    (awaits : Awaits maxBlock final s script)
    (early : ∀ entry ∈ (machine FlashImage).trace s events, entry.before.Early entry.event) :
    (∀ entry ∈ (machine FlashImage).trace s events, entry.before.Positive entry.event) ∧
      Awaits maxBlock final ((machine FlashImage).run s events) [] := by
  induction delivers generalizing s with
  | nil => exact ⟨List.forall_mem_nil _, awaits⟩
  | @update tickMs events script rest ih =>
    obtain ⟨now, later⟩ := List.forall_mem_cons.mp early
    have session := (update_early (s := s) now).1
    have quiet : (s.session.update tickMs).2 = false := (update_early now).2
    have next : (machine FlashImage).next s (.sessionUpdate tickMs) =
        { s with session := (s.session.update tickMs).1 } := by
      show ({ s with
        session := (s.session.update tickMs).1
        world := if (s.session.update tickMs).2 = true then s.onTimeout.getD id s.world else s.world } :
          DownloadSession FlashImage) = _
      rw [quiet]
      rfl
    obtain ⟨positive, ends⟩ := ih (awaits.waits (by rw [next]) (by rw [next]; exact session)) later
    exact ⟨List.forall_mem_cons.mpr ⟨fun _ _ carried => (nomatch carried), positive⟩, ends⟩
  | @keepAlive tickMs events script rest ih =>
    obtain ⟨now, later⟩ := List.forall_mem_cons.mp early
    have kept : Awaits maxBlock final ((machine FlashImage).next s (.keepAlive tickMs)) script :=
      awaits.waits rfl (UdsSession.keepAlive_session s.session tickMs)
    obtain ⟨positive, ends⟩ := ih kept later
    exact ⟨List.forall_mem_cons.mpr ⟨fun _ _ carried => (nomatch carried), positive⟩, ends⟩
  | asks carried routed said rest ih =>
    obtain ⟨now, later⟩ := List.forall_mem_cons.mp early
    obtain ⟨first, next⟩ := awaits.answered rfl carried routed said
    obtain ⟨positive, ends⟩ := ih next later
    exact ⟨List.forall_mem_cons.mpr ⟨first, positive⟩, ends⟩

/-- From every state in Default session without a download, a tester that asks for the Programming
    session, announces an image, sends it in blocks of any sizes and ends the transfer is answered
    positively throughout, and leaves the image in the memory, whatever timer calls fall in between. -/
theorem image_downloaded (maxBlock : Nat) (s : DownloadSession FlashImage) (wired : s.Wired maxBlock)
    (session : s.session.session = .default) (idle : s.dl.active = false) (dataFormat : Byte)
    (addressBytes lengthBytes address : Nat) (blocks : List (List Byte))
    (fits : Encodes s.target addressBytes lengthBytes address blocks.flatten.length) (events : List Event)
    (delivers : Delivers events (imageScript dataFormat addressBytes lengthBytes address blocks))
    (early : ∀ entry ∈ (machine FlashImage).trace s events, entry.before.Early entry.event) :
    (∀ entry ∈ (machine FlashImage).trace s events, entry.before.Positive entry.event) ∧
      ((machine FlashImage).run s events).world.memory = s.world.memory.store address blocks.flatten ∧
      ((machine FlashImage).run s events).Programming ∧ ¬ ((machine FlashImage).run s events).Active := by
  have awaits : Awaits maxBlock (s.world.memory.store address blocks.flatten) s
      (imageScript dataFormat addressBytes lengthBytes address blocks) := .away wired session idle fits rfl
  obtain ⟨positive, ends⟩ := awaits.run delivers early
  exact ⟨positive, ends.finished rfl⟩

end

section

def imageSession : DownloadSession FlashImage :=
  boot .cortexM kDefaultTiming ⟨none⟩ none (some (FlashImage.accept 0x100)) (some FlashImage.write)
    ⟨some FlashImage.finish⟩ ⟨Region.fill 0xFF, 0, 0⟩

def imageBlocks : List (List Byte) := [[0xAA, 0xBB], [0xCC]]

def imageEvents : List Event :=
  [.control (request [0x10, 0x02]), .keepAlive 1000, .download (request [0x34, 0x00, 0x11, 0x20, 0x03]),
    .sessionUpdate 2000, .data (request [0x36, 0x01, 0xAA, 0xBB]), .data (request [0x36, 0x02, 0xCC]),
    .exit (request [0x37])]

theorem request_bytes (bytes : List Byte) : (request bytes).Says bytes :=
  ⟨rfl, Region.load_store (Region.fill 0) 0 bytes⟩

theorem image_downloaded_twoBlocks :
    (∀ entry ∈ (machine FlashImage).trace imageSession imageEvents, entry.before.Positive entry.event) ∧
      ((machine FlashImage).run imageSession imageEvents).world.memory =
        (Region.fill 0xFF).store 0x20 [0xAA, 0xBB, 0xCC] ∧
      ((machine FlashImage).run imageSession imageEvents).Programming ∧
      ¬ ((machine FlashImage).run imageSession imageEvents).Active := by
  have wired : imageSession.Wired 0x100 := ⟨fun callback given => (nomatch given), rfl, rfl, rfl⟩
  have fits : Encodes .cortexM 1 1 0x20 imageBlocks.flatten.length := by
    refine ⟨?_, ?_, ?_, ?_, ?_, ?_⟩ <;> decide
  have delivers : Delivers imageEvents (imageScript 0x00 1 1 0x20 imageBlocks) :=
    .asks rfl rfl (request_bytes _) (.keepAlive (.asks rfl rfl (request_bytes _) (.update (.asks rfl rfl (request_bytes _)
      (.asks rfl rfl (request_bytes _) (.asks rfl rfl (request_bytes _) .nil))))))
  refine image_downloaded 0x100 imageSession wired rfl rfl 0x00 1 1 0x20 imageBlocks fits imageEvents delivers ?_
  intro entry member
  simp only [imageEvents, Machine.trace, List.mem_cons, List.not_mem_nil, or_false] at member
  rcases member with rfl | rfl | rfl | rfl | rfl | rfl | rfl
  · trivial
  · trivial
  · trivial
  · exact Or.inr (by decide)
  · trivial
  · trivial
  · trivial

end

end DownloadSession

end Uds
