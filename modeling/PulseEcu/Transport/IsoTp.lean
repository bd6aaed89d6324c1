import PulseEcu.Foundation.Region
import PulseEcu.Foundation.Run
import PulseEcu.Types

open Foundation

namespace Uds.Transport

/-- `data` is the memory from `&data[0]` on; the array itself is its first eight cells. -/
structure CanFrame where
  id : Word
  data : Region Byte
  dlc : Byte
  isExtendedId : Bool

def CanFrame.make (id : Word) (bytes : List Byte) (dlc : Byte) : CanFrame :=
  ⟨id, (Region.fill 0).store 0 bytes, dlc, false⟩

/-- What the driver answers during one call into the transport: the tick it reads, and
    whether the n-th frame handed to `send` within the call is taken. -/
structure ICanInterface where
  getTickMs : Word
  send : Nat → Bool

def ICanInterface.Reliable (can : ICanInterface) : Prop := ∀ n, can.send n = true

def ICanInterface.ready : ICanInterface := ⟨0, fun _ => true⟩

theorem ICanInterface.ready_reliable : ready.Reliable := fun _ => rfl

/-- A buffer of the caller; the code only ever keeps pointers to the start of one. -/
abbrev Pointer := Nat

abbrev Memory := Pointer → Region Byte

inductive IsoTpResult where
  | ok
  | pending
  | error
  | timeout
  | overflow
  | wrongSn
  deriving DecidableEq, Repr

structure IsoTpConfig where
  rxId : Word
  txId : Word
  blockSize : Byte
  stMinMs : Byte
  nBsMs : Word
  nCrMs : Word
  deriving DecidableEq

def kDefaultIsoTpConfig : IsoTpConfig := ⟨0x7DF, 0x7E8, 0, 0, 1000, 1000⟩

def maxPayload : Nat := 4096

def kFc : Byte := 0x30
def kFcCts : Byte := 0x00
def kFcWait : Byte := 0x01
def kFcOvfl : Byte := 0x02

inductive RxState where
  | idle
  | receiving
  deriving DecidableEq, Repr

inductive TxState where
  | idle
  | waitFc
  | sending
  deriving DecidableEq, Repr

structure IsoTp where
  cfg : IsoTpConfig
  rxState : RxState
  rxBuf : Region Byte
  rxExpected : Nat
  rxReceived : Nat
  rxSn : Byte
  rxDeadline : Word
  dataReady : Bool
  txState : TxState
  txData : Option Pointer
  txTotal : Nat
  txOffset : Nat
  txSn : Byte
  txBsCount : Byte
  txBsRem : Byte
  txStMin : Word
  txDeadline : Word

/-- What a call returns, the state it leaves, and the frames it handed to `ICanInterface::send`. -/
structure Outcome where
  result : IsoTpResult
  state : IsoTp
  sent : List CanFrame

def pciType (frame : CanFrame) : Byte := (frame.data 0 >>> 4) &&& 0x0F

def ffLength (frame : CanFrame) : BitVec 16 :=
  ((frame.data 0 &&& 0x0F).setWidth 16 <<< 8) ||| (frame.data 1).setWidth 16

def cfCopyLen (remaining : Nat) (frame : CanFrame) : Nat :=
  let copyLen := if remaining < 7 then remaining else 7
  if 0 < frame.dlc ∧ copyLen > frame.dlc.toNat - 1 then frame.dlc.toNat - 1 else copyLen

namespace IsoTp

/-- The constructor; `rxBuf` is the uninitialised receive buffer. -/
def create (cfg : IsoTpConfig) (rxBuf : Region Byte) : IsoTp where
  cfg := cfg
  rxState := .idle
  rxBuf := rxBuf
  rxExpected := 0
  rxReceived := 0
  rxSn := 0
  rxDeadline := 0
  dataReady := false
  txState := .idle
  txData := none
  txTotal := 0
  txOffset := 0
  txSn := 0
  txBsCount := 0
  txBsRem := 0
  txStMin := 0
  txDeadline := 0

/-- `kFC << 4` is an `int`: the frame type nibble lies above the byte the cast keeps. -/
def fcFrame (s : IsoTp) (fs bs stMin : Byte) : CanFrame :=
  let pci : Byte := ((kFc.setWidth 32 <<< 4) ||| (fs &&& 0x0F).setWidth 32).setWidth 8
  .make s.cfg.txId [pci, bs, stMin] 3

def handleSf (s : IsoTp) (frame : CanFrame) : Outcome :=
  let len := frame.data 0 &&& 0x0F
  if len = 0 ∨ frame.dlc < 1 ∨ len > frame.dlc - 1 then ⟨.error, s, []⟩
  else if len.toNat > maxPayload then ⟨.overflow, s, []⟩
  else
    ⟨.ok, { s with
      rxState := .idle
      rxExpected := len.toNat
      rxReceived := len.toNat
      rxBuf := s.rxBuf.store 0 (frame.data.load 1 len.toNat)
      dataReady := true }, []⟩

def handleFf (can : ICanInterface) (s : IsoTp) (frame : CanFrame) : Outcome :=
  if frame.dlc < 8 then ⟨.error, s, []⟩
  else
    let len := (ffLength frame).toNat
    if len < 8 then ⟨.error, s, []⟩
    else if len > maxPayload then ⟨.overflow, s, [s.fcFrame kFcOvfl 0 0]⟩
    else
      ⟨.pending, { s with
        dataReady := false
        rxExpected := len
        rxReceived := 6
        rxSn := 1
        rxState := .receiving
        rxDeadline := can.getTickMs + s.cfg.nCrMs
        rxBuf := s.rxBuf.store 0 (frame.data.load 2 6) },
        [s.fcFrame kFcCts s.cfg.blockSize s.cfg.stMinMs]⟩

def handleCf (can : ICanInterface) (s : IsoTp) (frame : CanFrame) : Outcome :=
  if s.rxState ≠ .receiving then ⟨.error, s, []⟩
  else if frame.data 0 &&& 0x0F ≠ s.rxSn then ⟨.wrongSn, s, []⟩
  else
    let advanced := { s with rxSn := (s.rxSn + 1) &&& 0x0F }
    let copyLen := cfCopyLen (s.rxExpected - s.rxReceived) frame
    if s.rxReceived + copyLen > maxPayload then ⟨.overflow, advanced, []⟩
    else
      let copied := { advanced with
        rxBuf := s.rxBuf.store s.rxReceived (frame.data.load 1 copyLen)
        rxReceived := s.rxReceived + copyLen
        rxDeadline := can.getTickMs + s.cfg.nCrMs }
      if copied.rxReceived ≥ copied.rxExpected then
        ⟨.ok, { copied with
          rxReceived := copied.rxExpected
          rxState := .idle
          dataReady := true }, []⟩
      else ⟨.pending, copied, []⟩

def txBytes (mem : Memory) (s : IsoTp) : Region Byte :=
  match s.txData with
  | some data => mem data
  | none => Region.fill 0

def txCopyLen (s : IsoTp) : Nat :=
  let remaining := s.txTotal - s.txOffset
  if remaining < 7 then remaining else 7

def cfFrame (mem : Memory) (s : IsoTp) : CanFrame :=
  .make s.cfg.txId ((0x20 ||| (s.txSn &&& 0x0F)) :: (s.txBytes mem).load s.txOffset s.txCopyLen)
    (BitVec.ofNat 8 (s.txCopyLen + 1))

/-- The `while` loop of `send_next_cf`. Every round moves `txOffset`, so the number of
    bytes left bounds the rounds; `sent` are the frames of the earlier rounds. -/
def sendNextCfLoop (can : ICanInterface) (mem : Memory) : Nat → IsoTp → List CanFrame → Outcome
  | 0, s, sent => ⟨.ok, { s with txState := .idle }, sent⟩
  | rounds + 1, s, sent =>
    if s.txOffset < s.txTotal then
      if s.txBsRem ≠ 0 ∧ s.txBsCount ≥ s.txBsRem then
        ⟨.pending, { s with
          txState := .waitFc
          txDeadline := can.getTickMs + s.cfg.nBsMs
          txBsCount := 0 }, sent⟩
      else if can.send sent.length then
        sendNextCfLoop can mem rounds { s with
          txOffset := s.txOffset + s.txCopyLen
          txSn := (s.txSn + 1) &&& 0x0F
          txBsCount := s.txBsCount + 1 } (sent ++ [s.cfFrame mem])
      -- a refused frame leaves the transmitter in `sending`
      else ⟨.error, s, sent ++ [s.cfFrame mem]⟩
    else ⟨.ok, { s with txState := .idle }, sent⟩

def sendNextCf (can : ICanInterface) (mem : Memory) (s : IsoTp) : Outcome :=
  sendNextCfLoop can mem (s.txTotal - s.txOffset) s []

def handleFc (can : ICanInterface) (mem : Memory) (s : IsoTp) (frame : CanFrame) : Outcome :=
  if s.txState ≠ .waitFc then ⟨.error, s, []⟩
  else if frame.dlc < 3 then ⟨.error, s, []⟩
  else
    let fs := frame.data 0 &&& 0x0F
    let bs := frame.data 1
    let st := frame.data 2
    if fs = kFcOvfl then ⟨.overflow, s, []⟩
    else if fs = kFcWait then
      ⟨.pending, { s with txDeadline := can.getTickMs + s.cfg.nBsMs }, []⟩
    else if fs ≠ kFcCts then ⟨.error, s, []⟩
    else
      sendNextCf can mem { s with
        txBsRem := bs
        txBsCount := 0
        txStMin := if st ≤ 0x7F then st.setWidth 32 else 1
        txState := .sending }

def processFrame (can : ICanInterface) (mem : Memory) (s : IsoTp) (frame : CanFrame) : Outcome :=
  if frame.id ≠ s.cfg.rxId ∨ frame.dlc = 0 then ⟨.error, s, []⟩
  else if pciType frame = 0x0 then s.handleSf frame
  else if pciType frame = 0x1 then s.handleFf can frame
  else if pciType frame = 0x2 then s.handleCf can frame
  else if pciType frame = 0x3 then s.handleFc can mem frame
  else ⟨.error, s, []⟩

def sfFrame (mem : Memory) (s : IsoTp) (data : Pointer) (length : Nat) : CanFrame :=
  .make s.cfg.txId (BitVec.ofNat 8 (length &&& 0x0F) :: (mem data).load 0 length) (BitVec.ofNat 8 (length + 1))

def ffFrame (mem : Memory) (s : IsoTp) (data : Pointer) (length : Nat) : CanFrame :=
  .make s.cfg.txId (BitVec.ofNat 8 (0x10 ||| ((length >>> 8) &&& 0x0F)) ::
    BitVec.ofNat 8 (length &&& 0xFF) :: (mem data).load 0 6) 8

/-- `none` is the null pointer. -/
def send (can : ICanInterface) (mem : Memory) (s : IsoTp) (data : Option Pointer) (length : Nat) : Outcome :=
  match data with
  | none => ⟨.error, s, []⟩
  | some data =>
    if length = 0 ∨ length > maxPayload then ⟨.error, s, []⟩
    else if length ≤ 7 then
      ⟨if can.send 0 then .ok else .error, s, [s.sfFrame mem data length]⟩
    else if can.send 0 then
      ⟨.pending, { s with
        txData := some data
        txTotal := length
        txOffset := 6
        txSn := 1
        txBsCount := 0
        txBsRem := 0
        txState := .waitFc
        txDeadline := can.getTickMs + s.cfg.nBsMs }, [s.ffFrame mem data length]⟩
    else ⟨.error, s, [s.ffFrame mem data length]⟩

/-- The bytes copied into the caller's buffer; `given` says that the buffer is not null. -/
def getData (s : IsoTp) (given : Bool) (maxLen : Nat) : List Byte × IsoTp :=
  if s.dataReady = false ∨ given = false then ([], s)
  else
    let n := if s.rxReceived < maxLen then s.rxReceived else maxLen
    (s.rxBuf.load 0 n, { s with dataReady := false, rxReceived := 0 })

def updateRx (now : Word) (s : IsoTp) : IsoTp :=
  if s.rxState = .receiving ∧ s.rxDeadline > 0 ∧ now ≥ s.rxDeadline then
    { s with rxState := .idle, rxReceived := 0, rxExpected := 0, rxDeadline := 0 }
  else s

def updateTx (now : Word) (s : IsoTp) : IsoTp :=
  if s.txState = .waitFc ∧ s.txDeadline > 0 ∧ now ≥ s.txDeadline then { s with txState := .idle }
  else s

def update (now : Word) (s : IsoTp) : IsoTp := updateTx now (updateRx now s)

end IsoTp

inductive Event where
  | frame (can : ICanInterface) (mem : Memory) (frame : CanFrame)
  | update (now : Word)
  | send (can : ICanInterface) (mem : Memory) (data : Option Pointer) (length : Nat)
  | getData (given : Bool) (maxLen : Nat)

inductive Output where
  | result (result : IsoTpResult) (sent : List CanFrame)
  | data (bytes : List Byte)
  | none

def Outcome.reply (outcome : Outcome) : IsoTp × Output := (outcome.state, .result outcome.result outcome.sent)

def isoTp : Machine IsoTp Event Output where
  step s
    | .frame can mem frame => (s.processFrame can mem frame).reply
    | .update now => (s.update now, .none)
    | .send can mem data length => (s.send can mem data length).reply
    | .getData given maxLen => ((s.getData given maxLen).2, .data (s.getData given maxLen).1)

@[simp] theorem isoTp_next_send (s : IsoTp) (can : ICanInterface) (mem : Memory) (data : Option Pointer)
    (length : Nat) : isoTp.next s (.send can mem data length) = (s.send can mem data length).state := rfl

@[simp] theorem isoTp_next_getData (s : IsoTp) (given : Bool) (maxLen : Nat) :
    isoTp.next s (.getData given maxLen) = (s.getData given maxLen).2 := rfl

end Uds.Transport
