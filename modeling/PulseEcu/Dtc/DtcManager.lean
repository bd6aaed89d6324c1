import PulseEcu.Foundation.Region
import PulseEcu.Types

open Foundation

namespace Uds.Dtc

namespace DtcStatus

def kTestFailed : Byte := 0x01
def kTestFailedThisOpCycle : Byte := 0x02
def kPendingDtc : Byte := 0x04
def kConfirmedDtc : Byte := 0x08
def kTestNotCompletedSinceLastClear : Byte := 0x10
def kTestFailedSinceLastClear : Byte := 0x20
def kTestNotCompletedThisOpCycle : Byte := 0x40

end DtcStatus

def kMaxDtcs : Nat := 64

structure DtcEntry where
  dtcCode : Word
  status : Byte
  severity : Byte
  active : Bool
  snapshot : Region Byte
  snapshotLen : Nat
  extData : Region Byte
  extDataLen : Nat

/-- `m_dtcs` up to `m_count`. -/
structure DtcManager where
  dtcs : List DtcEntry

namespace DtcManager

def create : DtcManager := ⟨[]⟩

def find (m : DtcManager) (code : Word) : Option DtcEntry :=
  m.dtcs.find? fun e => e.dtcCode = code &&& 0xFFFFFF

def freshStatus : Byte := DtcStatus.kTestNotCompletedSinceLastClear ||| DtcStatus.kTestNotCompletedThisOpCycle

def registerDtc (m : DtcManager) (code : Word) (severity : Byte) : Int × DtcManager :=
  if m.dtcs.length ≥ kMaxDtcs then (-1, m)
  else if (m.find code).isSome then (-1, m)
  else
    (m.dtcs.length, ⟨m.dtcs ++ [⟨code &&& 0xFFFFFF, freshStatus, severity, true, Region.fill 0, 0, Region.fill 0, 0⟩]⟩)

def clearAll (m : DtcManager) : DtcManager :=
  ⟨m.dtcs.map fun e => { e with status := freshStatus, snapshotLen := 0, extDataLen := 0 }⟩

def clearGroup (m : DtcManager) (groupMask : Word) : DtcManager :=
  ⟨m.dtcs.map fun e =>
    if groupMask = 0xFFFFFF ∨ e.dtcCode &&& groupMask = groupMask &&& 0xFFFFFF then
      { e with status := freshStatus, snapshotLen := 0 }
    else e⟩

def modify (m : DtcManager) (code : Word) (write : DtcEntry → DtcEntry) : DtcManager :=
  ⟨m.dtcs.modify (m.dtcs.findIdx fun e => e.dtcCode = code &&& 0xFFFFFF) write⟩

def tested (failed : Bool) (status : Byte) : Byte :=
  let status := status &&& ~~~DtcStatus.kTestNotCompletedThisOpCycle
  let status := status &&& ~~~DtcStatus.kTestNotCompletedSinceLastClear
  if failed then
    let status := status ||| DtcStatus.kTestFailed
    let status := status ||| DtcStatus.kTestFailedThisOpCycle
    let status := status ||| DtcStatus.kTestFailedSinceLastClear
    let status := status ||| DtcStatus.kPendingDtc
    status ||| DtcStatus.kConfirmedDtc
  else
    let status := status &&& ~~~DtcStatus.kTestFailed
    let status := status &&& ~~~DtcStatus.kTestFailedThisOpCycle
    status &&& ~~~DtcStatus.kPendingDtc

def record (failed : Bool) (e : DtcEntry) : DtcEntry := { e with status := tested failed e.status }

def setTestResult (m : DtcManager) (code : Word) (failed : Bool) : DtcManager :=
  match m.find code with
  | none => m
  | some e => if e.active then m.modify code (record failed) else m

def cycled (status : Byte) : Byte :=
  (status &&& ~~~DtcStatus.kTestFailedThisOpCycle) ||| DtcStatus.kTestNotCompletedThisOpCycle

def endCycle (e : DtcEntry) : DtcEntry := { e with status := cycled e.status }

def updateOpCycle (m : DtcManager) : DtcManager := ⟨m.dtcs.map endCycle⟩

def kSnapshotSize : Nat := 64

def keep (data : Region Byte) (len : Nat) (e : DtcEntry) : DtcEntry :=
  let copy := if len < kSnapshotSize then len else kSnapshotSize
  { e with snapshot := e.snapshot.store 0 (data.load 0 copy), snapshotLen := copy }

/-- The body that `set_snapshot` and `set_freeze_frame` share; the data may be a null pointer. -/
def capture (m : DtcManager) (code : Word) (data : Option (Region Byte)) (len : Nat) : Bool × DtcManager :=
  match m.find code, data with
  | some _, some data => (true, m.modify code (keep data len))
  | _, _ => (false, m)

def setSnapshot (m : DtcManager) (code : Word) (data : Option (Region Byte)) (len : Nat) : Bool × DtcManager :=
  m.capture code data len

def setFreezeFrame (m : DtcManager) (code : Word) (_recordNum : Byte) (data : Option (Region Byte)) (len : Nat) :
    Bool × DtcManager :=
  m.capture code data len

/-- The number of bytes copied, and the memory behind `out`, which may be a null pointer. -/
def getFreezeFrame (m : DtcManager) (code : Word) (_recordNum : Byte) (out : Option (Region Byte)) (maxLen : Nat) :
    Nat × Option (Region Byte) :=
  match m.find code with
  | none => (0, out)
  | some e =>
    if e.snapshotLen = 0 then (0, out)
    else
      match out with
      | none => (0, out)
      | some cells =>
        let copy := if e.snapshotLen < maxLen then e.snapshotLen else maxLen
        (copy, some (cells.store 0 (e.snapshot.load 0 copy)))

def Selected (statusMask : Byte) (e : DtcEntry) : Prop := statusMask = 0xFF ∨ e.status &&& statusMask ≠ 0

instance (statusMask : Byte) (e : DtcEntry) : Decidable (Selected statusMask e) :=
  inferInstanceAs (Decidable (_ ∨ _))

def countByStatus (m : DtcManager) (statusMask : Byte) : Nat := m.dtcs.countP fun e => Selected statusMask e

/-- The loop of `for_each`; a callback that returns false ends it. -/
def visit {α : Type} (statusMask : Byte) (callback : DtcEntry → α → Bool × α) : List DtcEntry → α → α
  | [], ctx => ctx
  | e :: dtcs, ctx =>
    if Selected statusMask e then
      if (callback e ctx).1 then visit statusMask callback dtcs (callback e ctx).2 else (callback e ctx).2
    else visit statusMask callback dtcs ctx

def forEach {α : Type} (m : DtcManager) (statusMask : Byte) (callback : DtcEntry → α → Bool × α) (ctx : α) : α :=
  visit statusMask callback m.dtcs ctx

theorem forEach_keeps {α : Type} {Kept : α → Prop} (m : DtcManager) (statusMask : Byte)
    (callback : DtcEntry → α → Bool × α) (step : ∀ e ctx, Kept ctx → Kept (callback e ctx).2) (ctx : α)
    (kept : Kept ctx) : Kept (m.forEach statusMask callback ctx) := by
  unfold forEach
  induction m.dtcs generalizing ctx with
  | nil => exact kept
  | cons e dtcs ih =>
    unfold visit
    split
    · split
      · exact ih _ (step e ctx kept)
      · exact step e ctx kept
    · exact ih ctx kept

end DtcManager

end Uds.Dtc
