import PulseEcu.Dtc.DtcManager
import PulseEcu.Services.HandlerContract

open Foundation

namespace Uds

open Dtc

namespace ClearDiagnosticInformationService

def serviceId : ServiceId := .clearDiagnosticInformation

def groupOf (req : Region Byte) : Word :=
  ((req 1).setWidth 32 <<< 16) ||| ((req 2).setWidth 32 <<< 8) ||| (req 3).setWidth 32

/-- The manager that the service refers to is its state. -/
def handle (req : Region Byte) (reqLen : Nat) (resp : Region Byte) (_respLen : Nat) (_session : UdsSession)
    (manager : DtcManager) : Handled Empty DtcManager :=
  if reqLen < 4 then negative resp serviceId .incorrectMessageLengthOrInvalidFormat manager []
  else
    let group := groupOf req
    let cleared := if group = 0xFFFFFF then manager.clearAll else manager.clearGroup group
    ⟨⟨true, resp.store 0 [serviceId + 0x40], 1, cleared⟩, []⟩

def Accepts (reqLen : Nat) : Prop := 4 ≤ reqLen

variable (req : Region Byte) (reqLen : Nat) (resp : Region Byte) (respLen : Nat) (session : UdsSession)
  (manager : DtcManager)

theorem handle_serves (report : Empty → Report) : Serves serviceId manager (· = manager) report (Accepts reqLen)
    (handle req reqLen resp respLen session manager) := by
  unfold handle
  by_cases short : reqLen < 4
  · rw [if_pos short]
    exact .refuse (Nat.not_le.mpr short) ..
  · rw [if_neg short]
    exact .answered (Nat.le_of_not_lt short) rfl Nat.one_pos

theorem handle_fits (room : 3 ≤ respLen) :
    Fits respLen resp (handle req reqLen resp respLen session manager).toAnswer := by
  have kept := Region.KeptFrom.refl respLen resp
  unfold handle
  split
  · exact .negative kept room ..
  · have inside : 1 ≤ respLen := by omega
    exact .header kept [serviceId + 0x40] inside ..

end ClearDiagnosticInformationService

namespace ReadDtcSubFunc

def reportNumberOfDtcByStatusMask : Byte := 0x01
def reportDtcByStatusMask : Byte := 0x02
def reportSupportedDtc : Byte := 0x0A

end ReadDtcSubFunc

namespace ReadDtcInformationService

def serviceId : ServiceId := .readDtcInformation

structure DtcWriteCtx where
  buf : Region Byte
  pos : Nat
  max : Nat
  mask : Byte

def writeDtc (e : DtcEntry) (c : DtcWriteCtx) : Bool × DtcWriteCtx :=
  if c.pos + 4 > c.max then (false, c)
  else
    let bytes := [((e.dtcCode >>> 16) &&& 0xFF).setWidth 8, ((e.dtcCode >>> 8) &&& 0xFF).setWidth 8,
      (e.dtcCode &&& 0xFF).setWidth 8, e.status &&& c.mask]
    (true, { c with buf := c.buf.store c.pos bytes, pos := c.pos + 4 })

def handleReportByStatus (manager : DtcManager) (mask : Byte) (resp : Region Byte) (pos max : Nat) : Region Byte × Nat :=
  let ctx := manager.forEach mask writeDtc ⟨resp, pos, max, mask⟩
  (ctx.buf, ctx.pos)

def handleReportCount (manager : DtcManager) (mask : Byte) (resp : Region Byte) (pos : Nat) : Region Byte × Nat :=
  let cnt := manager.countByStatus mask
  (resp.store pos [0xFF, 0x01, BitVec.ofNat 8 (cnt >>> 8), BitVec.ofNat 8 (cnt &&& 0xFF)], pos + 4)

def handle (req : Region Byte) (reqLen : Nat) (resp : Region Byte) (respLen : Nat) (_session : UdsSession)
    (manager : DtcManager) : Handled Empty DtcManager :=
  if reqLen < 2 then negative resp serviceId .incorrectMessageLengthOrInvalidFormat manager []
  else
    let sub := req 1
    let header := resp.store 0 [serviceId + 0x40, sub]
    if sub = ReadDtcSubFunc.reportNumberOfDtcByStatusMask then
      if reqLen < 3 then negative header serviceId .incorrectMessageLengthOrInvalidFormat manager []
      else
        let report := handleReportCount manager (req 2) header 2
        ⟨⟨true, report.1, report.2, manager⟩, []⟩
    else if sub = ReadDtcSubFunc.reportDtcByStatusMask ∨ sub = ReadDtcSubFunc.reportSupportedDtc then
      if reqLen < 3 then negative header serviceId .incorrectMessageLengthOrInvalidFormat manager []
      else
        let report := handleReportByStatus manager (req 2) (header.store 2 [0xFF]) 3 respLen
        ⟨⟨true, report.1, report.2, manager⟩, []⟩
    else negative header serviceId .subFunctionNotSupported manager []

def Reports (sub : Byte) : Prop :=
  sub = ReadDtcSubFunc.reportNumberOfDtcByStatusMask ∨ sub = ReadDtcSubFunc.reportDtcByStatusMask ∨
    sub = ReadDtcSubFunc.reportSupportedDtc

def Accepts (req : Region Byte) (reqLen : Nat) : Prop := 3 ≤ reqLen ∧ Reports (req 1)

structure Written (resp : Region Byte) (max : Nat) (c : DtcWriteCtx) : Prop where
  space : c.max = max
  started : 1 ≤ c.pos
  inside : 3 ≤ max → c.pos ≤ max
  first : c.buf 0 = resp 0
  kept : Region.KeptFrom max resp c.buf

theorem Written.writeDtc {resp : Region Byte} {max : Nat} {c : DtcWriteCtx} (written : Written resp max c) (e : DtcEntry) :
    Written resp max (writeDtc e c).2 := by
  have started := written.started
  have space := written.space
  unfold ReadDtcInformationService.writeDtc
  split
  · exact written
  · rename_i fits
    constructor
    · exact space
    · exact Nat.le_add_right_of_le started
    · intro _
      show c.pos + 4 ≤ max
      omega
    · exact (Region.store_before _ _ _ _ started).trans written.first
    · apply written.kept.store
      show c.pos + 4 ≤ max
      omega

variable (req : Region Byte) (reqLen : Nat) (resp : Region Byte) (respLen : Nat) (session : UdsSession)
  (manager : DtcManager)

theorem handleReportByStatus_written (mask : Byte) (max : Nat) :
    Written resp max ⟨(handleReportByStatus manager mask resp 3 max).1,
      (handleReportByStatus manager mask resp 3 max).2, max, mask⟩ := by
  have started : Written resp max ⟨resp, 3, max, mask⟩ := 
    ⟨rfl, Nat.le_add_left 1 2, id, rfl, .refl max resp⟩
  have step : ∀ e c, Written resp max c → Written resp max (writeDtc e c).2 := fun e _ written => written.writeDtc e
  have whole := manager.forEach_keeps mask writeDtc step _ started
  exact ⟨rfl, whole.started, whole.inside, whole.first, whole.kept⟩

theorem handle_serves (report : Empty → Report) : Serves serviceId manager (· = manager) report
    (Accepts req reqLen) (handle req reqLen resp respLen session manager) := by
  unfold handle
  by_cases short : reqLen < 2
  · rw [if_pos short]
    exact .refuse (fun accepts => absurd accepts.1 (by omega)) ..
  · rw [if_neg short]
    dsimp only
    have refuse : reqLen < 3 → ¬ Accepts req reqLen := fun short accepts => absurd short (Nat.not_lt.mpr accepts.1)
    by_cases count : req 1 = ReadDtcSubFunc.reportNumberOfDtcByStatusMask
    · rw [if_pos count]
      by_cases noMask : reqLen < 3
      · rw [if_pos noMask]
        exact .refuse (refuse noMask) ..
      · rw [if_neg noMask]
        exact .answered ⟨Nat.le_of_not_lt noMask, Or.inl count⟩ rfl (Nat.succ_pos _)
    · rw [if_neg count]
      by_cases list : req 1 = ReadDtcSubFunc.reportDtcByStatusMask ∨ req 1 = ReadDtcSubFunc.reportSupportedDtc
      · rw [if_pos list]
        by_cases noMask : reqLen < 3
        · rw [if_pos noMask]
          exact .refuse (refuse noMask) ..
        · rw [if_neg noMask]
          have written := handleReportByStatus_written ((resp.store 0 [serviceId + 0x40, req 1]).store 2 [0xFF]) manager
            (req 2) respLen
          exact .answered ⟨Nat.le_of_not_lt noMask, Or.inr list⟩ written.first written.started
      · rw [if_neg list]
        exact .refuse (fun accepts => accepts.2.elim count list) ..

theorem handle_fits (room : 6 ≤ respLen) :
    Fits respLen resp (handle req reqLen resp respLen session manager).toAnswer := by
  have three : 3 ≤ respLen := by omega
  have kept := Region.KeptFrom.refl respLen resp
  have header : Region.KeptFrom respLen resp (resp.store 0 [serviceId + 0x40, req 1]) := kept.store (by simp; omega)
  unfold handle
  dsimp only
  split
  · exact .negative kept three ..
  · split
    · split
      · exact .negative header three ..
      · exact ⟨room, header.store room⟩
    · split
      · split
        · exact .negative header three ..
        · have mask : Region.KeptFrom respLen resp ((resp.store 0 [serviceId + 0x40, req 1]).store 2 [0xFF]) :=
            header.store three
          have written := handleReportByStatus_written ((resp.store 0 [serviceId + 0x40, req 1]).store 2 [0xFF]) manager
            (req 2) respLen
          exact ⟨written.inside three, mask.trans written.kept⟩
      · exact .negative header three ..

end ReadDtcInformationService

inductive DtcSettingType where
  | on
  | off
  deriving DecidableEq, Repr

/-- The cast from a byte that was checked to be one of the two. -/
def DtcSettingType.ofByte (b : Byte) : DtcSettingType := if b = 0x01 then .on else .off

structure DtcSettingCall where
  setting : DtcSettingType
  record : List Byte
  deriving DecidableEq

/-- The callback gets the setting, the record, if there is one, and its length. -/
structure ControlDtcSettingService (σ : Type) where
  callback : Option (DtcSettingType → Option (Region Byte) → Nat → σ → σ)

namespace ControlDtcSettingService

variable {σ : Type}

def serviceId : ServiceId := .controlDtcSetting

def handle (svc : ControlDtcSettingService σ) (req : Region Byte) (reqLen : Nat) (resp : Region Byte) (_respLen : Nat)
    (session : UdsSession) (state : σ) : Handled DtcSettingCall σ :=
  if reqLen < 2 then negative resp serviceId .incorrectMessageLengthOrInvalidFormat state []
  else
    let sub := req 1 &&& 0x7F
    let suppress := decide (req 1 &&& 0x80 ≠ 0)
    if sub ≠ 0x01 ∧ sub ≠ 0x02 then negative resp serviceId .subFunctionNotSupported state []
    else if session.session = .default then negative resp serviceId .serviceNotSupportedInActiveSession state []
    else
      let record := if reqLen > 2 then some (req.advance 2) else none
      let recordLen := if reqLen > 2 then reqLen - 2 else 0
      let header := resp.store 0 [serviceId + 0x40, sub]
      match svc.callback with
      | none => ⟨⟨!suppress, header, 2, state⟩, []⟩
      | some callback =>
        ⟨⟨!suppress, header, 2, callback (.ofByte sub) record recordLen state⟩,
          [⟨.ofByte sub, req.load 2 recordLen⟩]⟩

def Accepts (req : Region Byte) (reqLen : Nat) (session : UdsSession) : Prop :=
  2 ≤ reqLen ∧ (req 1 &&& 0x7F = 0x01 ∨ req 1 &&& 0x7F = 0x02) ∧ session.session ≠ .default

variable (svc : ControlDtcSettingService σ) (req : Region Byte) (reqLen : Nat) (resp : Region Byte) (respLen : Nat)
  (session : UdsSession) (state : σ)

theorem handle_serves (report : DtcSettingCall → Report) : Serves serviceId state (fun _ => True) report
    (Accepts req reqLen session) (svc.handle req reqLen resp respLen session state) := by
  unfold handle
  by_cases short : reqLen < 2
  · rw [if_pos short]
    exact .refuse (fun accepts => absurd short (Nat.not_lt.mpr accepts.1)) ..
  · rw [if_neg short]
    dsimp only
    by_cases other : req 1 &&& 0x7F ≠ 0x01 ∧ req 1 &&& 0x7F ≠ 0x02
    · rw [if_pos other]
      exact .refuse (fun accepts => accepts.2.1.elim other.1 other.2) ..
    · rw [if_neg other]
      by_cases gated : session.session = .default
      · rw [if_pos gated]
        exact .refuse (fun accepts => accepts.2.2 gated) ..
      · rw [if_neg gated]
        have accepted : Accepts req reqLen session := 
          ⟨Nat.le_of_not_lt short,
            (Decidable.not_and_iff_or_not.mp other).imp Decidable.not_not.mp Decidable.not_not.mp, gated⟩
        cases svc.callback with
        | none => exact .answered accepted rfl Nat.two_pos
        | some callback => exact .answered accepted rfl Nat.two_pos

theorem handle_fits (room : 3 ≤ respLen) :
    Fits respLen resp (svc.handle req reqLen resp respLen session state).toAnswer := by
  have kept := Region.KeptFrom.refl respLen resp
  have two : 2 ≤ respLen := by omega
  unfold handle
  split
  · exact .negative kept room ..
  · dsimp only
    split
    · exact .negative kept room ..
    · split
      · exact .negative kept room ..
      · cases svc.callback with
        | none => exact .header kept [serviceId + 0x40, req 1 &&& 0x7F] two ..
        | some callback => exact .header kept [serviceId + 0x40, req 1 &&& 0x7F] two ..

end ControlDtcSettingService

end Uds
