import Mathlib.Data.List.Nodup
import Mathlib.Data.List.Perm.Subperm
import PulseEcu.Dtc.Registry
import PulseEcu.Foundation.BigEndian
import PulseEcu.Services.DtcServices

open Foundation

namespace Uds

open Dtc

structure DtcRecord where
  code : Nat
  status : Byte
  deriving DecidableEq

namespace DtcRecord

def readAll : List Byte → List DtcRecord
  | high :: middle :: low :: status :: rest => ⟨bigEndian [high, middle, low], status⟩ :: readAll rest
  | _ => []

end DtcRecord

namespace ReadDtcInformationService

open DtcManager

def records (message : List Byte) : List DtcRecord := DtcRecord.readAll (message.drop 3)

def announced (message : List Byte) : Nat := bigEndian (message.drop 4)

def statusReported (message : List Byte) (code : Word) : Option Byte :=
  ((records message).find? fun record => record.code = code.toNat).map DtcRecord.status

structure Asks (sub mask : Byte) (req : Region Byte) (reqLen : Nat) : Prop where
  subFunction : req 1 = sub
  statusMask : req 2 = mask
  complete : 3 ≤ reqLen

def query (sub mask : Byte) : Region Byte := (Region.fill 0).store 0 [serviceId, sub, mask]

theorem query_asks (sub mask : Byte) : Asks sub mask (query sub mask) 3 := ⟨rfl, rfl, Nat.le_refl 3⟩

def recordBytes (mask : Byte) (e : DtcEntry) : List Byte :=
  [((e.dtcCode >>> 16) &&& 0xFF).setWidth 8, ((e.dtcCode >>> 8) &&& 0xFF).setWidth 8,
    (e.dtcCode &&& 0xFF).setWidth 8, e.status &&& mask]

def listed (manager : DtcManager) (mask : Byte) (space : Nat) : List DtcEntry :=
  (manager.dtcs.filter fun e => Selected mask e).take ((space - 3) / 4)

theorem byte_toNat (code : Word) (n : Nat) :
    (((code >>> n) &&& 0xFF).setWidth 8).toNat = code.toNat / 2 ^ n % 256 := by
  have low : code.toNat >>> n &&& 0xFF = code.toNat >>> n % 2 ^ 8 := Nat.and_two_pow_sub_one_eq_mod _ 8
  rw [BitVec.toNat_setWidth, BitVec.toNat_and, BitVec.toNat_ushiftRight]
  show (code.toNat >>> n &&& 0xFF) % 2 ^ 8 = code.toNat / 2 ^ n % 2 ^ 8
  rw [low, Nat.mod_mod, Nat.shiftRight_eq_div_pow]

theorem bigEndian_code (code : Word) (below : code.toNat < 2 ^ 24) :
    bigEndian [((code >>> 16) &&& 0xFF).setWidth 8, ((code >>> 8) &&& 0xFF).setWidth 8, (code &&& 0xFF).setWidth 8] =
      code.toNat := by
  have low := byte_toNat code 0
  rw [BitVec.ushiftRight_zero] at low
  simp only [bigEndian, List.foldl_cons, List.foldl_nil, byte_toNat, low]
  omega

theorem readAll_records (mask : Byte) (dtcs : List DtcEntry) (below : ∀ e ∈ dtcs, e.dtcCode.toNat < 2 ^ 24) :
    DtcRecord.readAll (dtcs.flatMap (recordBytes mask)) =
      dtcs.map fun e => ⟨e.dtcCode.toNat, e.status &&& mask⟩ := by
  induction dtcs with
  | nil => rfl
  | cons e dtcs ih =>
    obtain ⟨first, others⟩ := List.forall_mem_cons.mp below
    rw [List.flatMap_cons, recordBytes, List.map_cons, ← ih others, ← bigEndian_code e.dtcCode first]
    rfl

theorem records_length (mask : Byte) (dtcs : List DtcEntry) : (dtcs.flatMap (recordBytes mask)).length = 4 * dtcs.length := by
  induction dtcs with
  | nil => rfl
  | cons e dtcs ih =>
    rw [List.flatMap_cons, List.length_append, ih, List.length_cons]
    show 4 + 4 * dtcs.length = 4 * (dtcs.length + 1)
    omega

theorem visit_writes (mask : Byte) (dtcs : List DtcEntry) (c : DtcWriteCtx) :
    ((visit mask writeDtc dtcs c).pos =
        c.pos + 4 * ((dtcs.filter fun e => Selected mask e).take ((c.max - c.pos) / 4)).length) ∧
      (visit mask writeDtc dtcs c).buf.load 0 (visit mask writeDtc dtcs c).pos = c.buf.load 0 c.pos ++
        ((dtcs.filter fun e => Selected mask e).take ((c.max - c.pos) / 4)).flatMap (recordBytes c.mask) := by
  induction dtcs generalizing c with
  | nil => simp [visit]
  | cons e dtcs ih =>
    unfold visit
    by_cases selected : Selected mask e
    · have kept : (e :: dtcs).filter (fun e => Selected mask e) = e :: dtcs.filter fun e => Selected mask e :=
        List.filter_cons_of_pos (by simpa using selected)
      rw [if_pos selected, kept]
      by_cases full : c.pos + 4 > c.max
      · have none : (c.max - c.pos) / 4 = 0 := by omega
        simp [writeDtc, full, none]
      · have room : (c.max - c.pos) / 4 = (c.max - (c.pos + 4)) / 4 + 1 := by omega
        have written : writeDtc e c = (true, { c with buf := c.buf.store c.pos (recordBytes c.mask e), pos := c.pos + 4 }) :=
          if_neg full
        rw [written, if_pos rfl, room, List.take_succ_cons]
        obtain ⟨place, bytes⟩ := ih { c with buf := c.buf.store c.pos (recordBytes c.mask e), pos := c.pos + 4 }
        have appended : (c.buf.store c.pos (recordBytes c.mask e)).load 0 (c.pos + 4) =
            c.buf.load 0 c.pos ++ recordBytes c.mask e := Region.load_store_append c.buf c.pos (recordBytes c.mask e)
        apply And.intro
        · dsimp only at place
          rw [place, List.length_cons]
          omega
        · rw [bytes, appended, List.flatMap_cons, List.append_assoc]
    · have passed : (e :: dtcs).filter (fun e => Selected mask e) = dtcs.filter fun e => Selected mask e :=
        List.filter_cons_of_neg (by simpa using selected)
      rw [if_neg selected, passed]
      exact ih c

variable {sub mask : Byte} {req : Region Byte} {reqLen : Nat} (resp : Region Byte) (respLen : Nat)
  (session : UdsSession) (manager : DtcManager)

theorem list_message (asks : Asks sub mask req reqLen)
    (list : sub = ReadDtcSubFunc.reportDtcByStatusMask ∨ sub = ReadDtcSubFunc.reportSupportedDtc) :
    (handle req reqLen resp respLen session manager).message =
      [serviceId + 0x40, sub, 0xFF] ++ (listed manager mask respLen).flatMap (recordBytes mask) := by
  obtain ⟨rfl, rfl, complete⟩ := asks
  have counts : req 1 ≠ ReadDtcSubFunc.reportNumberOfDtcByStatusMask := by
    intro same
    rw [same] at list
    revert list
    decide
  have header : ((resp.store 0 [serviceId + 0x40, req 1]).store 2 [0xFF]).load 0 3 = [serviceId + 0x40, req 1, 0xFF] := rfl
  have written := visit_writes (req 2) manager.dtcs ⟨(resp.store 0 [serviceId + 0x40, req 1]).store 2 [0xFF], 3, respLen, req 2⟩
  unfold handle
  rw [if_neg (by omega), if_neg counts, if_pos list, if_neg (by omega)]
  exact written.2.trans (congrArg (· ++ (listed manager (req 2) respLen).flatMap (recordBytes (req 2))) header)

theorem count_message (asks : Asks ReadDtcSubFunc.reportNumberOfDtcByStatusMask mask req reqLen) :
    (handle req reqLen resp respLen session manager).message =
      [serviceId + 0x40, ReadDtcSubFunc.reportNumberOfDtcByStatusMask, 0xFF, 0x01,
        BitVec.ofNat 8 (manager.countByStatus mask >>> 8), BitVec.ofNat 8 (manager.countByStatus mask &&& 0xFF)] := by
  obtain ⟨same, rfl, complete⟩ := asks
  unfold handle
  rw [if_neg (by omega), if_pos same, if_neg (by omega), same]
  rfl

theorem records_of_list (below : ∀ e ∈ manager.dtcs, e.dtcCode.toNat < 2 ^ 24) (asks : Asks sub mask req reqLen)
    (list : sub = ReadDtcSubFunc.reportDtcByStatusMask ∨ sub = ReadDtcSubFunc.reportSupportedDtc) :
    records (handle req reqLen resp respLen session manager).message =
      (listed manager mask respLen).map fun e => ⟨e.dtcCode.toNat, e.status &&& mask⟩ := by
  rw [records, list_message resp respLen session manager asks list]
  apply readAll_records
  intro e member
  exact below e (List.mem_filter.mp (List.mem_of_mem_take member)).1

theorem listed_whole (bound : manager.dtcs.length ≤ kMaxDtcs) (room : 3 + 4 * kMaxDtcs ≤ respLen) :
    listed manager mask respLen = manager.dtcs.filter fun e => Selected mask e := by
  apply List.take_of_length_le
  have selected := List.length_filter_le (fun e => decide (Selected mask e)) manager.dtcs
  omega

theorem announced_count (bound : manager.dtcs.length ≤ kMaxDtcs)
    (asks : Asks ReadDtcSubFunc.reportNumberOfDtcByStatusMask mask req reqLen) :
    announced (handle req reqLen resp respLen session manager).message = manager.countByStatus mask := by
  have counted : manager.countByStatus mask ≤ manager.dtcs.length := List.countP_le_length
  have small : manager.countByStatus mask < 256 := by
    have limit : kMaxDtcs = 64 := rfl
    omega
  have high : manager.countByStatus mask >>> 8 = 0 := by
    rw [Nat.shiftRight_eq_div_pow]
    omega
  have low : manager.countByStatus mask &&& 0xFF = manager.countByStatus mask := by
    rw [Nat.and_two_pow_sub_one_eq_mod _ 8]
    exact Nat.mod_eq_of_lt small
  rw [announced, count_message resp respLen session manager asks, high, low]
  show 256 * (256 * 0 + 0) + (BitVec.ofNat 8 (manager.countByStatus mask)).toNat = manager.countByStatus mask
  rw [BitVec.toNat_ofNat]
  omega

theorem codes_nodup (distinct : (manager.dtcs.map DtcEntry.dtcCode).Nodup) :
    (manager.dtcs.map fun e => e.dtcCode.toNat).Nodup := by
  have codes : ((manager.dtcs.map DtcEntry.dtcCode).map BitVec.toNat).Nodup :=
    List.Pairwise.map BitVec.toNat (fun _ _ differ same => differ (BitVec.eq_of_toNat_eq same)) distinct
  rwa [List.map_map] at codes

/-- The two reports about one mask: as many DTCs announced as records listed, and the records those
    of the selected DTCs. -/
structure CountMatchesList (manager : DtcManager) (mask : Byte) (counted list : List Byte) : Prop where
  countHeader : counted.take 4 = [serviceId + 0x40, ReadDtcSubFunc.reportNumberOfDtcByStatusMask, 0xFF, 0x01]
  countLength : counted.length = 6
  listHeader : list.take 3 = [serviceId + 0x40, ReadDtcSubFunc.reportDtcByStatusMask, 0xFF]
  listLength : list.length = 3 + 4 * (records list).length
  agree : announced counted = (records list).length
  codes : (records list).map DtcRecord.code =
    (manager.dtcs.filter fun e => Selected mask e).map fun e => e.dtcCode.toNat
  once : ((records list).map DtcRecord.code).Nodup

/-- In every reachable state the count and the list of the DTCs that a mask selects agree. -/
theorem count_matches_list (calls : List DtcCall) {countReq listReq : Region Byte} {countReqLen listReqLen : Nat}
    (counting : Asks ReadDtcSubFunc.reportNumberOfDtcByStatusMask mask countReq countReqLen)
    (listing : Asks ReadDtcSubFunc.reportDtcByStatusMask mask listReq listReqLen)
    (countResp listResp : Region Byte) (countRespLen listRespLen : Nat) (countSession listSession : UdsSession)
    (room : 3 + 4 * kMaxDtcs ≤ listRespLen) :
    CountMatchesList (machine.run create calls) mask
      (handle countReq countReqLen countResp countRespLen countSession (machine.run create calls)).message
      (handle listReq listReqLen listResp listRespLen listSession (machine.run create calls)).message := by
  have registry := registry_sound calls
  generalize machine.run create calls = manager at registry ⊢
  have counted := count_message countResp countRespLen countSession manager counting
  have list := list_message listResp listRespLen listSession manager listing (Or.inl rfl)
  have read := records_of_list listResp listRespLen listSession manager registry.below listing (Or.inl rfl)
  rw [listed_whole listRespLen manager registry.bound room] at list read
  have codes := congrArg (List.map DtcRecord.code) read
  rw [List.map_map] at codes
  constructor
  · rw [counted]
    rfl
  · rw [counted]
    rfl
  · rw [list]
    rfl
  · rw [read, list, List.length_append, records_length, List.length_map]
    rfl
  · rw [announced_count countResp countRespLen countSession manager registry.bound counting, read, List.length_map,
      countByStatus, List.countP_eq_length_filter]
  · exact codes
  · rw [codes]
    exact (codes_nodup manager registry.distinct).sublist (List.filter_sublist.map _)

theorem count_matches_list_pending : CountMatchesList
    (machine.run create [.registerDtc 0x123456 0, .registerDtc 0x654321 0, .setTestResult 0x654321 true]) 0x04
    (handle (query ReadDtcSubFunc.reportNumberOfDtcByStatusMask 0x04) 3 (Region.fill 0) 4095 (.create kDefaultTiming)
      (machine.run create [.registerDtc 0x123456 0, .registerDtc 0x654321 0, .setTestResult 0x654321 true])).message
    (handle (query ReadDtcSubFunc.reportDtcByStatusMask 0x04) 3 (Region.fill 0) 4095 (.create kDefaultTiming)
      (machine.run create [.registerDtc 0x123456 0, .registerDtc 0x654321 0, .setTestResult 0x654321 true])).message :=
  count_matches_list [.registerDtc 0x123456 0, .registerDtc 0x654321 0, .setTestResult 0x654321 true]
    (query_asks _ _) (query_asks _ _) (Region.fill 0) (Region.fill 0) 4095 4095 (.create kDefaultTiming)
    (.create kDefaultTiming) (by decide)

def Reached (manager : DtcManager) (mask : Byte) (i space : Nat) : Prop :=
  3 + 4 * ((manager.dtcs.take i).countP (fun e => Selected mask e) + 1) ≤ space

instance (manager : DtcManager) (mask : Byte) (i space : Nat) : Decidable (Reached manager mask i space) :=
  inferInstanceAs (Decidable (_ ≤ _))

theorem mem_listed {i : Nat} {e : DtcEntry} (distinct : (manager.dtcs.map DtcEntry.dtcCode).Nodup)
    (stored : manager.dtcs[i]? = some e) (selected : Selected mask e) :
    e ∈ listed manager mask respLen ↔ Reached manager mask i respLen := by
  obtain ⟨inside, same⟩ := List.getElem?_eq_some_iff.mp stored
  have whole : manager.dtcs = manager.dtcs.take i ++ e :: manager.dtcs.drop (i + 1) := by
    rw [← same, List.getElem_cons_drop, List.take_append_drop]
  have new : e ∉ manager.dtcs.take i := by
    have apart := distinct.of_map
    rw [whole] at apart
    exact fun earlier => (List.nodup_append.mp apart).2.2 e earlier e List.mem_cons_self rfl
  have reached : e ∈ listed manager mask respLen ↔
      (manager.dtcs.take i).countP (fun e => Selected mask e) < (respLen - 3) / 4 := by
    rw [listed]
    nth_rewrite 1 [whole]
    exact mem_take_filter (p := fun e => Selected mask e) (by simpa using selected) new _
  rw [reached, Reached]
  omega

theorem statusReported_list {i : Nat} {e : DtcEntry} (distinct : (manager.dtcs.map DtcEntry.dtcCode).Nodup)
    (below : ∀ e ∈ manager.dtcs, e.dtcCode.toNat < 2 ^ 24) (stored : manager.dtcs[i]? = some e)
    (selected : Selected mask e) (asks : Asks ReadDtcSubFunc.reportDtcByStatusMask mask req reqLen) :
    statusReported (handle req reqLen resp respLen session manager).message e.dtcCode =
      if Reached manager mask i respLen then some (e.status &&& mask) else none := by
  have registered := List.mem_of_getElem? stored
  have alone : ∀ other ∈ listed manager mask respLen, other.dtcCode.toNat = e.dtcCode.toNat → other = e := by
    intro other member same
    have known := (List.mem_filter.mp (List.mem_of_mem_take member)).1
    exact List.inj_on_of_nodup_map (codes_nodup manager distinct) known registered same
  obtain ⟨found, absent⟩ := find?_key alone
  have member := mem_listed respLen manager distinct stored selected
  rw [statusReported, records_of_list resp respLen session manager below asks (Or.inl rfl), List.find?_map]
  by_cases reached : Reached manager mask i respLen
  · rw [if_pos reached]
    exact congrArg (fun e : Option DtcEntry => (e.map _).map DtcRecord.status) (found (member.mpr reached))
  · rw [if_neg reached]
    exact congrArg (fun e : Option DtcEntry => (e.map _).map DtcRecord.status) (absent (mt member.mp reached))

def ShowsWhole (manager : DtcManager) (mask : Byte) (i : Nat) (e : DtcEntry) (space : Nat) : Prop :=
  Reached manager mask i space ∧ e.status &&& mask = e.status

theorem shows_iff {i : Nat} {e : DtcEntry} (distinct : (manager.dtcs.map DtcEntry.dtcCode).Nodup)
    (below : ∀ e ∈ manager.dtcs, e.dtcCode.toNat < 2 ^ 24) (stored : manager.dtcs[i]? = some e)
    (selected : Selected mask e) (asks : Asks ReadDtcSubFunc.reportDtcByStatusMask mask req reqLen) :
    statusReported (handle req reqLen resp respLen session manager).message e.dtcCode = some e.status ↔
      ShowsWhole manager mask i e respLen := by
  rw [statusReported_list resp respLen session manager distinct below stored selected asks, ShowsWhole]
  by_cases reached : Reached manager mask i respLen
  · simp [reached]
  · simp [reached]

def testedCalls : List DtcCall :=
  [.registerDtc 0x123456 0, .registerDtc 0x654321 0, .setTestResult 0x123456 true, .setTestResult 0x654321 false]

theorem listed_codes_sublist : List.Sublist ((listed manager mask respLen).map fun e => e.dtcCode.toNat)
    (manager.dtcs.map fun e => e.dtcCode.toNat) :=
  ((List.take_sublist _ _).trans List.filter_sublist).map _

theorem listed_all_iff : (listed manager mask respLen).length = manager.dtcs.length ↔
    (∀ e ∈ manager.dtcs, Selected mask e) ∧ 4 * manager.dtcs.length ≤ respLen - 3 := by
  have selected := List.length_filter_le (fun e => decide (Selected mask e)) manager.dtcs
  have every : (manager.dtcs.filter fun e => Selected mask e).length = manager.dtcs.length ↔
      ∀ e ∈ manager.dtcs, Selected mask e := by
    rw [List.length_filter_eq_length_iff]
    simp only [decide_eq_true_eq]
  rw [← every, listed, List.length_take]
  omega

end ReadDtcInformationService

end Uds
