import PulseEcu.Dtc.DtcRun
import PulseEcu.Services.DtcServices

open Foundation

namespace Uds.ClearDiagnosticInformationService

open Dtc DtcManager

def clearRequest (code : Word) : List Byte :=
  [serviceId, (code >>> 16).setWidth 8, (code >>> 8).setWidth 8, code.setWidth 8]

structure Blank (e : DtcEntry) : Prop where
  status : e.status = freshStatus
  snapshot : e.snapshotLen = 0
  extended : e.extDataLen = 0

structure ClearsOnly (code : Word) (before after : DtcManager) : Prop where
  named : ∀ (i : Nat) (e : DtcEntry), before.dtcs[i]? = some e → e.dtcCode = key code →
    ∃ left, after.dtcs[i]? = some left ∧ left.dtcCode = key code ∧ Blank left
  others : ∀ (i : Nat) (e : DtcEntry), before.dtcs[i]? = some e → e.dtcCode ≠ key code → after.dtcs[i]? = some e

inductive ClearPath where
  | clearAll
  | clearGroup (groupMask : Word)
  | request (req : Region Byte) (reqLen : Nat) (resp : Region Byte) (respLen : Nat) (session : UdsSession)

def ClearPath.run (m : DtcManager) : ClearPath → DtcManager
  | clearAll => m.clearAll
  | clearGroup groupMask => m.clearGroup groupMask
  | request req reqLen resp respLen session => (handle req reqLen resp respLen session m).state

def ClearPath.Clears (e : DtcEntry) : ClearPath → Prop
  | clearAll => True
  | clearGroup groupMask => Matches groupMask e
  | request req reqLen _ _ _ => 4 ≤ reqLen ∧ Matches (groupOf req) e

def ClearPath.ToAll : ClearPath → Prop
  | clearAll => True
  | clearGroup _ => False
  | request req reqLen _ _ _ => 4 ≤ reqLen ∧ groupOf req = 0xFFFFFF

def LeavesBlank (m : DtcManager) (path : ClearPath) : Prop :=
  ∀ (i : Nat) (e : DtcEntry), m.dtcs[i]? = some e → path.Clears e → ∃ left, (path.run m).dtcs[i]? = some left ∧ Blank left

variable {m : DtcManager} {req : Region Byte} {code groupMask : Word} {e : DtcEntry} {i : Nat}

theorem codeMask_bit : ∀ j : Fin 32, (0xFFFFFF : Word)[j] = decide (j.val < 24) := by decide

theorem groupOf_clearRequest (asked : req.load 0 4 = clearRequest code) : groupOf req = key code := by
  have bytes : [req 0, req 1, req 2, req 3] = clearRequest code := asked
  simp only [clearRequest, List.cons.injEq] at bytes
  obtain ⟨_, high, mid, low, _⟩ := bytes
  rw [groupOf, high, mid, low, key]
  ext j bound
  have mask : (0xFFFFFF : Word)[j] = decide (j < 24) := codeMask_bit ⟨j, bound⟩
  rw [BitVec.getElem_and, mask]
  simp only [BitVec.getElem_or, BitVec.getElem_shiftLeft, BitVec.getElem_setWidth, BitVec.getLsbD_setWidth,
    BitVec.getLsbD_ushiftRight]
  grind

theorem clearAll_getElem (stored : m.dtcs[i]? = some e) : m.clearAll.dtcs[i]? = some (erase e) :=
  (List.getElem?_map ..).trans (congrArg (Option.map erase) stored)

theorem clearGroup_getElem (groupMask : Word) (stored : m.dtcs[i]? = some e) :
    (m.clearGroup groupMask).dtcs[i]? = some (clear groupMask e) :=
  (List.getElem?_map ..).trans (congrArg (Option.map (clear groupMask)) stored)

theorem erase_blank (e : DtcEntry) : Blank (erase e) := ⟨rfl, rfl, rfl⟩

theorem clear_blank_iff (hit : Matches groupMask e) : Blank (clear groupMask e) ↔ e.extDataLen = 0 := by
  rw [clear, if_pos hit]
  constructor
  · intro blank
    exact blank.extended
  · intro empty
    exact ⟨rfl, rfl, empty⟩

theorem clear_missed (missed : ¬ Matches groupMask e) : clear groupMask e = e := if_neg missed

/-- An entry that a mask hits looks the same afterwards only if there was nothing to clear. -/
theorem clear_same_iff (hit : Matches groupMask e) :
    clear groupMask e = e ↔ e.status = freshStatus ∧ e.snapshotLen = 0 := by
  rw [clear, if_pos hit]
  constructor
  · intro same
    exact ⟨(congrArg DtcEntry.status same).symm, (congrArg DtcEntry.snapshotLen same).symm⟩
  · intro empty
    obtain ⟨status, snapshot⟩ := empty
    rw [← status, ← snapshot]

/-- A code as a mask hits the codes that have all its bits. -/
theorem matches_key (single : key code ≠ 0xFFFFFF) :
    Matches (key code) e ↔ e.dtcCode &&& key code = key code := by
  have whole : key code &&& 0xFFFFFF = key code := key_key code
  rw [Matches, whole]
  exact or_iff_right single

theorem request_state (req : Region Byte) (reqLen : Nat) (resp : Region Byte) (respLen : Nat) (session : UdsSession) :
    (handle req reqLen resp respLen session m).state =
      if reqLen < 4 then m else if groupOf req = 0xFFFFFF then m.clearAll else m.clearGroup (groupOf req) := by
  unfold handle
  split
  · rfl
  · rfl

theorem handle_single (single : key code ≠ 0xFFFFFF) (asked : req.load 0 4 = clearRequest code) (resp : Region Byte)
    (respLen : Nat) (session : UdsSession) :
    (handle req 4 resp respLen session m).state = m.clearGroup (key code) := by
  rw [request_state, groupOf_clearRequest asked, if_neg (Nat.lt_irrefl 4), if_neg single]

theorem clearGroup_clearsOnly_iff (single : key code ≠ 0xFFFFFF) :
    ClearsOnly code m (m.clearGroup (key code)) ↔
      (∀ e ∈ m.dtcs, e.dtcCode = key code → e.extDataLen = 0) ∧
        ∀ e ∈ m.dtcs, e.dtcCode ≠ key code → e.dtcCode &&& key code = key code →
          e.status = freshStatus ∧ e.snapshotLen = 0 := by
  have own : ∀ e : DtcEntry, e.dtcCode = key code → Matches (key code) e := by
    intro e named
    rw [matches_key single, named, BitVec.and_self]
  constructor
  · intro clears
    refine ⟨fun e member named => ?_, fun e member other covered => ?_⟩
    · obtain ⟨i, stored⟩ := List.mem_iff_getElem?.mp member
      obtain ⟨left, found, _, blank⟩ := clears.named i e stored named
      rw [clearGroup_getElem _ stored] at found
      rw [← Option.some.inj found] at blank
      exact (clear_blank_iff (own e named)).mp blank
    · obtain ⟨i, stored⟩ := List.mem_iff_getElem?.mp member
      have same := clears.others i e stored other
      rw [clearGroup_getElem _ stored] at same
      exact (clear_same_iff ((matches_key single).mpr covered)).mp (Option.some.inj same)
  · intro condition
    obtain ⟨noExtended, nothing⟩ := condition
    constructor
    · intro i e stored named
      have empty := noExtended e (List.mem_of_getElem? stored) named
      refine ⟨_, clearGroup_getElem _ stored, ?_, (clear_blank_iff (own e named)).mpr empty⟩
      rw [clear_dtcCode]
      exact named
    · intro i e stored other
      rw [clearGroup_getElem _ stored]
      by_cases covered : e.dtcCode &&& key code = key code
      · have empty := nothing e (List.mem_of_getElem? stored) other covered
        rw [(clear_same_iff ((matches_key single).mpr covered)).mpr empty]
      · rw [clear_missed (mt (matches_key single).mp covered)]

/-- Clearing one code spares the others exactly when no other code that has all its bits has anything
    to lose. -/
theorem clears_only_iff (m : DtcManager) (code : Word) (single : key code ≠ 0xFFFFFF) (req : Region Byte)
    (asked : req.load 0 4 = clearRequest code) (resp : Region Byte) (respLen : Nat) (session : UdsSession) :
    ClearsOnly code m (handle req 4 resp respLen session m).state ↔
      (∀ e ∈ m.dtcs, e.dtcCode = key code → e.extDataLen = 0) ∧
        ∀ e ∈ m.dtcs, e.dtcCode ≠ key code → e.dtcCode &&& key code = key code →
          e.status = freshStatus ∧ e.snapshotLen = 0 := by
  rw [handle_single single asked]
  exact clearGroup_clearsOnly_iff single

def twoFailureTypes : DtcManager :=
  machine.run create [.registerDtc 0x012300 0, .registerDtc 0x012301 0, .setTestResult 0x012301 true]

theorem other_failure_type_cleared : (twoFailureTypes.find 0x012300).isSome = true ∧
    ¬ ClearsOnly 0x012300 twoFailureTypes (handle ((Region.fill 0).store 0 (clearRequest 0x012300)) 4 (Region.fill 0) 4096
      (UdsSession.create kDefaultTiming) twoFailureTypes).state := by
  refine ⟨by decide, fun clears => ?_⟩
  have kept := clears.others 1 _ rfl (by decide)
  exact absurd (congrArg (Option.map DtcEntry.status) kept) (by decide)

theorem clears_only_second_failure_type :
    ClearsOnly 0x012301 twoFailureTypes (handle ((Region.fill 0).store 0 (clearRequest 0x012301)) 4 (Region.fill 0) 4096
      (UdsSession.create kDefaultTiming) twoFailureTypes).state :=
  (clears_only_iff twoFailureTypes 0x012301 (by decide) _ rfl _ _ _).mpr ⟨by decide, by decide⟩

theorem leavesBlank_group (groupMask : Word) :
    LeavesBlank m (.clearGroup groupMask) ↔ ∀ e ∈ m.dtcs, Matches groupMask e → e.extDataLen = 0 := by
  constructor
  · intro leaves e member hit
    obtain ⟨i, stored⟩ := List.mem_iff_getElem?.mp member
    obtain ⟨left, found, blank⟩ := leaves i e stored hit
    have left_eq := (clearGroup_getElem groupMask stored).symm.trans found
    rw [← Option.some.inj left_eq] at blank
    exact (clear_blank_iff hit).mp blank
  · intro empty i e stored hit
    exact ⟨_, clearGroup_getElem _ stored, (clear_blank_iff hit).mpr (empty e (List.mem_of_getElem? stored) hit)⟩

theorem leavesBlank_iff (m : DtcManager) (path : ClearPath) :
    LeavesBlank m path ↔ path.ToAll ∨ ∀ e ∈ m.dtcs, path.Clears e → e.extDataLen = 0 := by
  cases path with
  | clearAll =>
    refine iff_of_true (fun i e stored _ => ?_) (Or.inl trivial)
    exact ⟨_, clearAll_getElem stored, erase_blank e⟩
  | clearGroup groupMask => exact (leavesBlank_group groupMask).trans (or_iff_right id).symm
  | request req reqLen resp respLen session =>
    have state := @request_state m req reqLen resp respLen session
    by_cases short : reqLen < 4
    · have none : ∀ e, ¬ (ClearPath.request req reqLen resp respLen session).Clears e :=
        fun _ clears => absurd clears.1 (Nat.not_le.mpr short)
      exact iff_of_true (fun _ e _ clears => absurd clears (none e)) (Or.inr fun e _ clears => absurd clears (none e))
    · have long := Nat.le_of_not_lt short
      rw [if_neg short] at state
      by_cases all : groupOf req = 0xFFFFFF
      · rw [if_pos all] at state
        refine iff_of_true (fun i e stored _ => ⟨erase e, ?_, erase_blank e⟩) (Or.inl ⟨long, all⟩)
        exact (congrArg (fun left : DtcManager => left.dtcs[i]?) state).trans (clearAll_getElem stored)
      · rw [if_neg all] at state
        have same : LeavesBlank m (.request req reqLen resp respLen session) ↔ LeavesBlank m (.clearGroup (groupOf req)) := by
          simp only [LeavesBlank, ClearPath.run, ClearPath.Clears, state, long, true_and]
        rw [same, leavesBlank_group]
        have group : ¬ (ClearPath.request req reqLen resp respLen session).ToAll := fun toAll => all toAll.2
        rw [or_iff_right group]
        simp only [ClearPath.Clears, long, true_and]

theorem clearGroup_all_iff (m : DtcManager) : m.clearGroup 0xFFFFFF = m.clearAll ↔ ∀ e ∈ m.dtcs, e.extDataLen = 0 := by
  have every : ∀ e : DtcEntry, Matches 0xFFFFFF e := fun _ => Or.inl rfl
  have entry : ∀ e : DtcEntry, clear 0xFFFFFF e = erase e ↔ e.extDataLen = 0 := by
    intro e
    constructor
    · intro same
      have blank := erase_blank e
      rw [← same] at blank
      exact (clear_blank_iff (every e)).mp blank
    · intro empty
      rw [clear, if_pos (every e), erase, ← empty]
  have lists : m.clearGroup 0xFFFFFF = m.clearAll ↔ m.dtcs.map (clear 0xFFFFFF) = m.dtcs.map erase :=
    ⟨congrArg DtcManager.dtcs, congrArg DtcManager.mk⟩
  rw [lists, List.map_inj_left]
  exact forall₂_congr fun e _ => entry e

/-- A path leaves nothing of what it clears exactly when it ends in `clear_all` or finds no extended data. -/
theorem clear_paths_agree_iff (m : DtcManager) :
    (∀ path, LeavesBlank m path ↔ path.ToAll ∨ ∀ e ∈ m.dtcs, path.Clears e → e.extDataLen = 0) ∧
      (m.clearGroup 0xFFFFFF = m.clearAll ↔ ∀ e ∈ m.dtcs, e.extDataLen = 0) :=
  ⟨leavesBlank_iff m, clearGroup_all_iff m⟩

def countedFault : DtcManager :=
  (machine.run create [.registerDtc 0x012300 0, .setTestResult 0x012300 true]).modify 0x012300
    fun e => { e with extData := e.extData.store 0 [0x01, 0x05], extDataLen := 2 }

theorem counter_survives_group : ¬ LeavesBlank countedFault (.clearGroup 0x012300) ∧
    countedFault.clearGroup 0xFFFFFF ≠ countedFault.clearAll := by
  constructor
  · intro leaves
    obtain ⟨left, found, blank⟩ := leaves 0 _ rfl (Or.inr rfl)
    have counted : left.extDataLen = 2 := (Option.some.inj (congrArg (Option.map DtcEntry.extDataLen) found)).symm
    exact absurd (counted.symm.trans blank.extended) (by decide)
  · intro same
    have lengths := congrArg (fun m : DtcManager => m.dtcs.map DtcEntry.extDataLen) same
    exact absurd lengths (by decide)

end Uds.ClearDiagnosticInformationService
