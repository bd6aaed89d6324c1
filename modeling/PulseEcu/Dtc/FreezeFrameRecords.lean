import PulseEcu.Dtc.FreezeFrame

open Foundation

namespace Uds.Dtc.DtcManager

def Returns (m : DtcManager) (code : Word) (recordNum : Byte) (bytes : List Byte) : Prop :=
  ∀ (out : Region Byte) (maxLen : Nat), m.getFreezeFrame code recordNum (some out) maxLen =
    (min bytes.length maxLen, some (out.store 0 (bytes.take maxLen)))

def StoresRecord (code : Word) (recordNum : Byte) (entry : Entry) : Prop :=
  entry.output = .stored true ∧ ∃ asked data len, entry.event = .setFreezeFrame asked recordNum data len ∧ key asked = key code

variable {m : DtcManager} {code : Word}

theorem Returns.unique {recordNum : Byte} {left right : List Byte} (first : m.Returns code recordNum left)
    (second : m.Returns code recordNum right) : left = right := by
  let size := left.length + right.length
  have same := (first (Region.fill 0) size).symm.trans (second (Region.fill 0) size)
  obtain ⟨length, cells⟩ := Prod.mk.inj same
  have length : left.length = right.length := by omega
  rw [List.take_of_length_le (by omega), List.take_of_length_le (by omega)] at cells
  have read := congrArg (fun region : Region Byte => region.load 0 left.length) (Option.some.inj cells)
  rw [Region.load_store, length, Region.load_store] at read
  exact read

theorem returns_frame {bytes : List Byte} (stored : m.frame code = some (bytes.length, bytes)) (recordNum : Byte) :
    m.Returns code recordNum bytes := by
  intro out maxLen
  by_cases filled : bytes.length ≠ 0
  · exact getFreezeFrame_frame stored filled recordNum out maxLen
  · obtain ⟨e, found, same⟩ := Option.map_eq_some_iff.mp stored
    have none : bytes = [] := List.length_eq_zero_iff.mp (Decidable.not_not.mp filled)
    subst none
    have empty : e.snapshotLen = 0 := congrArg Prod.fst same
    have cells : out.store 0 ([].take maxLen) = out := by
      funext i
      simp [Region.store]
    rw [getFreezeFrame, found, cells]
    dsimp only
    rw [if_pos empty, List.length_nil, Nat.zero_min]

theorem find_capture_other (asked : Word) (data : Option (Region Byte)) (len : Nat) (other : key asked ≠ key code) :
    (m.capture asked data len).2.find code = m.find code := by
  unfold capture
  split
  · exact (find_modify m code asked (keep _ len) fun _ => rfl).trans (if_neg other)
  · rfl

theorem shot_small (data : Region Byte) {len : Nat} (small : len ≤ kSnapshotSize) :
    shot data len = ((data.load 0 len).length, data.load 0 len) := by
  have whole : (if len < kSnapshotSize then len else kSnapshotSize) = len := by
    split <;> omega
  rw [shot, whole, Region.load_length]

def twice (code : Word) (first second : Byte) (one two : Region Byte) (oneLen twoLen : Nat) : List DtcCall :=
  [.setFreezeFrame code first (some one) oneLen, .setFreezeFrame code second (some two) twoLen]

variable {calls : List DtcCall} {first second : Byte} {one two : Region Byte} {oneLen twoLen : Nat}

theorem run_twice (calls : List DtcCall) (code : Word) (first second : Byte) (one two : Region Byte) (oneLen twoLen : Nat) :
    machine.run create (calls ++ twice code first second one two oneLen twoLen) =
      (((machine.run create calls).setFreezeFrame code first (some one) oneLen).2.setFreezeFrame code second
        (some two) twoLen).2 := by
  rw [Machine.run_append]
  rfl

theorem returns_twice (registered : ((machine.run create calls).find code).isSome = true) (small : twoLen ≤ kSnapshotSize)
    (recordNum : Byte) :
    (machine.run create (calls ++ twice code first second one two oneLen twoLen)).Returns code recordNum
      (two.load 0 twoLen) := by
  obtain ⟨e, found⟩ := Option.isSome_iff_exists.mp registered
  have stored := (machine.run create calls).find_next code (.setFreezeFrame code first (some one) oneLen) found
  have frame := next_frame stored (.setFreezeFrame code second (some two) twoLen)
  rw [effect, if_pos rfl, keep_frame, shot_small two small] at frame
  rw [run_twice]
  exact returns_frame frame recordNum

/-- Records as a map from the DTC and the record number: after two stores under two numbers each
    number gives its own bytes, a number never stored gives none, and the other DTCs give what they gave. -/
structure RecordsApart (past : List Entry) (before after : DtcManager) (code : Word) (first second : Byte)
    (one two : List Byte) : Prop where
  first : after.Returns code first one
  second : after.Returns code second two
  unstored : ∀ recordNum, (∀ entry ∈ past, ¬ StoresRecord code recordNum entry) → after.Returns code recordNum []
  others : ∀ other, key other ≠ key code → ∀ recordNum out maxLen,
    after.getFreezeFrame other recordNum out maxLen = before.getFreezeFrame other recordNum out maxLen

/-- There is one frame to a DTC, whatever the record number: the records are a map exactly if the two
    stores bring the same bytes, and these are none unless every record number was stored. -/
theorem records_apart_iff (calls : List DtcCall) (code : Word) (first second : Byte) (one two : Region Byte)
    (oneLen twoLen : Nat) (registered : ((machine.run create calls).find code).isSome = true)
    (small : twoLen ≤ kSnapshotSize) :
    let run := calls ++ twice code first second one two oneLen twoLen
    RecordsApart (machine.trace create run) (machine.run create calls) (machine.run create run) code first second
        (one.load 0 oneLen) (two.load 0 twoLen) ↔
      one.load 0 oneLen = two.load 0 twoLen ∧
        (twoLen = 0 ∨ ∀ recordNum, ∃ entry ∈ machine.trace create run, StoresRecord code recordNum entry) := by
  intro run
  have shown : ∀ recordNum, (machine.run create run).Returns code recordNum (two.load 0 twoLen) :=
    returns_twice registered small
  have none : two.load 0 twoLen = [] ↔ twoLen = 0 := by
    rw [← List.length_eq_zero_iff, Region.load_length]
  constructor
  · intro apart
    refine ⟨apart.first.unique (shown first), Decidable.or_iff_not_imp_left.mpr fun filled recordNum => ?_⟩
    apply Classical.byContradiction
    intro never
    have unstored := apart.unstored recordNum fun entry member stores => never ⟨entry, member, stores⟩
    exact filled (none.mp ((shown recordNum).unique unstored))
  · intro same
    refine ⟨?_, shown second, fun recordNum never => ?_, fun other apart recordNum out maxLen => ?_⟩
    · rw [same.1]
      exact shown first
    · rcases same.2 with empty | all
      · rw [← none.mpr empty]
        exact shown recordNum
      · obtain ⟨entry, member, stores⟩ := all recordNum
        exact absurd stores (never entry member)
    · have found : (machine.run create run).find other = (machine.run create calls).find other := by
        rw [run_twice]
        exact (find_capture_other _ _ _ apart.symm).trans (find_capture_other _ _ _ apart.symm)
      rw [getFreezeFrame, found]
      rfl

theorem records_apart_iff_same :
    let run := [.registerDtc 0x123456 0] ++ twice 0x123456 0x01 0x02 (Region.fill 0xAA) (Region.fill 0xAA) 2 2
    RecordsApart (machine.trace create run) (machine.run create [.registerDtc 0x123456 0]) (machine.run create run)
        0x123456 0x01 0x02 ((Region.fill 0xAA).load 0 2) ((Region.fill 0xAA).load 0 2) ↔
      (Region.fill (0xAA : Byte)).load 0 2 = (Region.fill (0xAA : Byte)).load 0 2 ∧
        (2 = 0 ∨ ∀ recordNum, ∃ entry ∈ machine.trace create run, StoresRecord 0x123456 recordNum entry) :=
  records_apart_iff [.registerDtc 0x123456 0] 0x123456 0x01 0x02 (Region.fill 0xAA) (Region.fill 0xAA) 2 2 (by decide)
    (by decide)

/-- Record 1 gives the byte that was stored as record 2. -/
theorem records_mixed_up :
    let run := [.registerDtc 0x123456 0] ++ twice 0x123456 0x01 0x02 (Region.fill 0xAA) (Region.fill 0xBB) 1 1
    ¬ RecordsApart (machine.trace create run) (machine.run create [.registerDtc 0x123456 0]) (machine.run create run)
        0x123456 0x01 0x02 ((Region.fill 0xAA).load 0 1) ((Region.fill 0xBB).load 0 1) := by
  intro run apart
  have got := apart.first (Region.fill 0) 1
  have cell := congrArg (fun result => result.2.map fun cells => cells 0) got
  exact absurd cell (by decide)

end Uds.Dtc.DtcManager
