import PulseEcu.Dtc.Registry

open Foundation

namespace Uds.Dtc

inductive Happening where
  | registered
  | tested (failed : Bool)
  | cleared
  | cycled
  | unrelated
  deriving DecidableEq, Repr

namespace Happening

def Resets (h : Happening) : Prop := h = registered ∨ h = cleared

def Begins (h : Happening) : Prop := h.Resets ∨ h = cycled

def IsTest (h : Happening) : Prop := ∃ failed, h = tested failed

def Fails (h : Happening) : Prop := h = tested true

@[simp] theorem registered_resets : registered.Resets := Or.inl rfl

@[simp] theorem cleared_resets : cleared.Resets := Or.inr rfl

@[simp] theorem tested_resets (failed : Bool) : ¬ (tested failed).Resets := by simp [Resets]

@[simp] theorem cycled_resets : ¬ cycled.Resets := by simp [Resets]

@[simp] theorem unrelated_resets : ¬ unrelated.Resets := by simp [Resets]

theorem Resets.begins {h : Happening} (resets : h.Resets) : h.Begins := Or.inl resets

@[simp] theorem tested_begins (failed : Bool) : ¬ (tested failed).Begins := by simp [Begins]

@[simp] theorem cycled_begins : cycled.Begins := Or.inr rfl

@[simp] theorem unrelated_begins : ¬ unrelated.Begins := by simp [Begins]

@[simp] theorem tested_isTest (failed : Bool) : (tested failed).IsTest := ⟨failed, rfl⟩

@[simp] theorem cycled_isTest : ¬ cycled.IsTest := by simp [IsTest]

@[simp] theorem unrelated_isTest : ¬ unrelated.IsTest := by simp [IsTest]

theorem Resets.untested {h : Happening} (resets : h.Resets) : ¬ h.IsTest := by
  intro test
  obtain ⟨failed, rfl⟩ := test
  exact tested_resets failed resets

@[simp] theorem tested_fails (failed : Bool) : (tested failed).Fails ↔ failed = true := by simp [Fails]

theorem Fails.isTest {h : Happening} (fails : h.Fails) : h.IsTest := ⟨true, fails⟩

@[simp] theorem cycled_fails : ¬ cycled.Fails := by simp [Fails]

@[simp] theorem unrelated_fails : ¬ unrelated.Fails := by simp [Fails]

end Happening

def DtcStatus.Has (status mask : Byte) : Prop := status &&& mask ≠ 0

instance (status mask : Byte) : Decidable (DtcStatus.Has status mask) := inferInstanceAs (Decidable (_ ≠ _))

namespace DtcManager

open Happening DtcStatus

/-- Bits 0, 4, 5 and 6 say what the history of the DTC is. -/
structure TestBits (history : List Happening) (status : Byte) : Prop where
  testFailed : Has status kTestFailed ↔ SinceLast (fun h => h.Resets ∨ h.IsTest) Fails history
  notCompletedSinceLastClear : Has status kTestNotCompletedSinceLastClear ↔ ¬ SinceLast Resets IsTest history
  failedSinceLastClear : Has status kTestFailedSinceLastClear ↔ SinceLast Resets Fails history
  notCompletedThisOpCycle : Has status kTestNotCompletedThisOpCycle ↔ ¬ SinceLast Begins IsTest history

def FailedBefore (past : List Happening) : Prop :=
  Since Begins (fun earlier h => h = .cycled ∧ SinceLast Begins Fails earlier) past

@[simp] theorem failedBefore_snoc (past : List Happening) (h : Happening) : FailedBefore (past ++ [h]) ↔
    (h = .cycled ∧ SinceLast Begins Fails past) ∨ ¬ h.Begins ∧ FailedBefore past :=
  since_snoc

/-- Bits 1 and 2 say in which operation cycles a test failed: in this one, and in this one or the
    one before it. -/
structure CycleBits (history : List Happening) (status : Byte) : Prop where
  failedThisOpCycle : Has status kTestFailedThisOpCycle ↔ SinceLast Begins Fails history
  pending : Has status kPendingDtc ↔ SinceLast Begins Fails history ∨ FailedBefore history

def statusAfter (status : Byte) : Happening → Byte
  | .registered => freshStatus
  | .tested failed => tested failed status
  | .cleared => freshStatus
  | .cycled => cycled status
  | .unrelated => status

def happening (code : Word) (entry : Entry) : Happening :=
  match entry.event with
  | .registerDtc asked _ => if key asked = key code ∧ entry.output ≠ .index (-1) then .registered else .unrelated
  | .setTestResult asked failed => if key asked = key code then .tested failed else .unrelated
  | .clearAll => .cleared
  | .clearGroup groupMask =>
    if groupMask = 0xFFFFFF ∨ key code &&& groupMask = groupMask &&& 0xFFFFFF then .cleared else .unrelated
  | .updateOpCycle => .cycled
  | .setSnapshot _ _ _ => .unrelated
  | .setFreezeFrame _ _ _ _ => .unrelated

def history (code : Word) (past : List Entry) : List Happening := past.map (happening code)

theorem history_snoc (code : Word) (past : List Entry) (entry : Entry) :
    history code (past ++ [entry]) = history code past ++ [happening code entry] := by
  rw [history, List.map_append]
  rfl

theorem happening_registered (code : Word) (entry : Entry) : happening code entry = .registered ↔ Registers code entry := by
  constructor
  · intro same
    cases called : entry.event with
    | registerDtc asked severity =>
      rw [happening, called] at same
      by_cases registers : key asked = key code ∧ entry.output ≠ .index (-1)
      · exact ⟨asked, severity, called, registers⟩
      · simp only [if_neg registers] at same
        cases same
    | setTestResult asked failed =>
      rw [happening, called] at same
      dsimp only at same
      split at same <;> cases same
    | clearGroup groupMask =>
      rw [happening, called] at same
      dsimp only at same
      split at same <;> cases same
    | _ =>
      rw [happening, called] at same
      cases same
  · intro registers
    obtain ⟨asked, severity, called, both⟩ := registers
    rw [happening, called]
    exact if_pos both

variable {m : DtcManager} {code : Word} {e : DtcEntry}

theorem registered_fresh (call : DtcCall) (unknown : m.find code = none) {after : DtcEntry}
    (found : (machine.next m call).find code = some after) :
    after.active = true ∧ after.status = freshStatus ∧ happening code (machine.entry m call) = .registered := by
  rcases m.find_next_new code call unknown with ⟨still, _⟩ | ⟨severity, new, registers⟩
  · cases still.symm.trans found
  · obtain rfl := Option.some.inj (new.symm.trans found)
    exact ⟨rfl, rfl, (happening_registered code _).mpr registers⟩

theorem known_not_registered (found : m.find code = some e) (call : DtcCall) :
    happening code (machine.entry m call) ≠ .registered := by
  intro same
  obtain ⟨asked, severity, called, named, accepted⟩ := (happening_registered code _).mp same
  have called : call = .registerDtc asked severity := called
  subst called
  have present : (m.find asked).isSome = true := by
    rw [m.find_congr code named, found]
    rfl
  exact accepted ((m.register_output asked severity).mpr (Or.inr present))

inductive Effect (code : Word) (e : DtcEntry) (call : DtcCall) (h : Happening) (after : DtcEntry) : Prop
  | unrelated (means : h = .unrelated) (same : after = e)
  | captured (data : Region Byte) (len : Nat) (means : h = .unrelated) (captures : Captures code call data len)
      (written : after = keep data len e)
  | tested (failed : Bool) (means : h = .tested failed) (written : after = if e.active then record failed e else e)
  | cleared (extDataLen : Nat) (means : h = .cleared)
      (written : after = { e with status := freshStatus, snapshotLen := 0, extDataLen := extDataLen })
  | cycled (means : h = .cycled) (written : after = endCycle e)

theorem effect_cases (found : m.find code = some e) (call : DtcCall) :
    Effect code e call (happening code (machine.entry m call)) (effect code e call) := by
  cases call with
  | registerDtc asked severity =>
    have known := known_not_registered found (.registerDtc asked severity)
    exact .unrelated (if_neg fun both => known ((happening_registered code _).mpr ⟨asked, severity, rfl, both⟩)) rfl
  | setTestResult asked failed =>
    by_cases same : key asked = key code
    · refine .tested failed (if_pos same) ?_
      simp only [effect, same, true_and]
    · exact .unrelated (if_neg same) (if_neg fun both => same both.1)
  | clearAll => exact .cleared 0 rfl rfl
  | clearGroup groupMask =>
    have named := m.find_code code found
    by_cases matched : Matches groupMask e
    · refine .cleared e.extDataLen ?_ (if_pos matched)
      rw [Matches, named] at matched
      exact if_pos matched
    · refine .unrelated ?_ (if_neg matched)
      rw [Matches, named] at matched
      exact if_neg matched
  | updateOpCycle => exact .cycled rfl rfl
  | setSnapshot asked data len =>
    cases data with
    | none => exact .unrelated rfl rfl
    | some data =>
      by_cases same : key asked = key code
      · exact .captured data len rfl ⟨asked, rfl, same⟩ (if_pos same)
      · exact .unrelated rfl (if_neg same)
  | setFreezeFrame asked recordNum data len =>
    cases data with
    | none => exact .unrelated rfl rfl
    | some data =>
      by_cases same : key asked = key code
      · exact .captured data len rfl ⟨asked, rfl, same⟩ (if_pos same)
      · exact .unrelated rfl (if_neg same)

theorem find_follows (found : m.find code = some e) (active : e.active = true) (call : DtcCall) {after : DtcEntry}
    (next : (machine.next m call).find code = some after) :
    after.active = true ∧ after.status = statusAfter e.status (happening code (machine.entry m call)) := by
  obtain rfl := Option.some.inj ((m.find_next code call found).symm.trans next)
  cases effect_cases found call with
  | unrelated means same =>
    rw [means, same]
    exact ⟨active, rfl⟩
  | captured data len means captures written =>
    rw [means, written]
    exact ⟨active, rfl⟩
  | tested failed means written =>
    rw [means, written, if_pos active]
    exact ⟨active, rfl⟩
  | cleared extDataLen means written =>
    rw [means, written]
    exact ⟨active, rfl⟩
  | cycled means written =>
    rw [means, written]
    exact ⟨active, rfl⟩

section

variable (failed : Bool) (status : Byte)

theorem tested_testFailed : Has (tested failed status) kTestFailed ↔ failed = true := by
  revert failed status
  decide +kernel

theorem tested_completed : ¬ Has (tested failed status) kTestNotCompletedSinceLastClear ∧
    ¬ Has (tested failed status) kTestNotCompletedThisOpCycle := by
  revert failed status
  decide +kernel

theorem tested_failedSinceLastClear : Has (tested failed status) kTestFailedSinceLastClear ↔
    failed = true ∨ Has status kTestFailedSinceLastClear := by
  revert failed status
  decide +kernel

theorem tested_cycleBits : (Has (tested failed status) kTestFailedThisOpCycle ↔ failed = true) ∧
    (Has (tested failed status) kPendingDtc ↔ failed = true) := by
  revert failed status
  decide +kernel

theorem cycled_kept : (Has (cycled status) kTestFailed ↔ Has status kTestFailed) ∧
    (Has (cycled status) kTestNotCompletedSinceLastClear ↔ Has status kTestNotCompletedSinceLastClear) ∧
    (Has (cycled status) kTestFailedSinceLastClear ↔ Has status kTestFailedSinceLastClear) ∧
    (Has (cycled status) kPendingDtc ↔ Has status kPendingDtc) := by
  revert status
  decide +kernel

theorem cycled_begun : Has (cycled status) kTestNotCompletedThisOpCycle ∧
    ¬ Has (cycled status) kTestFailedThisOpCycle := by
  revert status
  decide +kernel

end

section

variable {past : List Happening} {status : Byte}

theorem TestBits.fresh (past : List Happening) {h : Happening} (resets : h.Resets) :
    TestBits (past ++ [h]) freshStatus := by
  have untested := resets.untested
  have unfailed : ¬ h.Fails := fun fails => untested fails.isTest
  have begins := resets.begins
  refine ⟨iff_of_false (by decide) ?_, iff_of_true (by decide) ?_, iff_of_false (by decide) ?_,
    iff_of_true (by decide) ?_⟩
  · simp [unfailed, resets]
  · simp [untested, resets]
  · simp [unfailed, resets]
  · simp [untested, begins]

theorem TestBits.tested (bits : TestBits past status) (failed : Bool) :
    TestBits (past ++ [.tested failed]) (tested failed status) := by
  obtain ⟨completed, thisCycle⟩ := tested_completed failed status
  refine ⟨?_, ?_, ?_, ?_⟩
  · simp [tested_testFailed]
  · simp [completed]
  · simp [tested_failedSinceLastClear, bits.failedSinceLastClear]
  · simp [thisCycle]

theorem TestBits.cycled (bits : TestBits past status) : TestBits (past ++ [.cycled]) (cycled status) := by
  obtain ⟨testFailed, notCompleted, failedSince, _⟩ := cycled_kept status
  refine ⟨?_, ?_, ?_, ?_⟩
  · simp [testFailed, bits.testFailed]
  · simp [notCompleted, bits.notCompletedSinceLastClear]
  · simp [failedSince, bits.failedSinceLastClear]
  · simp [cycled_begun]

theorem TestBits.unrelated (bits : TestBits past status) : TestBits (past ++ [.unrelated]) status := by
  refine ⟨?_, ?_, ?_, ?_⟩
  · simp [bits.testFailed]
  · simp [bits.notCompletedSinceLastClear]
  · simp [bits.failedSinceLastClear]
  · simp [bits.notCompletedThisOpCycle]

theorem TestBits.next (bits : TestBits past status) (h : Happening) : TestBits (past ++ [h]) (statusAfter status h) := by
  cases h with
  | registered => exact .fresh past registered_resets
  | cleared => exact .fresh past cleared_resets
  | tested failed => exact bits.tested failed
  | cycled => exact bits.cycled
  | unrelated => exact bits.unrelated

end

def Active (m : DtcManager) : Prop := ∀ code e, m.find code = some e → e.active = true

theorem next_active (active : Active m) (call : DtcCall) : Active (machine.next m call) := by
  intro code after next
  cases found : m.find code with
  | none => exact (registered_fresh call found next).1
  | some e => exact (find_follows found (active code e found) call next).1

def TestBitsHold (past : List Entry) (m : DtcManager) : Prop :=
  ∀ e ∈ m.dtcs, ∀ code, key code = e.dtcCode → TestBits (history code past) e.status

theorem testBits_next {past : List Entry} (registry : Registry past m) (active : Active m)
    (bits : TestBitsHold past m) (call : DtcCall) :
    TestBitsHold (past ++ [machine.entry m call]) (machine.next m call) := by
  intro after member code named
  have next := (registry.next call).find_of_mem member named
  rw [history_snoc]
  cases found : m.find code with
  | none =>
    obtain ⟨_, status, registered⟩ := registered_fresh call found next
    rw [status, registered]
    exact .fresh _ registered_resets
  | some e =>
    have known : TestBits (history code past) e.status :=
      bits e (List.mem_of_find?_eq_some found) code (m.find_code code found).symm
    rw [(find_follows found (active code e found) call next).2]
    exact known.next _

theorem test_bits_history (calls : List DtcCall) :
    TestBitsHold (machine.trace create calls) (machine.run create calls) := by
  have invariant := machine.trace_invariant_all
    (fun past m call (good : Registry past m ∧ Active m ∧ TestBitsHold past m) =>
      ⟨good.1.next call, next_active good.2.1 call, testBits_next good.1 good.2.1 good.2.2 call⟩)
    create calls ⟨create_registry, (fun _ _ found => nomatch found), List.forall_mem_nil _⟩
  exact invariant.2.2

/-- The happenings at which bits 1 and 2 stop saying in which cycles a test failed: a pass clears
    both, and a cycle without a failure does not clear the second. -/
def Misleads (status : Byte) (h : Happening) : Prop :=
  Has status kPendingDtc ∧ (h = .tested false ∨ h = .cycled ∧ ¬ Has status kTestFailedThisOpCycle)

section

variable {past : List Happening} {status : Byte}

theorem CycleBits.fresh (past : List Happening) {h : Happening} (resets : h.Resets) :
    CycleBits (past ++ [h]) freshStatus := by
  have begins := resets.begins
  have unfailed : ¬ h.Fails := fun fails => resets.untested fails.isTest
  have uncycled : h ≠ .cycled := by
    intro same
    rw [same] at resets
    exact cycled_resets resets
  refine ⟨iff_of_false (by decide) ?_, iff_of_false (by decide) ?_⟩
  · simp [unfailed, begins]
  · simp [unfailed, uncycled, begins]

theorem CycleBits.failing (past : List Happening) (status : Byte) :
    CycleBits (past ++ [.tested true]) (tested true status) := by
  obtain ⟨now, pending⟩ := tested_cycleBits true status
  refine ⟨?_, ?_⟩
  · simp [now]
  · simp [pending]

theorem CycleBits.passing_iff (bits : CycleBits past status) :
    CycleBits (past ++ [.tested false]) (tested false status) ↔ ¬ Has status kPendingDtc := by
  obtain ⟨now, pending⟩ := tested_cycleBits false status
  constructor
  · intro after had
    have lost : ¬ Has (tested false status) kPendingDtc := by simp [pending]
    have meant := bits.pending.mp had
    refine lost (after.pending.mpr (meant.imp (fun here => ?_) fun before => ?_))
    · exact sinceLast_snoc.mpr (Or.inr ⟨tested_begins false, here⟩)
    · exact (failedBefore_snoc past _).mpr (Or.inr ⟨tested_begins false, before⟩)
  · intro idle
    obtain ⟨here, before⟩ := not_or.mp (mt bits.pending.mpr idle)
    refine ⟨?_, ?_⟩
    · simp [now, here]
    · simp [pending, here, before]

theorem CycleBits.cycling_iff (bits : CycleBits past status) :
    CycleBits (past ++ [.cycled]) (cycled status) ↔
      (Has status kPendingDtc → Has status kTestFailedThisOpCycle) := by
  have kept := (cycled_kept status).2.2.2
  have begun : ¬ SinceLast Begins Fails (past ++ [.cycled]) := by simp
  have shifted : FailedBefore (past ++ [.cycled]) ↔ SinceLast Begins Fails past := by simp
  constructor
  · intro after had
    have meant := (after.pending.mp (kept.mpr had)).resolve_left begun
    exact bits.failedThisOpCycle.mpr (shifted.mp meant)
  · intro failing
    refine ⟨iff_of_false (cycled_begun status).2 begun, ?_⟩
    rw [kept, or_iff_right begun, shifted, ← bits.failedThisOpCycle]
    refine ⟨failing, fun now => bits.pending.mpr (Or.inl (bits.failedThisOpCycle.mp now))⟩

theorem CycleBits.unrelated (bits : CycleBits past status) : CycleBits (past ++ [.unrelated]) status := by
  refine ⟨?_, ?_⟩
  · simp [bits.failedThisOpCycle]
  · simp [bits.pending]

theorem CycleBits.next_iff (bits : CycleBits past status) (h : Happening) :
    CycleBits (past ++ [h]) (statusAfter status h) ↔ ¬ Misleads status h := by
  cases h with
  | registered => exact iff_of_true (.fresh past registered_resets) (by simp [Misleads])
  | cleared => exact iff_of_true (.fresh past cleared_resets) (by simp [Misleads])
  | tested failed =>
    cases failed with
    | true => exact iff_of_true (.failing past status) (by simp [Misleads])
    | false => exact bits.passing_iff.trans (by simp [Misleads])
  | cycled => exact bits.cycling_iff.trans (by simp [Misleads])
  | unrelated => exact iff_of_true bits.unrelated (by simp [Misleads])

end

def CycleBitsHold (code : Word) (past : List Entry) (m : DtcManager) : Prop :=
  ∀ e, m.find code = some e → CycleBits (history code past) e.status

def Slips (code : Word) (entry : Entry) : Prop :=
  ∃ e, entry.before.find code = some e ∧ Misleads e.status (happening code entry)

theorem cycleBits_iff (past : List Entry) (call : DtcCall) (active : Active m) (bits : CycleBitsHold code past m) :
    CycleBitsHold code (past ++ [machine.entry m call]) (machine.next m call) ↔ ¬ Slips code (machine.entry m call) := by
  cases found : m.find code with
  | none =>
    refine iff_of_true (fun after next => ?_) fun slips => ?_
    · obtain ⟨_, status, first⟩ := registered_fresh call found next
      rw [history_snoc, status, first]
      exact .fresh _ registered_resets
    · obtain ⟨e, known, _⟩ := slips
      cases found.symm.trans known
  | some e =>
    have next := m.find_next code call found
    have status := (find_follows found (active code e found) call next).2
    have moved := (bits e found).next_iff (happening code (machine.entry m call))
    rw [← status, ← history_snoc] at moved
    constructor
    · intro after slips
      obtain ⟨other, known, misleads⟩ := slips
      obtain rfl := Option.some.inj (found.symm.trans known)
      exact moved.mp (after _ next) misleads
    · intro sound after known
      obtain rfl := Option.some.inj (next.symm.trans known)
      exact moved.mpr fun misleads => sound ⟨e, found, misleads⟩

/-- Bits 1 and 2 keep their meaning in exactly the runs without a pass of a pending DTC and without
    a cycle that a pending DTC goes through without a failure. -/
theorem cycle_bits_iff (code : Word) (calls : List DtcCall) :
    (∀ first rest, calls = first ++ rest → CycleBitsHold code (machine.trace create first) (machine.run create first)) ↔
      ∀ entry ∈ machine.trace create calls, ¬ Slips code entry :=
  @Machine.prefixes_iff _ _ _ machine (fun _ => Active) (CycleBitsHold code) (fun entry => ¬ Slips code entry)
    (fun _ _ call active => next_active active call)
    (fun past _ call active bits => cycleBits_iff past call active bits) create calls
    (fun _ _ found => nomatch found) (fun _ found => nomatch found)

def recovering : List DtcCall := [.registerDtc 0x123456 0x20, .setTestResult 0x123456 true, .setTestResult 0x123456 false]

theorem cycle_bits_lost : ¬ ∀ code first rest, recovering = first ++ rest →
    CycleBitsHold code (machine.trace create first) (machine.run create first) := by
  intro holds
  have bits := holds 0x123456 recovering [] rfl _ rfl
  have failed : SinceLast Begins Fails (history 0x123456 (machine.trace create recovering)) :=
    ⟨[.registered], .tested true, [.tested false], by decide, rfl, by simp [Begins, Resets]⟩
  exact absurd (bits.failedThisOpCycle.mpr failed) (by decide)

end DtcManager

end Uds.Dtc
