import Mathlib.Algebra.Group.Nat.Defs
import PulseEcu.Dtc.DtcManager
import PulseEcu.Foundation.FirstMatch
import PulseEcu.Foundation.Run

open Foundation

namespace Uds.Dtc

inductive DtcCall where
  | registerDtc (code : Word) (severity : Byte)
  | setTestResult (code : Word) (failed : Bool)
  | clearAll
  | clearGroup (groupMask : Word)
  | updateOpCycle
  | setSnapshot (code : Word) (data : Option (Region Byte)) (len : Nat)
  | setFreezeFrame (code : Word) (recordNum : Byte) (data : Option (Region Byte)) (len : Nat)

inductive DtcReply where
  | index (i : Int)
  | stored (ok : Bool)
  | done
  deriving DecidableEq

def DtcCall.captures : DtcCall → Option (Word × Region Byte × Nat)
  | .setSnapshot code (some data) len => some (code, data, len)
  | .setFreezeFrame code _ (some data) len => some (code, data, len)
  | _ => none

/-- The 24 bits of a code that the store keeps. -/
def key (code : Word) : Word := code &&& 0xFFFFFF

theorem key_key (code : Word) : key (key code) = key code := by
  rw [key, key, BitVec.and_assoc, BitVec.and_self]

theorem key_lt (code : Word) : (key code).toNat < 2 ^ 24 := by
  have low : (key code).toNat ≤ 0xFFFFFF := by
    rw [key, BitVec.toNat_and]
    exact Nat.and_le_right
  omega

namespace DtcManager

def machine : Machine DtcManager DtcCall DtcReply where
  step m
    | .registerDtc code severity => let result := m.registerDtc code severity; (result.2, .index result.1)
    | .setTestResult code failed => (m.setTestResult code failed, .done)
    | .clearAll => (m.clearAll, .done)
    | .clearGroup groupMask => (m.clearGroup groupMask, .done)
    | .updateOpCycle => (m.updateOpCycle, .done)
    | .setSnapshot code data len => let result := m.setSnapshot code data len; (result.2, .stored result.1)
    | .setFreezeFrame code recordNum data len =>
      let result := m.setFreezeFrame code recordNum data len; (result.2, .stored result.1)

abbrev Entry := Machine.Entry DtcManager DtcCall DtcReply

def Registers (code : Word) (entry : Entry) : Prop :=
  ∃ asked severity, entry.event = .registerDtc asked severity ∧ key asked = key code ∧ entry.output ≠ .index (-1)

def erase (e : DtcEntry) : DtcEntry := { e with status := freshStatus, snapshotLen := 0, extDataLen := 0 }

def Matches (groupMask : Word) (e : DtcEntry) : Prop :=
  groupMask = 0xFFFFFF ∨ e.dtcCode &&& groupMask = groupMask &&& 0xFFFFFF

instance (groupMask : Word) (e : DtcEntry) : Decidable (Matches groupMask e) := inferInstanceAs (Decidable (_ ∨ _))

def clear (groupMask : Word) (e : DtcEntry) : DtcEntry :=
  if Matches groupMask e then { e with status := freshStatus, snapshotLen := 0 } else e

def effect (code : Word) (e : DtcEntry) : DtcCall → DtcEntry
  | .registerDtc _ _ => e
  | .setTestResult asked failed =>
    if key asked = key code ∧ e.active = true then record failed e else e
  | .clearAll => erase e
  | .clearGroup groupMask => clear groupMask e
  | .updateOpCycle => endCycle e
  | .setSnapshot asked (some data) len => if key asked = key code then keep data len e else e
  | .setFreezeFrame asked _ (some data) len => if key asked = key code then keep data len e else e
  | .setSnapshot _ none _ => e
  | .setFreezeFrame _ _ none _ => e

def Captures (code : Word) (call : DtcCall) (data : Region Byte) (len : Nat) : Prop :=
  ∃ asked, call.captures = some (asked, data, len) ∧ key asked = key code

variable (m : DtcManager) (code : Word)

theorem captures_cases {call : DtcCall} {asked : Word} {data : Region Byte} {len : Nat}
    (given : call.captures = some (asked, data, len)) : call = .setSnapshot asked (some data) len ∨
      ∃ recordNum, call = .setFreezeFrame asked recordNum (some data) len := by
  cases call with
  | setSnapshot other source count =>
    cases source with
    | none => cases given
    | some source =>
      cases given
      exact Or.inl rfl
  | setFreezeFrame other recordNum source count =>
    cases source with
    | none => cases given
    | some source =>
      cases given
      exact Or.inr ⟨recordNum, rfl⟩
  | _ => cases given

theorem find_code {e : DtcEntry} (found : m.find code = some e) : e.dtcCode = key code := by
  have matched := List.find?_some found
  exact of_decide_eq_true matched

theorem find_key : m.find (key code) = m.find code := by
  show m.dtcs.find? (fun e => e.dtcCode = key (key code)) = m.dtcs.find? fun e => e.dtcCode = key code
  rw [key_key]

theorem find_congr {asked : Word} (same : key asked = key code) : m.find asked = m.find code := by
  rw [← find_key, same, find_key]

theorem find_isSome : (m.find code).isSome = true ↔ ∃ e ∈ m.dtcs, e.dtcCode = key code := by
  rw [find, List.find?_isSome]
  simp only [decide_eq_true_eq]
  exact Iff.rfl

theorem find_map (write : DtcEntry → DtcEntry) (keeps : ∀ e, (write e).dtcCode = e.dtcCode) :
    find ⟨m.dtcs.map write⟩ code = (m.find code).map write := by
  simp only [find, List.find?_map, Function.comp_def, keeps]

theorem find_modify (asked : Word) (write : DtcEntry → DtcEntry) (keeps : ∀ e, (write e).dtcCode = e.dtcCode) :
    (m.modify asked write).find code = if key asked = key code then (m.find code).map write else m.find code := by
  by_cases same : key asked = key code
  · have scan : (fun e : DtcEntry => decide (e.dtcCode = asked &&& 0xFFFFFF)) =
        fun e => decide (e.dtcCode = code &&& 0xFFFFFF) := congrArg (fun k => fun e : DtcEntry => decide (e.dtcCode = k)) same
    rw [if_pos same, modify, find, scan]
    exact find?_modify_same (fun e => by rw [keeps]) m.dtcs
  · rw [if_neg same]
    refine find?_modify_other (fun e => by rw [keeps]) (fun e found => ?_) m.dtcs
    have found : e.dtcCode = key asked := of_decide_eq_true found
    exact decide_eq_false fun other => same (found.symm.trans other)

theorem clear_dtcCode (groupMask : Word) (e : DtcEntry) : (clear groupMask e).dtcCode = e.dtcCode := by
  unfold clear
  split
  · rfl
  · rfl

theorem find_setTestResult (asked : Word) (failed : Bool) {e : DtcEntry} (found : m.find code = some e) :
    (m.setTestResult asked failed).find code = some (effect code e (.setTestResult asked failed)) := by
  unfold setTestResult effect
  by_cases same : key asked = key code
  · rw [find_congr m code same, found]
    dsimp only
    by_cases active : e.active = true
    · rw [if_pos active, if_pos ⟨same, active⟩, find_modify m code asked (record failed) fun _ => rfl, if_pos same, found]
      rfl
    · rw [if_neg active, if_neg fun both => active both.2, found]
  · have different : ¬ (key asked = key code ∧ e.active = true) := fun both => same both.1
    dsimp only
    rw [if_neg different]
    cases m.find asked with
    | none => exact found
    | some other =>
      dsimp only
      split
      · rw [find_modify m code asked (record failed) fun _ => rfl, if_neg same, found]
      · exact found

theorem find_capture (asked : Word) (data : Region Byte) (len : Nat) {e : DtcEntry} (found : m.find code = some e) :
    (m.capture asked (some data) len).2.find code = some (if key asked = key code then keep data len e else e) := by
  unfold capture
  by_cases same : key asked = key code
  · rw [find_congr m code same, found, if_pos same]
    dsimp only
    rw [find_modify m code asked (keep data len) fun _ => rfl, if_pos same, found]
    rfl
  · rw [if_neg same]
    cases m.find asked with
    | none => exact found
    | some other =>
      dsimp only
      rw [find_modify m code asked (keep data len) fun _ => rfl, if_neg same, found]

theorem capture_null (asked : Word) (len : Nat) : m.capture asked none len = (false, m) := by
  unfold capture
  cases m.find asked with
  | none => rfl
  | some e => rfl

theorem registerDtc_refused (severity : Byte) (reason : m.dtcs.length ≥ kMaxDtcs ∨ (m.find code).isSome = true) :
    m.registerDtc code severity = (-1, m) := by
  unfold registerDtc
  by_cases full : m.dtcs.length ≥ kMaxDtcs
  · rw [if_pos full]
  · rw [if_neg full, if_pos (reason.resolve_left full)]

def fresh (severity : Byte) : DtcEntry :=
  ⟨key code, freshStatus, severity, true, Region.fill 0, 0, Region.fill 0, 0⟩

theorem registerDtc_accepted (severity : Byte) (room : ¬ m.dtcs.length ≥ kMaxDtcs)
    (new : ¬ (m.find code).isSome = true) :
    m.registerDtc code severity = ((m.dtcs.length : Int), ⟨m.dtcs ++ [fresh code severity]⟩) := by
  rw [registerDtc, if_neg room, if_neg new]
  rfl

theorem find_append {e : DtcEntry} (added : DtcEntry) (found : m.find code = some e) :
    find ⟨m.dtcs ++ [added]⟩ code = some e := by
  rw [find, List.find?_append, Option.or_of_isSome]
  · exact found
  · exact Option.isSome_of_mem found

theorem find_next (call : DtcCall) {e : DtcEntry} (found : m.find code = some e) :
    (machine.next m call).find code = some (effect code e call) := by
  cases call with
  | registerDtc asked severity =>
    show (m.registerDtc asked severity).2.find code = some e
    by_cases refused : m.dtcs.length ≥ kMaxDtcs ∨ (m.find asked).isSome = true
    · rw [registerDtc_refused _ _ _ refused]
      exact found
    · obtain ⟨room, new⟩ := not_or.mp refused
      rw [registerDtc_accepted _ _ _ room new]
      exact m.find_append code _ found
  | setTestResult asked failed => exact m.find_setTestResult code asked failed found
  | clearAll => exact (m.find_map code erase fun _ => rfl).trans (congrArg (Option.map erase) found)
  | clearGroup groupMask =>
    exact (m.find_map code (clear groupMask) (clear_dtcCode groupMask)).trans (congrArg (Option.map _) found)
  | updateOpCycle => exact (m.find_map code endCycle fun _ => rfl).trans (congrArg (Option.map endCycle) found)
  | setSnapshot asked data len =>
    cases data with
    | none => exact (congrArg (fun result => result.2.find code) (m.capture_null asked len)).trans found
    | some data => exact m.find_capture code asked data len found
  | setFreezeFrame asked recordNum data len =>
    cases data with
    | none => exact (congrArg (fun result => result.2.find code) (m.capture_null asked len)).trans found
    | some data => exact m.find_capture code asked data len found

def identity (e : DtcEntry) : Word × Byte := (e.dtcCode, e.severity)

def identities : List (Word × Byte) := m.dtcs.map identity

def Refuses (asked : Word) : Prop := m.dtcs.length ≥ kMaxDtcs ∨ (m.find asked).isSome = true

instance (asked : Word) : Decidable (m.Refuses asked) := inferInstanceAs (Decidable (_ ∨ _))

def newcomers : DtcCall → List (Word × Byte)
  | .registerDtc asked severity => if m.Refuses asked then [] else [(key asked, severity)]
  | _ => []

theorem clear_identity (groupMask : Word) (e : DtcEntry) : identity (clear groupMask e) = identity e := by
  unfold clear
  split
  · rfl
  · rfl

theorem identities_map (write : DtcEntry → DtcEntry) (keeps : ∀ e, identity (write e) = identity e) :
    identities ⟨m.dtcs.map write⟩ = m.identities := by
  simp only [identities, List.map_map, Function.comp_def, keeps]

theorem identities_modify (asked : Word) (write : DtcEntry → DtcEntry) (keeps : ∀ e, identity (write e) = identity e) :
    (m.modify asked write).identities = m.identities :=
  map_modify keeps m.dtcs _

theorem identities_capture (asked : Word) (data : Option (Region Byte)) (len : Nat) :
    (m.capture asked data len).2.identities = m.identities := by
  unfold capture
  split
  · rename_i data _
    exact m.identities_modify asked (keep data len) fun _ => rfl
  · rfl

theorem next_identities (call : DtcCall) : (machine.next m call).identities = m.identities ++ m.newcomers call := by
  cases call with
  | registerDtc asked severity =>
    show (m.registerDtc asked severity).2.identities = m.identities ++ if m.Refuses asked then [] else [(key asked, severity)]
    by_cases refused : m.Refuses asked
    · rw [registerDtc_refused _ _ _ refused, if_pos refused, List.append_nil]
    · obtain ⟨room, new⟩ := not_or.mp refused
      rw [registerDtc_accepted _ _ _ room new, if_neg refused, identities, List.map_append]
      rfl
  | setTestResult asked failed =>
    show (m.setTestResult asked failed).identities = m.identities ++ []
    rw [List.append_nil, setTestResult]
    split
    · rfl
    · split
      · exact m.identities_modify asked (record failed) fun _ => rfl
      · rfl
  | clearAll => exact (m.identities_map erase fun _ => rfl).trans (List.append_nil _).symm
  | clearGroup groupMask =>
    exact (m.identities_map (clear groupMask) (clear_identity groupMask)).trans (List.append_nil _).symm
  | updateOpCycle => exact (m.identities_map endCycle fun _ => rfl).trans (List.append_nil _).symm
  | setSnapshot asked data len => exact (m.identities_capture asked data len).trans (List.append_nil _).symm
  | setFreezeFrame asked recordNum data len =>
    exact (m.identities_capture asked data len).trans (List.append_nil _).symm

theorem find_eq_none : m.find code = none ↔ ∀ known ∈ m.identities, known.1 ≠ key code := by
  rw [find, List.find?_eq_none]
  simp only [decide_eq_true_eq, identities, List.forall_mem_map, ne_eq]
  exact Iff.rfl

theorem register_output (asked : Word) (severity : Byte) :
    machine.output m (.registerDtc asked severity) = .index (-1) ↔ m.Refuses asked := by
  show DtcReply.index (m.registerDtc asked severity).1 = .index (-1) ↔ m.Refuses asked
  by_cases refused : m.Refuses asked
  · rw [registerDtc_refused _ _ _ refused]
    exact iff_of_true rfl refused
  · obtain ⟨room, new⟩ := not_or.mp refused
    rw [registerDtc_accepted _ _ _ room new]
    refine iff_of_false (fun same => ?_) refused
    have index : (m.dtcs.length : Int) = -1 := DtcReply.index.inj same
    omega

theorem registers_iff (call : DtcCall) : Registers code (machine.entry m call) ↔
    ∃ known ∈ m.newcomers call, known.1 = key code := by
  constructor
  · intro registers
    obtain ⟨asked, severity, same, named, accepted⟩ := registers
    have same : call = .registerDtc asked severity := same
    subst same
    have room := mt (m.register_output asked severity).mpr accepted
    exact ⟨(key asked, severity), by rw [newcomers, if_neg room]; exact List.mem_cons_self, named⟩
  · intro new
    obtain ⟨known, member, named⟩ := new
    cases call with
    | registerDtc asked severity =>
      by_cases refused : m.Refuses asked
      · rw [newcomers, if_pos refused] at member
        cases member
      · rw [newcomers, if_neg refused, List.mem_singleton] at member
        rw [member] at named
        exact ⟨asked, severity, rfl, named, mt (m.register_output asked severity).mp refused⟩
    | _ => cases member

theorem find_next_new (call : DtcCall) (unknown : m.find code = none) :
    (machine.next m call).find code = none ∧ ¬ Registers code (machine.entry m call) ∨
      ∃ severity, (machine.next m call).find code = some (fresh code severity) ∧
        Registers code (machine.entry m call) := by
  by_cases registers : Registers code (machine.entry m call)
  · refine Or.inr ?_
    obtain ⟨asked, severity, same, named, accepted⟩ := registers
    have same : call = .registerDtc asked severity := same
    subst same
    have room := mt (m.register_output asked severity).mpr accepted
    obtain ⟨room, new⟩ := not_or.mp room
    refine ⟨severity, ?_, asked, severity, rfl, named, accepted⟩
    show (m.registerDtc asked severity).2.find code = some (fresh code severity)
    have alike : fresh asked severity = fresh code severity := by rw [fresh, named, fresh]
    rw [registerDtc_accepted _ _ _ room new, alike, find, List.find?_append]
    rw [find] at unknown
    rw [unknown, Option.none_or, List.find?_cons_of_pos]
    exact decide_eq_true rfl
  · refine Or.inl ⟨?_, registers⟩
    rw [find_eq_none, next_identities]
    refine List.forall_mem_append.mpr ⟨(m.find_eq_none code).mp unknown, fun known member same => ?_⟩
    exact registers ((m.registers_iff code call).mpr ⟨known, member, same⟩)

end DtcManager

end Uds.Dtc
