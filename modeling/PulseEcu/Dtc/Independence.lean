import PulseEcu.Dtc.Registry
import PulseEcu.Foundation.Simulation

open Foundation

namespace Uds.Dtc

/-- Calls for one other code, apart from its registration, which takes up room. -/
def DtcCall.elsewhere (code : Word) : DtcCall → Bool
  | .setTestResult asked _ => key asked ≠ key code
  | .setSnapshot asked _ _ => key asked ≠ key code
  | .setFreezeFrame asked _ _ _ => key asked ≠ key code
  | _ => false

def DtcCall.here (code : Word) (call : DtcCall) : Option DtcCall := if call.elsewhere code then none else some call

namespace DtcManager

/-- Two stores that have the same codes, and the same under this one. -/
structure Alike (code : Word) (m n : DtcManager) : Prop where
  identities : m.identities = n.identities
  entry : m.find code = n.find code

section

variable {code : Word} {m n : DtcManager}

theorem known_congr (same : m.identities = n.identities) (asked : Word) :
    (m.find asked).isSome = (n.find asked).isSome := by
  have unknown : m.find asked = none ↔ n.find asked = none := by rw [find_eq_none, find_eq_none, same]
  cases first : m.find asked with
  | none => rw [unknown.mp first]
  | some e =>
    cases second : n.find asked with
    | none => cases (unknown.mpr second).symm.trans first
    | some e => rfl

theorem refuses_congr (same : m.identities = n.identities) (asked : Word) : m.Refuses asked ↔ n.Refuses asked := by
  rw [Refuses, Refuses, ← identities_length, same, identities_length, known_congr same]

/-- A call for another code leaves the codes and this entry alone. -/
theorem next_elsewhere (m : DtcManager) {call : DtcCall} (elsewhere : call.elsewhere code = true) :
    Alike code (machine.next m call) m := by
  have newcomers : m.newcomers call = [] := by
    cases call with
    | registerDtc => cases elsewhere
    | _ => rfl
  refine ⟨by rw [next_identities, newcomers, List.append_nil], ?_⟩
  cases found : m.find code with
  | none =>
    rcases m.find_next_new code call found with ⟨still, _⟩ | ⟨_, _, registers⟩
    · exact still
    · obtain ⟨known, member, _⟩ := (m.registers_iff code call).mp registers
      rw [newcomers] at member
      cases member
  | some e =>
    have kept : effect code e call = e := by
      cases call with
      | setTestResult asked failed => exact if_neg fun both => of_decide_eq_true elsewhere both.1
      | setSnapshot asked data len =>
        cases data with
        | none => rfl
        | some data => exact if_neg (of_decide_eq_true elsewhere)
      | setFreezeFrame asked recordNum data len =>
        cases data with
        | none => rfl
        | some data => exact if_neg (of_decide_eq_true elsewhere)
      | _ => cases elsewhere
    rw [m.find_next code call found, kept]

theorem Alike.registered (alike : Alike code m n) (asked : Word) (severity : Byte) :
    (machine.next m (.registerDtc asked severity)).find code = (machine.next n (.registerDtc asked severity)).find code ∧
      machine.output m (.registerDtc asked severity) = machine.output n (.registerDtc asked severity) := by
  show (m.registerDtc asked severity).2.find code = (n.registerDtc asked severity).2.find code ∧
    DtcReply.index (m.registerDtc asked severity).1 = .index (n.registerDtc asked severity).1
  have refuses := refuses_congr alike.identities asked
  by_cases refused : m.Refuses asked
  · rw [registerDtc_refused _ _ _ refused, registerDtc_refused _ _ _ (refuses.mp refused)]
    exact ⟨alike.entry, rfl⟩
  · obtain ⟨room, new⟩ := not_or.mp refused
    obtain ⟨room', new'⟩ := not_or.mp (mt refuses.mpr refused)
    have length : m.dtcs.length = n.dtcs.length := by
      rw [← identities_length, alike.identities, identities_length]
    have entry := alike.entry
    rw [find, find] at entry
    rw [registerDtc_accepted _ _ _ room new, registerDtc_accepted _ _ _ room' new', find, find, List.find?_append,
      List.find?_append, entry, length]
    exact ⟨rfl, rfl⟩

theorem captured_congr (same : m.identities = n.identities) (asked : Word) (data : Option (Region Byte)) (len : Nat) :
    (m.capture asked data len).1 = (n.capture asked data len).1 := by
  have known := known_congr same asked
  unfold capture
  cases first : m.find asked with
  | none =>
    rw [first] at known
    have second : n.find asked = none := by
      cases second : n.find asked with
      | none => rfl
      | some e =>
        rw [second] at known
        cases known
    rw [second]
  | some e =>
    rw [first] at known
    obtain ⟨other, second⟩ := Option.isSome_iff_exists.mp known.symm
    rw [second]
    cases data with
    | none => rfl
    | some data => rfl

/-- A call for this code, or for all, does the same to both stores. -/
theorem Alike.next (alike : Alike code m n) (call : DtcCall) : Alike code (machine.next m call) (machine.next n call) ∧
    machine.output m call = machine.output n call := by
  have newcomers : m.newcomers call = n.newcomers call := by
    cases call with
    | registerDtc asked severity =>
      simp only [DtcManager.newcomers, refuses_congr alike.identities asked]
    | _ => rfl
  have identities : (machine.next m call).identities = (machine.next n call).identities := by
    rw [next_identities, next_identities, alike.identities, newcomers]
  have output : machine.output m call = machine.output n call := by
    cases call with
    | registerDtc asked severity => exact (alike.registered asked severity).2
    | setSnapshot asked data len => exact congrArg DtcReply.stored (captured_congr alike.identities asked data len)
    | setFreezeFrame asked recordNum data len =>
      exact congrArg DtcReply.stored (captured_congr alike.identities asked data len)
    | _ => rfl
  refine ⟨⟨identities, ?_⟩, output⟩
  cases found : m.find code with
  | some e => rw [m.find_next code call found, n.find_next code call (alike.entry.symm.trans found)]
  | none =>
    cases call with
    | registerDtc asked severity => exact (alike.registered asked severity).1
    | _ =>
      have unknown := alike.entry.symm.trans found
      have still : ∀ k : DtcManager, k.find code = none → ∀ call, k.newcomers call = [] →
          (machine.next k call).find code = none := by
        intro k unknown call none
        rcases k.find_next_new code call unknown with ⟨still, _⟩ | ⟨_, _, registers⟩
        · exact still
        · obtain ⟨known, member, _⟩ := (k.registers_iff code call).mp registers
          rw [none] at member
          cases member
      rw [still m found _ rfl, still n unknown _ rfl]

theorem machine_simulates_here (code : Word) :
    machine.Simulates machine (Alike code) (DtcCall.here code) fun _ _ _ => True := by
  constructor
  · intro m n call means alike _ meaning
    rw [DtcCall.here] at meaning
    split at meaning
    · cases meaning
    · cases meaning
      exact alike.next call
  · intro m n call alike _ meaning
    rw [DtcCall.here] at meaning
    split at meaning
    · rename_i elsewhere
      have kept := next_elsewhere m elsewhere
      exact ⟨kept.identities.trans alike.identities, kept.entry.trans alike.entry⟩
    · cases meaning

end

/-- Codes do not get in each other's way: without the test results, snapshots and freeze frames of
    other codes a run leaves the same entry under a code, and its other calls return the same. -/
theorem codes_independent (code : Word) (calls : List DtcCall) :
    (machine.run create calls).find code = (machine.run create (calls.filterMap (DtcCall.here code))).find code ∧
      Machine.shown (DtcCall.here code) (machine.trace create calls) =
        (machine.trace create (calls.filterMap (DtcCall.here code))).map Machine.Entry.output := by
  obtain ⟨alike, shown⟩ := (machine_simulates_here code).run_all ⟨rfl, rfl⟩ calls
  exact ⟨alike.entry, shown⟩

end DtcManager

end Uds.Dtc
