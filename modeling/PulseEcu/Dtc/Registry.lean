import Mathlib.Data.List.Nodup
import PulseEcu.Dtc.DtcRun

open Foundation

namespace Uds.Dtc

def DtcCall.addressee : DtcCall → Option Word
  | .registerDtc code _ => some code
  | .setTestResult code _ => some code
  | .setSnapshot code _ _ => some code
  | .setFreezeFrame code _ _ _ => some code
  | _ => none

namespace DtcManager

/-- The store after a run of calls: distinct 24-bit codes that stay where they were registered,
    found exactly when they were, and written only by calls addressed to them. -/
structure Registry (past : List Entry) (m : DtcManager) : Prop where
  bound : m.dtcs.length ≤ kMaxDtcs
  below : ∀ e ∈ m.dtcs, e.dtcCode.toNat < 2 ^ 24
  distinct : (m.dtcs.map DtcEntry.dtcCode).Nodup
  fixed : ∀ entry ∈ past, entry.after.identities <+: m.identities
  named : ∀ code e, m.find code = some e → e.dtcCode = key code
  found : ∀ code, (m.find code).isSome = true ↔ ∃ entry ∈ past, Registers code entry
  refused : ∀ entry ∈ past, ∀ code severity, entry.event = .registerDtc code severity →
    (entry.output = .index (-1) ↔
      entry.before.dtcs.length = kMaxDtcs ∨ ∃ e ∈ entry.before.dtcs, e.dtcCode = key code) ∧
    (entry.output = .index (-1) → entry.after = entry.before)
  added : ∀ entry ∈ past, ∀ code severity, entry.event = .registerDtc code severity →
    entry.output ≠ .index (-1) → entry.output = .index entry.before.dtcs.length ∧
      entry.after.dtcs = entry.before.dtcs ++ [fresh code severity]
  apart : ∀ entry ∈ past, ∀ code, entry.event.addressee = some code → ∀ (i : Nat) (e : DtcEntry),
    entry.before.dtcs[i]? = some e → e.dtcCode ≠ key code → entry.after.dtcs[i]? = some e

variable {past : List Entry} {m : DtcManager}

theorem newcomers_cases (m : DtcManager) (call : DtcCall) : m.newcomers call = [] ∨
    ∃ asked severity, call = .registerDtc asked severity ∧ ¬ m.Refuses asked ∧
      m.newcomers call = [(key asked, severity)] := by
  cases call with
  | registerDtc asked severity =>
    by_cases refused : m.Refuses asked
    · exact Or.inl (if_pos refused)
    · exact Or.inr ⟨asked, severity, rfl, refused, if_neg refused⟩
  | _ => exact Or.inl rfl

theorem codes_eq (m : DtcManager) : m.dtcs.map DtcEntry.dtcCode = m.identities.map Prod.fst := by
  rw [identities, List.map_map]
  rfl

theorem identities_length (m : DtcManager) : m.identities.length = m.dtcs.length := List.length_map _

theorem next_bound (bound : m.dtcs.length ≤ kMaxDtcs) (call : DtcCall) :
    (machine.next m call).dtcs.length ≤ kMaxDtcs := by
  have length := congrArg List.length (m.next_identities call)
  rw [List.length_append, identities_length, identities_length] at length
  rcases m.newcomers_cases call with none | ⟨asked, severity, _, accepted, one⟩
  · rw [none, List.length_nil] at length
    omega
  · rw [one, List.length_singleton] at length
    have room := Nat.lt_of_not_le (not_or.mp accepted).1
    omega

theorem next_below (below : ∀ e ∈ m.dtcs, e.dtcCode.toNat < 2 ^ 24) (call : DtcCall) :
    ∀ e ∈ (machine.next m call).dtcs, e.dtcCode.toNat < 2 ^ 24 := by
  intro e member
  have known : identity e ∈ (machine.next m call).identities := List.mem_map_of_mem member
  rw [next_identities, List.mem_append] at known
  rcases known with old | new
  · obtain ⟨other, stored, same⟩ := List.mem_map.mp old
    have code : other.dtcCode = e.dtcCode := congrArg Prod.fst same
    rw [← code]
    exact below other stored
  · rcases m.newcomers_cases call with none | ⟨asked, severity, _, _, one⟩
    · rw [none] at new
      cases new
    · rw [one, List.mem_singleton] at new
      have code : e.dtcCode = key asked := congrArg Prod.fst new
      rw [code]
      exact key_lt asked

theorem next_distinct (distinct : (m.dtcs.map DtcEntry.dtcCode).Nodup) (call : DtcCall) :
    ((machine.next m call).dtcs.map DtcEntry.dtcCode).Nodup := by
  rw [codes_eq, next_identities, List.map_append, ← codes_eq]
  rcases m.newcomers_cases call with none | ⟨asked, severity, _, accepted, one⟩
  · rw [none, List.map_nil, List.append_nil]
    exact distinct
  · rw [one, List.map_singleton]
    refine List.nodup_append.mpr ⟨distinct, List.pairwise_singleton _ _, fun code member other new => ?_⟩
    have new : other = key asked := List.mem_singleton.mp new
    obtain ⟨e, stored, same⟩ := List.mem_map.mp member
    intro clash
    exact (not_or.mp accepted).2 ((m.find_isSome asked).mpr ⟨e, stored, same.trans (clash.trans new)⟩)

theorem next_found (code : Word) (call : DtcCall) : ((machine.next m call).find code).isSome = true ↔
    (m.find code).isSome = true ∨ Registers code (machine.entry m call) := by
  cases known : m.find code with
  | none =>
    rcases m.find_next_new code call known with ⟨still, unregistered⟩ | ⟨severity, new, registers⟩
    · simp [still, unregistered]
    · simp [new, registers]
  | some e => simp [m.find_next code call known]

theorem modify_apart (asked : Word) (write : DtcEntry → DtcEntry) {i : Nat} {e : DtcEntry}
    (stored : m.dtcs[i]? = some e) (other : e.dtcCode ≠ key asked) : (m.modify asked write).dtcs[i]? = some e :=
  getElem?_modify_apart stored (decide_eq_false other)

theorem capture_apart (asked : Word) (data : Option (Region Byte)) (len : Nat) {i : Nat} {e : DtcEntry}
    (stored : m.dtcs[i]? = some e) (other : e.dtcCode ≠ key asked) :
    (m.capture asked data len).2.dtcs[i]? = some e := by
  unfold capture
  split
  · exact modify_apart asked _ stored other
  · exact stored

theorem next_apart (call : DtcCall) (code : Word) (addressed : call.addressee = some code) (i : Nat) (e : DtcEntry)
    (stored : m.dtcs[i]? = some e) (other : e.dtcCode ≠ key code) : (machine.next m call).dtcs[i]? = some e := by
  cases call with
  | registerDtc asked severity =>
    show (m.registerDtc asked severity).2.dtcs[i]? = some e
    by_cases refused : m.Refuses asked
    · rw [registerDtc_refused _ _ _ refused]
      exact stored
    · obtain ⟨room, new⟩ := not_or.mp refused
      rw [registerDtc_accepted _ _ _ room new, List.getElem?_append_left (List.getElem?_eq_some_iff.mp stored).1]
      exact stored
  | setTestResult asked failed =>
    obtain rfl := Option.some.inj addressed
    show (m.setTestResult asked failed).dtcs[i]? = some e
    unfold setTestResult
    split
    · exact stored
    · split
      · exact modify_apart asked _ stored other
      · exact stored
  | setSnapshot asked data len =>
    obtain rfl := Option.some.inj addressed
    exact capture_apart asked data len stored other
  | setFreezeFrame asked recordNum data len =>
    obtain rfl := Option.some.inj addressed
    exact capture_apart asked data len stored other
  | _ => cases addressed

theorem next_refused (bound : m.dtcs.length ≤ kMaxDtcs) (code : Word) (severity : Byte) :
    (machine.output m (.registerDtc code severity) = .index (-1) ↔
      m.dtcs.length = kMaxDtcs ∨ ∃ e ∈ m.dtcs, e.dtcCode = key code) ∧
    (machine.output m (.registerDtc code severity) = .index (-1) →
      machine.next m (.registerDtc code severity) = m) := by
  have full : m.dtcs.length ≥ kMaxDtcs ↔ m.dtcs.length = kMaxDtcs := by omega
  refine ⟨(m.register_output code severity).trans (or_congr full (m.find_isSome code)), fun refused => ?_⟩
  have refuses := (m.register_output code severity).mp refused
  exact congrArg Prod.snd (m.registerDtc_refused code severity refuses)

theorem next_added (code : Word) (severity : Byte)
    (accepted : machine.output m (.registerDtc code severity) ≠ .index (-1)) :
    machine.output m (.registerDtc code severity) = .index m.dtcs.length ∧
      (machine.next m (.registerDtc code severity)).dtcs = m.dtcs ++ [fresh code severity] := by
  have refuses := mt (m.register_output code severity).mpr accepted
  obtain ⟨room, new⟩ := not_or.mp refuses
  have registered := m.registerDtc_accepted code severity room new
  refine ⟨?_, ?_⟩
  · exact congrArg (fun result => DtcReply.index result.1) registered
  · exact congrArg (fun result => result.2.dtcs) registered

/-- The codes are distinct, so a lookup finds the only entry of a code. -/
theorem Registry.find_of_mem (registry : Registry past m) {e : DtcEntry} (member : e ∈ m.dtcs) {code : Word}
    (named : key code = e.dtcCode) : m.find code = some e := by
  obtain ⟨found, known⟩ := Option.isSome_iff_exists.mp ((m.find_isSome code).mpr ⟨e, member, named.symm⟩)
  have same : found.dtcCode = e.dtcCode := (find_code m code known).trans named
  rw [known, List.inj_on_of_nodup_map registry.distinct (List.mem_of_find?_eq_some known) member same]

theorem Registry.next (registry : Registry past m) (call : DtcCall) :
    Registry (past ++ [machine.entry m call]) (machine.next m call) where
  bound := next_bound registry.bound call
  below := next_below registry.below call
  distinct := next_distinct registry.distinct call
  fixed := by
    refine Machine.forall_mem_snoc (fun entry member => ?_) List.prefix_rfl
    rw [next_identities]
    exact (registry.fixed entry member).trans (List.prefix_append _ _)
  named := fun code e known => find_code _ code known
  found := by
    intro code
    rw [next_found, registry.found]
    simp only [List.mem_append, List.mem_singleton, or_and_right, exists_or, exists_eq_left]
  refused := by
    refine Machine.forall_mem_snoc registry.refused fun code severity same => ?_
    have same : call = .registerDtc code severity := same
    rw [same]
    exact next_refused registry.bound code severity
  added := by
    refine Machine.forall_mem_snoc registry.added fun code severity same accepted => ?_
    have same : call = .registerDtc code severity := same
    subst same
    exact next_added code severity accepted
  apart := Machine.forall_mem_snoc registry.apart (next_apart call)

theorem create_registry : Registry [] create := by
  refine ⟨Nat.zero_le _, ?_, List.nodup_nil, ?_, fun code e known => ?_, fun code => ?_, ?_, ?_, ?_⟩
  · exact List.forall_mem_nil _
  · exact List.forall_mem_nil _
  · cases known
  · refine iff_of_false (fun known => ?_) fun registered => ?_
    · cases known
    · obtain ⟨entry, member, _⟩ := registered
      cases member
  · exact List.forall_mem_nil _
  · exact List.forall_mem_nil _
  · exact List.forall_mem_nil _

/-- The registry keeps its invariant in every run of calls on a fresh manager. -/
theorem registry_sound (calls : List DtcCall) : Registry (machine.trace create calls) (machine.run create calls) :=
  machine.trace_invariant_all (fun past m call (registry : Registry past m) => registry.next call) create calls
    create_registry

end DtcManager

end Uds.Dtc
