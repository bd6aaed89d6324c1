import PulseEcu.Services.ServiceBase

open Foundation

namespace Uds

/-- What a function of the application that a handler calls has to say: nothing, since it only
    reads, that it failed, or that it had its effect. -/
inductive Report where
  | read
  | failed
  | done
  deriving DecidableEq

/-- The calls before a negative response: some that read, and at the end perhaps one that failed. -/
def StoppedBy {κ : Type} (report : κ → Report) (calls : List κ) : Prop :=
  (∀ call ∈ calls.dropLast, report call = .read) ∧ ∀ call ∈ calls.getLast?, report call ≠ .done

/-- A handler turns a request down before it does anything, gives up when an application function
    fails, or answers positively. It turns down the requests that it does not accept, and only these.
    `Left` says which states it leaves when it gives up. -/
inductive Serves {κ σ : Type} (sid : ServiceId) (before : σ) (Left : σ → Prop) (report : κ → Report) (accepts : Prop)
    (handled : Handled κ σ) : Prop
  | refused (denied : ¬ accepts) (no : handled.IsNegative sid) (state : handled.state = before)
      (calls : handled.calls = [])
  | gaveUp (accepted : accepts) (no : handled.IsNegative sid) (state : Left handled.state) (called : handled.calls ≠ [])
      (calls : StoppedBy report handled.calls)
  | answered (accepted : accepts) (first : handled.resp 0 = sid + 0x40) (nonempty : 0 < handled.respLen)

structure Fits {σ : Type} (space : Nat) (resp : Region Byte) (answer : Answer σ) : Prop where
  length : answer.respLen ≤ space
  kept : Region.KeptFrom space resp answer.resp

def Handled.map {κ μ σ τ : Type} (handled : Handled κ σ) (state : σ → τ) (call : κ → μ) : Handled μ τ :=
  ⟨⟨handled.send, handled.resp, handled.respLen, state handled.state⟩, handled.calls.map call⟩

section

variable {κ μ σ τ : Type} {sid : ServiceId} {before : σ} {Left : σ → Prop} {report : κ → Report} {accepts : Prop}
  {handled : Handled κ σ} {resp after : Region Byte} {space : Nat}

theorem StoppedBy.nil (report : κ → Report) : StoppedBy report [] := by
  constructor
  · intro call member
    cases member
  · intro call last
    cases last

theorem StoppedBy.single {call : κ} (report : κ → Report) (failed : report call ≠ .done) : StoppedBy report [call] := by
  constructor
  · intro other member
    cases member
  · intro other last
    cases last
    exact failed

theorem StoppedBy.readings {report : κ → Report} {calls : List κ} (readings : ∀ call ∈ calls, report call = .read) :
    StoppedBy report calls := by
  constructor
  · exact fun call member => readings call ((List.dropLast_sublist calls).subset member)
  · intro call last
    rw [readings call (List.mem_of_getLast? last)]
    decide

theorem Serves.refuse (denied : ¬ accepts) (resp : Region Byte) (nrc : NrcCode) :
    Serves sid before Left report accepts (negative resp sid nrc before []) :=
  .refused denied (negative_isNegative ..) rfl rfl

theorem Serves.fail (accepted : accepts) (resp : Region Byte) (nrc : NrcCode) {state : σ} {call : κ}
    (left : Left state) (failed : report call ≠ .done) :
    Serves sid before Left report accepts (negative resp sid nrc state [call]) :=
  .gaveUp accepted (negative_isNegative ..) left (List.cons_ne_nil _ _) (.single report failed)

theorem message_head (answer : Answer σ) (send : answer.send = true) (nonempty : 0 < answer.respLen) :
    answer.message.head? = some (answer.resp 0) := by
  rw [Answer.message, if_pos send]
  cases length : answer.respLen with
  | zero => omega
  | succ n => simp [Region.load, List.range_succ_eq_map]

/-- No service has 0x3F as its number, the only one whose positive response would start like a
    negative one. -/
theorem positive_not_negative {answer : Answer σ} (first : answer.resp 0 = sid + 0x40) (nonempty : 0 < answer.respLen)
    (service : sid + 0x40 ≠ ServiceId.negativeResponse) : ¬ answer.IsNegative sid := by
  intro negative
  obtain ⟨nrc, no⟩ := negative
  cases send : answer.send with
  | false => simp [Answer.message, send] at no
  | true =>
    have head := message_head answer send nonempty
    rw [no, first] at head
    exact service (Option.some.inj head).symm

theorem negative_head {answer : Answer σ} (no : answer.IsNegative sid) (service : sid + 0x40 ≠ ServiceId.negativeResponse) :
    answer.message.head? ≠ some (sid + 0x40) := by
  obtain ⟨nrc, message⟩ := no
  rw [message]
  intro head
  exact service (Option.some.inj head).symm

theorem StoppedBy.map {calls : List κ} (stopped : StoppedBy report calls) {report' : μ → Report} (call : κ → μ)
    (reports : ∀ c, report' (call c) = report c) : StoppedBy report' (calls.map call) := by
  constructor
  · intro other member
    rw [← List.map_dropLast] at member
    obtain ⟨earlier, known, rfl⟩ := List.mem_map.mp member
    rw [reports]
    exact stopped.1 earlier known
  · intro other last
    simp only [List.getLast?_map, Option.mem_def, Option.map_eq_some_iff] at last
    obtain ⟨earlier, known, rfl⟩ := last
    rw [reports]
    exact stopped.2 earlier known

theorem Serves.map (serves : Serves sid before Left report accepts handled) (state : σ → τ) (call : κ → μ)
    {Left' : τ → Prop} {report' : μ → Report} (reports : ∀ c, report' (call c) = report c)
    (left : ∀ s, Left s → Left' (state s)) :
    Serves sid (state before) Left' report' accepts (handled.map state call) := by
  cases serves with
  | refused denied no same calls => exact .refused denied no (congrArg state same) (by rw [Handled.map, calls]; rfl)
  | gaveUp accepted no same called calls =>
    exact .gaveUp accepted no (left _ same) (by simpa [Handled.map] using called) (calls.map call reports)
  | answered accepted first nonempty => exact .answered accepted first nonempty

theorem Serves.denied (serves : Serves sid before Left report accepts handled)
    (effective : ∀ call ∈ handled.calls, report call = .done) (service : sid + 0x40 ≠ ServiceId.negativeResponse)
    (no : handled.IsNegative sid) : ¬ accepts := by
  cases serves with
  | refused denied => exact denied
  | gaveUp _ _ _ called calls =>
    have last := List.getLast?_eq_some_getLast called
    exact absurd (effective _ (List.getLast_mem called)) (calls.2 _ last)
  | answered _ first nonempty => exact absurd no (positive_not_negative first nonempty service)

theorem Serves.refused_iff (serves : Serves sid before Left report accepts handled)
    (service : sid + 0x40 ≠ ServiceId.negativeResponse) :
    handled.IsNegative sid ∧ handled.calls = [] ∧ handled.state = before ↔ ¬ accepts := by
  cases serves with
  | refused denied no state calls => exact ⟨fun _ => denied, fun _ => ⟨no, calls, state⟩⟩
  | gaveUp accepted _ _ called _ =>
    exact ⟨fun refused => absurd refused.2.1 called, fun denied => absurd accepted denied⟩
  | answered accepted first nonempty =>
    constructor
    · exact fun refused => absurd refused.1 (positive_not_negative first nonempty service)
    · exact fun denied => absurd accepted denied

/-- Before a negative response nothing changed that `Left` does not name, and nothing was called
    with effect. -/
theorem Serves.negative (serves : Serves sid before Left report accepts handled) (unchanged : Left before)
    (service : sid + 0x40 ≠ ServiceId.negativeResponse) (no : handled.IsNegative sid) :
    Left handled.state ∧ StoppedBy report handled.calls := by
  cases serves with
  | refused _ _ state calls =>
    rw [state, calls]
    exact ⟨unchanged, .nil report⟩
  | gaveUp _ _ left _ calls => exact ⟨left, calls⟩
  | answered _ first nonempty => exact absurd no (positive_not_negative first nonempty service)

theorem Fits.negative {κ : Type} (kept : Region.KeptFrom space resp after) (enough : 3 ≤ space) (sid : ServiceId)
    (nrc : NrcCode) (state : σ) (calls : List κ) :
    Fits space resp (Uds.negative after sid nrc state calls).toAnswer :=
  have inside : 0 + [ServiceId.negativeResponse, sid, nrc.toByte].length ≤ space := by simpa using enough
  ⟨enough, kept.store inside⟩

theorem Fits.map (fits : Fits space resp handled.toAnswer) (state : σ → τ) (call : κ → μ) :
    Fits space resp (handled.map state call).toAnswer := ⟨fits.length, fits.kept⟩

theorem Fits.header (kept : Region.KeptFrom space resp after) (bytes : List Byte) (inside : bytes.length ≤ space)
    (send : Bool) (state : σ) : Fits space resp ⟨send, after.store 0 bytes, bytes.length, state⟩ :=
  ⟨inside, kept.store (Nat.le_trans (Nat.le_of_eq (Nat.zero_add _)) inside)⟩

end

end Uds
