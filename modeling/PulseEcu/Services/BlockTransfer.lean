import PulseEcu.Foundation.Run
import PulseEcu.Services.Transfer

open Foundation

namespace Uds

structure BlockTransfer (ω : Type) where
  td : TransferDataService ω
  world : ω

namespace BlockTransfer

variable {ω : Type}

structure Request where
  req : Region Byte
  reqLen : Nat
  resp : Region Byte
  respLen : Nat
  session : UdsSession

structure Reply where
  message : List Byte
  callbacks : List (TransferCall × Bool)

def handle (s : BlockTransfer ω) (r : Request) : Handled TransferCall (TransferDataService ω × ω) :=
  s.td.handle r.req r.reqLen r.resp r.respLen r.session s.world

def verdict (s : BlockTransfer ω) (r : Request) : Bool := s.td.verdict r.req r.reqLen s.world

def machine (ω : Type) : Machine (BlockTransfer ω) Request Reply where
  step s r :=
    let handled := s.handle r
    (⟨handled.state.1, handled.state.2⟩, ⟨handled.message, handled.calls.map fun call => (call, s.verdict r)⟩)

abbrev Entry (ω : Type) := Machine.Entry (BlockTransfer ω) Request Reply

def Request.payload (r : Request) : List Byte := r.req.load 2 (r.reqLen - 2)

def Reply.Positive (reply : Reply) : Prop := reply.message.head? = some (TransferDataService.serviceId + 0x40)

instance (reply : Reply) : Decidable reply.Positive := inferInstanceAs (Decidable (_ = _))

def taken (past : List (Entry ω)) : List (Entry ω) := past.filter fun entry => entry.output.Positive

def Reply.delivered (reply : Reply) : List (Byte × List Byte) :=
  reply.callbacks.filterMap fun
    | (.block seq data, true) => some (seq, data)
    | _ => none

def counter (k : Nat) : Byte := BitVec.ofNat 8 k

/-- Blocks are taken in order, each one delivered once, and a block that is not taken can be sent again. -/
structure InOrder (past : List (Entry ω)) (s : BlockTransfer ω) : Prop where
  counters : (taken past).map (fun entry => entry.event.req 1) =
    (List.range (taken past).length).map fun k => counter (k + 1)
  once : ∀ entry ∈ past,
    entry.output.delivered = if entry.output.Positive then [(entry.event.req 1, entry.event.payload)] else []
  data : past.flatMap (fun entry => entry.output.delivered.flatMap Prod.snd) =
    (taken past).flatMap fun entry => entry.event.payload
  refused : ∀ entry ∈ past, entry.event.reqLen < 2 ∨ entry.event.req 1 ≠ entry.before.td.expectedSeq ∨
    entry.before.verdict entry.event = false → ¬ entry.output.Positive
  unchanged : ∀ entry ∈ past, ¬ entry.output.Positive → entry.after.td = entry.before.td
  retry : ∀ r : Request, 2 ≤ r.reqLen → r.req 1 = counter ((taken past).length + 1) → s.verdict r = true →
    ((machine ω).output s r).Positive

structure Awaiting (past : List (Entry ω)) (s : BlockTransfer ω) : Prop where
  running : s.td.active = true
  given : s.td.callback ≠ none
  expected : s.td.expectedSeq = counter ((taken past).length + 1)
  counters : (taken past).map (fun entry => entry.event.req 1) =
    (List.range (taken past).length).map fun k => counter (k + 1)
  once : ∀ entry ∈ past,
    entry.output.delivered = if entry.output.Positive then [(entry.event.req 1, entry.event.payload)] else []
  refused : ∀ entry ∈ past, entry.event.reqLen < 2 ∨ entry.event.req 1 ≠ entry.before.td.expectedSeq ∨
    entry.before.verdict entry.event = false → ¬ entry.output.Positive
  unchanged : ∀ entry ∈ past, ¬ entry.output.Positive → entry.after.td = entry.before.td

variable {past : List (Entry ω)} {s : BlockTransfer ω}

theorem counter_succ (k : Nat) : counter k + 1 = counter (k + 1) := by
  apply BitVec.eq_of_toNat_eq
  simp [counter]

theorem taken_snoc (past : List (Entry ω)) (entry : Entry ω) :
    taken (past ++ [entry]) = taken past ++ if entry.output.Positive then [entry] else [] := by
  rw [taken, List.filter_append, ← taken]
  by_cases positive : entry.output.Positive
  · simp [positive]
  · simp [positive]

theorem positive_iff (s : BlockTransfer ω) (r : Request) :
    ((machine ω).output s r).Positive ↔ s.td.Accepts r.req r.reqLen ∧ s.verdict r = true :=
  s.td.handle_positive_iff r.req r.reqLen r.resp r.respLen r.session s.world

theorem delivered_of (given : s.td.callback ≠ none) (r : Request) : ((machine ω).output s r).delivered =
    if ((machine ω).output s r).Positive then [(r.req 1, r.payload)] else [] := by
  have calls := s.td.handle_blocks r.req r.reqLen r.resp r.respLen r.session s.world given
  have callbacks : ((machine ω).output s r).callbacks =
      (if s.td.Accepts r.req r.reqLen then [TransferCall.block (r.req 1) r.payload] else []).map
        fun call => (call, s.verdict r) := congrArg (List.map fun call => (call, s.verdict r)) calls
  rw [Reply.delivered, callbacks]
  by_cases accepted : s.td.Accepts r.req r.reqLen
  · rw [if_pos accepted]
    cases takes : s.verdict r with
    | true =>
      rw [if_pos ((positive_iff s r).mpr ⟨accepted, takes⟩)]
      rfl
    | false =>
      rw [if_neg fun positive => Bool.noConfusion (takes.symm.trans ((positive_iff s r).mp positive).2)]
      rfl
  · rw [if_neg accepted, if_neg fun positive => accepted ((positive_iff s r).mp positive).1]
    rfl

theorem refused_of (r : Request)
    (reason : r.reqLen < 2 ∨ r.req 1 ≠ s.td.expectedSeq ∨ s.verdict r = false) : ¬ ((machine ω).output s r).Positive := by
  intro positive
  obtain ⟨accepted, takes⟩ := (positive_iff s r).mp positive
  rcases reason with short | other | failed
  · exact absurd accepted.1 (Nat.not_le.mpr short)
  · exact other accepted.2.2
  · exact Bool.noConfusion (failed.symm.trans takes)

theorem unchanged_of (r : Request) (no : ¬ ((machine ω).output s r).Positive) : ((machine ω).next s r).td = s.td :=
  (s.td.handle_untaken r.req r.reqLen r.resp r.respLen r.session s.world
    fun taken => no ((positive_iff s r).mpr taken)).2

theorem Awaiting.next (awaiting : Awaiting past s) (r : Request) :
    Awaiting (past ++ [(machine ω).entry s r]) ((machine ω).next s r) := by
  have once := @Machine.forall_mem_snoc _ _ _ ((machine ω).entry s r) awaiting.once (delivered_of awaiting.given r)
  have refused := @Machine.forall_mem_snoc _ _ _ ((machine ω).entry s r) awaiting.refused (refused_of r)
  have unchanged := @Machine.forall_mem_snoc _ _ _ ((machine ω).entry s r) awaiting.unchanged (unchanged_of r)
  by_cases positive : ((machine ω).output s r).Positive
  · obtain ⟨accepted, takes⟩ := (positive_iff s r).mp positive
    have after : ((machine ω).next s r).td = { s.td with expectedSeq := s.td.expectedSeq + 1 } :=
      (s.td.handle_taken r.req r.reqLen r.resp r.respLen r.session s.world accepted takes).2
    have longer : taken (past ++ [(machine ω).entry s r]) = taken past ++ [(machine ω).entry s r] := by
      rw [taken_snoc]
      exact congrArg (taken past ++ ·) (if_pos positive)
    have seq : r.req 1 = counter ((taken past).length + 1) := accepted.2.2.trans awaiting.expected
    refine ⟨?_, ?_, ?_, ?_, once, refused, unchanged⟩
    · rw [after]
      exact awaiting.running
    · rw [after]
      exact awaiting.given
    · rw [after, longer, List.length_append, List.length_singleton, ← counter_succ, ← awaiting.expected]
    · rw [longer, List.map_append, awaiting.counters, List.length_append, List.length_singleton, List.range_succ,
        List.map_append]
      exact congrArg (_ ++ [·]) seq
  · have after := unchanged_of r positive
    have same : taken (past ++ [(machine ω).entry s r]) = taken past := by
      rw [taken_snoc]
      exact (congrArg (taken past ++ ·) (if_neg positive)).trans (List.append_nil _)
    refine ⟨?_, ?_, ?_, ?_, once, refused, unchanged⟩
    · rw [after]
      exact awaiting.running
    · rw [after]
      exact awaiting.given
    · rw [after, same]
      exact awaiting.expected
    · rw [same]
      exact awaiting.counters

theorem delivered_data (past : List (Entry ω)) (once : ∀ entry ∈ past, entry.output.delivered =
    if entry.output.Positive then [(entry.event.req 1, entry.event.payload)] else []) :
    past.flatMap (fun entry => entry.output.delivered.flatMap Prod.snd) =
      (taken past).flatMap fun entry => entry.event.payload := by
  induction past with
  | nil => rfl
  | cons entry past ih =>
    have rest := ih fun other member => once other (List.mem_cons_of_mem _ member)
    have first := once entry List.mem_cons_self
    rw [List.flatMap_cons, rest, first]
    by_cases positive : entry.output.Positive
    · simp [positive, taken]
    · simp [positive, taken]

theorem Awaiting.inOrder (awaiting : Awaiting past s) : InOrder past s := by
  refine ⟨awaiting.counters, awaiting.once, delivered_data past awaiting.once, awaiting.refused, awaiting.unchanged,
    fun r long seq takes => ?_⟩
  exact (positive_iff s r).mpr ⟨⟨long, awaiting.running, seq.trans awaiting.expected.symm⟩, takes⟩

/-- From `start` on, every run of requests delivers the taken blocks once each and in order. -/
theorem blocks_in_order (callback : Byte → Region Byte → Nat → ω → Bool × ω) (expectedSeq : Byte) (active : Bool)
    (world : ω) (requests : List Request) :
    InOrder ((machine ω).trace ⟨(TransferDataService.mk (some callback) expectedSeq active).start, world⟩ requests)
      ((machine ω).run ⟨(TransferDataService.mk (some callback) expectedSeq active).start, world⟩ requests) := by
  have initial : Awaiting [] ⟨(TransferDataService.mk (some callback) expectedSeq active).start, world⟩ :=
    ⟨rfl, Option.some_ne_none callback, rfl, rfl, List.forall_mem_nil _, List.forall_mem_nil _, List.forall_mem_nil _⟩
  have awaiting := (machine ω).trace_invariant_all
    (fun past s r (awaiting : Awaiting past s) => awaiting.next r) _ requests initial
  exact awaiting.inOrder

end BlockTransfer

end Uds
