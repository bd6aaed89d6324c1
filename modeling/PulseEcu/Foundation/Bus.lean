import Mathlib.Data.List.Induction
import Mathlib.Logic.Function.Basic
import PulseEcu.Foundation.Run

namespace Foundation

variable {ι Act Context Action Message : Type} {State : ι → Type}

/-- Machines that send messages: what a node does with a message that it reads, and what it does on its own. -/
structure Nodes (ι Act Context Action Message : Type) (State : ι → Type) where
  machine : (i : ι) → Machine (State i) Act (List Message)
  read : Context → Message → Act
  act : Action → Act

structure Bus (Message : Type) (State : ι → Type) where
  node : (i : ι) → State i
  inbox : ι → List Message

inductive BusEvent (ι Context Action Message : Type) where
  | inject (message : Message)
  | read (i : ι) (context : Context)
  | miss (i : ι)
  | act (i : ι) (action : Action)

namespace Bus

variable [DecidableEq ι]

/-- A node that sends does not hear itself. -/
def send (bus : Bus Message State) (sender : Option ι) (messages : List Message) : Bus Message State :=
  { bus with inbox := fun j => if sender = some j then bus.inbox j else bus.inbox j ++ messages }

def move (bus : Bus Message State) (i : ι) (state : State i) : Bus Message State :=
  { bus with node := Function.update bus.node i state }

def drop (bus : Bus Message State) (i : ι) : Bus Message State :=
  { bus with inbox := Function.update bus.inbox i (bus.inbox i).tail }

def perform (nodes : Nodes ι Act Context Action Message State) (bus : Bus Message State) (i : ι) (act : Act) :
    Bus Message State × (Option ι × List Message) :=
  let done := (nodes.machine i).step (bus.node i) act
  ((bus.move i done.1).send (some i) done.2, (some i, done.2))

/-- What a step shows is who sends, none for the outside, and what. -/
def machine (nodes : Nodes ι Act Context Action Message State) :
    Machine (Bus Message State) (BusEvent ι Context Action Message) (Option ι × List Message) where
  step bus
    | .inject message => (bus.send none [message], (none, [message]))
    | .read i context =>
      match bus.inbox i with
      | [] => (bus, (none, []))
      | message :: _ => (bus.drop i).perform nodes i (nodes.read context message)
    | .miss i => (bus.drop i, (none, []))
    | .act i action => bus.perform nodes i (nodes.act action)

abbrev Entry (ι Context Action Message : Type) (State : ι → Type) :=
  Machine.Entry (Bus Message State) (BusEvent ι Context Action Message) (Option ι × List Message)

section

variable (nodes : Nodes ι Act Context Action Message State) (i : ι) (addressed : Message → Prop)
  [DecidablePred addressed]

def taken (entry : Entry ι Context Action Message State) : Option Message :=
  match entry.event with
  | .read j _ => if j = i then (entry.before.inbox i).head?.filter addressed else none
  | _ => none

def own (entry : Entry ι Context Action Message State) : Option Act :=
  match entry.event with
  | .read _ context => (taken i addressed entry).map (nodes.read context)
  | .act j action => if j = i then some (nodes.act action) else none
  | _ => none

def sentBy (entry : Entry ι Context Action Message State) : List Message :=
  if entry.output.1 = some i then entry.output.2 else []

def injected : List (BusEvent ι Context Action Message) → List Message
  | [] => []
  | .inject message :: events => message :: injected events
  | _ :: events => injected events

end

/-- A node whose messages are its own: it ignores the others, and no other node sends one of them. -/
structure Private (nodes : Nodes ι Act Context Action Message State) (Good : (i : ι) → State i → Prop) (i : ι)
    (addressed : Message → Prop) : Prop where
  kept : ∀ j state act, Good j state → Good j ((nodes.machine j).next state act)
  ignored : ∀ state context message, Good i state → ¬ addressed message →
    (nodes.machine i).step state (nodes.read context message) = (state, [])
  apart : ∀ j state act, Good j state → j ≠ i → ∀ message ∈ (nodes.machine j).output state act, ¬ addressed message

variable {nodes : Nodes ι Act Context Action Message State} {Good : (i : ι) → State i → Prop} {i : ι}
  {addressed : Message → Prop} [DecidablePred addressed] {bus : Bus Message State}

structure Seen (nodes : Nodes ι Act Context Action Message State) (i : ι) (addressed : Message → Prop)
    [DecidablePred addressed] (entry : Entry ι Context Action Message State) : Prop where
  rests : own nodes i addressed entry = none → entry.after.node i = entry.before.node i ∧ sentBy i entry = []
  acts : ∀ act, own nodes i addressed entry = some act →
    (nodes.machine i).step (entry.before.node i) act = (entry.after.node i, sentBy i entry)
  heard : List.Sublist ((taken i addressed entry).toList ++ (entry.after.inbox i).filter (addressed ·))
    ((entry.before.inbox i).filter (addressed ·) ++ (injected [entry.event]).filter (addressed ·))
  whole : (∀ j, entry.event = .miss j → j ≠ i) →
    (taken i addressed entry).toList ++ (entry.after.inbox i).filter (addressed ·) =
      (entry.before.inbox i).filter (addressed ·) ++ (injected [entry.event]).filter (addressed ·)

theorem send_self (bus : Bus Message State) (messages : List Message) :
    (bus.send (some i) messages).inbox i = bus.inbox i := if_pos rfl

theorem send_other (bus : Bus Message State) {j : ι} (other : j ≠ i) (messages : List Message) :
    (bus.send (some j) messages).inbox i = bus.inbox i ++ messages := if_neg fun same => other (Option.some.inj same)

theorem drop_self (bus : Bus Message State) : (bus.drop i).inbox i = (bus.inbox i).tail := Function.update_self ..

theorem drop_other (bus : Bus Message State) {j : ι} (other : j ≠ i) : (bus.drop j).inbox i = bus.inbox i :=
  Function.update_of_ne (Ne.symm other) ..

variable (nodes) in
theorem perform_self (bus : Bus Message State) (i : ι) (act : Act) :
    (nodes.machine i).step (bus.node i) act =
        ((bus.perform nodes i act).1.node i, (nodes.machine i).output (bus.node i) act) ∧
      (bus.perform nodes i act).1.inbox i = bus.inbox i := by
  refine ⟨?_, send_self ..⟩
  have after : (bus.perform nodes i act).1.node i = (nodes.machine i).next (bus.node i) act := Function.update_self ..
  rw [after]
  rfl

variable (nodes) in
theorem perform_other (bus : Bus Message State) {j : ι} (other : j ≠ i) (act : Act) :
    (bus.perform nodes j act).1.node i = bus.node i ∧
      (bus.perform nodes j act).1.inbox i = bus.inbox i ++ (nodes.machine j).output (bus.node j) act :=
  ⟨Function.update_of_ne (Ne.symm other) .., send_other (bus.move j _) other _⟩

theorem filter_none {messages : List Message} (none : ∀ message ∈ messages, ¬ addressed message) :
    messages.filter (addressed ·) = [] :=
  List.filter_eq_nil_iff.mpr fun message member mine => none message member (of_decide_eq_true mine)

theorem Seen.quiet {entry : Entry ι Context Action Message State} (none : own nodes i addressed entry = none)
    (node : entry.after.node i = entry.before.node i) (silent : sentBy i entry = [])
    (whole : (taken i addressed entry).toList ++ (entry.after.inbox i).filter (addressed ·) =
      (entry.before.inbox i).filter (addressed ·) ++ (injected [entry.event]).filter (addressed ·)) :
    Seen nodes i addressed entry := by
  refine ⟨fun _ => ⟨node, silent⟩, fun act some => ?_, whole ▸ .refl _, fun _ => whole⟩
  cases none.symm.trans some

theorem Seen.active {entry : Entry ι Context Action Message State} {act : Act}
    (own : own nodes i addressed entry = some act)
    (step : (nodes.machine i).step (entry.before.node i) act = (entry.after.node i, sentBy i entry))
    (whole : (taken i addressed entry).toList ++ (entry.after.inbox i).filter (addressed ·) =
      (entry.before.inbox i).filter (addressed ·) ++ (injected [entry.event]).filter (addressed ·)) :
    Seen nodes i addressed entry := by
  refine ⟨fun none => ?_, fun other same => ?_, whole ▸ .refl _, fun _ => whole⟩
  · cases none.symm.trans own
  · cases own.symm.trans same
    exact step

theorem sentBy_other {entry : Entry ι Context Action Message State} (other : entry.output.1 ≠ some i) :
    sentBy i entry = [] := if_neg other

theorem sentBy_outside {entry : Entry ι Context Action Message State} (outside : entry.output.1 = none) :
    sentBy i entry = [] := sentBy_other fun same => nomatch outside.symm.trans same

theorem sentBy_self {entry : Entry ι Context Action Message State} (self : entry.output.1 = some i) :
    sentBy i entry = entry.output.2 := if_pos self

section

variable (alone : Private nodes Good i addressed) (good : ∀ j, Good j (bus.node j))

include alone good

omit [DecidableEq ι] in
/-- What another node sends is not addressed to this one. -/
theorem Private.filter_sent {j : ι} (other : j ≠ i) (act : Act) :
    ((nodes.machine j).output (bus.node j) act).filter (addressed ·) = [] :=
  filter_none (alone.apart j (bus.node j) act (good j) other)

theorem Private.seen_act (j : ι) (action : Action) :
    Seen nodes i addressed ((machine nodes).entry bus (.act j action)) := by
  by_cases self : j = i
  · subst self
    obtain ⟨step, inbox⟩ := bus.perform_self nodes j (nodes.act action)
    have own : own nodes j addressed ((machine nodes).entry bus (.act j action)) = some (nodes.act action) := if_pos rfl
    refine .active own ?_ ?_
    · rw [sentBy_self rfl]
      exact step
    · show [] ++ ((bus.perform nodes j (nodes.act action)).1.inbox j).filter (addressed ·) = _ ++ []
      rw [inbox, List.append_nil]
      rfl
  · obtain ⟨node, inbox⟩ := bus.perform_other nodes self (nodes.act action)
    have own : own nodes i addressed ((machine nodes).entry bus (.act j action)) = none := if_neg self
    refine .quiet own node (sentBy_other fun same => self (Option.some.inj same)) ?_
    show [] ++ ((bus.perform nodes j (nodes.act action)).1.inbox i).filter (addressed ·) = _ ++ []
    rw [inbox, List.filter_append, alone.filter_sent good self]
    rfl

theorem Private.seen_read (j : ι) (context : Context) :
    Seen nodes i addressed ((machine nodes).entry bus (.read j context)) := by
  cases first : bus.inbox j with
  | nil =>
    have step : (machine nodes).step bus (.read j context) = (bus, (none, [])) := by simp only [machine, first]
    have after : ((machine nodes).entry bus (.read j context)).after = bus := congrArg Prod.fst step
    have output : ((machine nodes).entry bus (.read j context)).output = (none, []) := congrArg Prod.snd step
    have taken : taken i addressed ((machine nodes).entry bus (.read j context)) = none := by
      by_cases self : j = i
      · subst self
        simp only [Bus.taken, Machine.entry, first, List.head?_nil, Option.filter_none, ite_self]
      · exact if_neg self
    refine .quiet ?_ ?_ (sentBy_outside (congrArg Prod.fst output)) ?_
    · show Option.map _ (Bus.taken i addressed _) = none
      rw [taken]
      rfl
    · rw [after]
      rfl
    · rw [taken, after]
      exact (List.append_nil _).symm
  | cons message rest =>
    have step : (machine nodes).step bus (.read j context) = (bus.drop j).perform nodes j (nodes.read context message) := by
      simp only [machine, first]
    have after : ((machine nodes).entry bus (.read j context)).after =
        ((bus.drop j).perform nodes j (nodes.read context message)).1 := congrArg Prod.fst step
    have output : ((machine nodes).entry bus (.read j context)).output =
        (some j, (nodes.machine j).output (bus.node j) (nodes.read context message)) := congrArg Prod.snd step
    by_cases self : j = i
    · subst self
      obtain ⟨done, inbox⟩ := (bus.drop j).perform_self nodes j (nodes.read context message)
      have left : (bus.drop j).inbox j = rest := by rw [drop_self, first]; rfl
      have sent := sentBy_self (i := j) (congrArg Prod.fst output)
      by_cases mine : addressed message
      · have taken : taken j addressed ((machine nodes).entry bus (.read j context)) = some message := by
          simp only [Bus.taken, Machine.entry, first, List.head?_cons, if_true, Option.filter_some, mine, decide_true]
        have own : own nodes j addressed ((machine nodes).entry bus (.read j context)) =
            some (nodes.read context message) := by
          show Option.map _ (Bus.taken j addressed _) = _
          rw [taken]
          rfl
        refine .active own ?_ ?_
        · rw [sent, output, after]
          exact done
        · rw [taken, after, inbox, left]
          have kept : (message :: rest).filter (addressed ·) = message :: rest.filter (addressed ·) :=
            List.filter_cons_of_pos (decide_eq_true mine)
          show _ = (bus.inbox j).filter (addressed ·) ++ []
          rw [first, kept, List.append_nil]
          rfl
      · have taken : taken j addressed ((machine nodes).entry bus (.read j context)) = none := by
          simp only [Bus.taken, Machine.entry, first, List.head?_cons, if_true, Option.filter_some, mine, decide_false,
            Bool.false_eq_true, if_false]
        have ignored := alone.ignored (bus.node j) context message (good j) mine
        have same := done.symm.trans ignored
        refine .quiet ?_ ?_ ?_ ?_
        · show Option.map _ (Bus.taken j addressed _) = _
          rw [taken]
          rfl
        · rw [after]
          exact congrArg Prod.fst same
        · rw [sent, output]
          exact congrArg Prod.snd same
        · rw [taken, after, inbox, left]
          have skipped : (message :: rest).filter (addressed ·) = rest.filter (addressed ·) :=
            List.filter_cons_of_neg fun kept => mine (of_decide_eq_true kept)
          show _ = (bus.inbox j).filter (addressed ·) ++ []
          rw [first, skipped, List.append_nil]
          rfl
    · obtain ⟨node, inbox⟩ := (bus.drop j).perform_other nodes self (nodes.read context message)
      have taken : taken i addressed ((machine nodes).entry bus (.read j context)) = none := if_neg self
      have sent := alone.filter_sent good self (nodes.read context message)
      refine .quiet ?_ ?_ (sentBy_other (by rw [output]; exact fun same => self (Option.some.inj same))) ?_
      · show Option.map _ (Bus.taken i addressed _) = _
        rw [taken]
        rfl
      · rw [after]
        exact node
      · rw [taken, after, inbox, drop_other bus self, List.filter_append]
        exact congrArg ((bus.inbox i).filter (addressed ·) ++ ·) sent

/-- What every step of the bus comes to for a node whose messages are its own. -/
theorem Private.seen (event : BusEvent ι Context Action Message) :
    Seen nodes i addressed ((machine nodes).entry bus event) := by
  cases event with
  | inject message =>
    refine .quiet rfl rfl (sentBy_outside rfl) ?_
    show [] ++ (bus.inbox i ++ [message]).filter (addressed ·) = _
    rw [List.filter_append]
    rfl
  | read j context => exact alone.seen_read good j context
  | act j action => exact alone.seen_act good j action
  | miss j =>
    by_cases self : j = i
    · subst self
      refine ⟨fun _ => ⟨rfl, sentBy_outside rfl⟩, fun _ none => (nomatch none), ?_, ?_⟩
      · show List.Sublist (((bus.drop j).inbox j).filter (addressed ·)) ((bus.inbox j).filter (addressed ·) ++ [])
        rw [drop_self, List.append_nil]
        exact (List.tail_sublist _).filter _
      · intro other
        exact absurd rfl (other j rfl)
    · refine .quiet rfl rfl (sentBy_outside rfl) ?_
      show ((bus.drop j).inbox i).filter (addressed ·) = _ ++ []
      rw [drop_other bus self, List.append_nil]
      rfl

end

/-- What a run of the bus is for one node: a run of its own, on messages that all come from outside, in
    their order, and unless it misses any on all of them that it has come to. -/
structure Isolated (nodes : Nodes ι Act Context Action Message State) (i : ι) (addressed : Message → Prop)
    [DecidablePred addressed] (start : State i) (events : List (BusEvent ι Context Action Message))
    (record : List (Entry ι Context Action Message State)) (bus : Bus Message State) : Prop where
  node : bus.node i = (nodes.machine i).run start (record.filterMap (own nodes i addressed))
  sent : record.flatMap (sentBy i) =
    ((nodes.machine i).trace start (record.filterMap (own nodes i addressed))).flatMap Machine.Entry.output
  heard : List.Sublist (record.filterMap (taken i addressed) ++ (bus.inbox i).filter (addressed ·))
    ((injected events).filter (addressed ·))
  whole : .miss i ∉ events → record.filterMap (taken i addressed) ++ (bus.inbox i).filter (addressed ·) =
    (injected events).filter (addressed ·)

omit [DecidableEq ι] in
theorem injected_append (events others : List (BusEvent ι Context Action Message)) :
    injected (events ++ others) = injected events ++ injected others := by
  induction events with
  | nil => rfl
  | cons event events ih =>
    cases event with
    | inject message => exact congrArg (message :: ·) ih
    | _ => exact ih

theorem filterMap_snoc {α β : Type} (f : α → Option β) (entries : List α) (last : α) :
    (entries ++ [last]).filterMap f = entries.filterMap f ++ (f last).toList := by
  rw [List.filterMap_append, List.filterMap_cons]
  cases f last with
  | none => rfl
  | some b => rfl

theorem Isolated.next {start : State i} {events : List (BusEvent ι Context Action Message)}
    {record : List (Entry ι Context Action Message State)}
    (isolated : Isolated nodes i addressed start events record bus) (event : BusEvent ι Context Action Message)
    (seen : Seen nodes i addressed ((machine nodes).entry bus event)) :
    Isolated nodes i addressed start (events ++ [event]) (record ++ [(machine nodes).entry bus event])
      ((machine nodes).next bus event) := by
  have outside : (injected (events ++ [event])).filter (addressed ·) =
      (injected events).filter (addressed ·) ++ (injected [event]).filter (addressed ·) := by
    rw [injected_append, List.filter_append]
  have sent : (record ++ [(machine nodes).entry bus event]).flatMap (sentBy i) =
      record.flatMap (sentBy i) ++ sentBy i ((machine nodes).entry bus event) := by
    rw [List.flatMap_append, List.flatMap_singleton]
  have moved : ((machine nodes).next bus event).node i = (nodes.machine i).run start
        ((record ++ [(machine nodes).entry bus event]).filterMap (own nodes i addressed)) ∧
      (record ++ [(machine nodes).entry bus event]).flatMap (sentBy i) = ((nodes.machine i).trace start
        ((record ++ [(machine nodes).entry bus event]).filterMap (own nodes i addressed))).flatMap
          Machine.Entry.output := by
    rw [sent, filterMap_snoc]
    cases does : own nodes i addressed ((machine nodes).entry bus event) with
    | none =>
      obtain ⟨node, silent⟩ := seen.rests does
      rw [silent, Option.toList_none, List.append_nil, List.append_nil]
      exact ⟨node.trans isolated.node, isolated.sent⟩
    | some act =>
      have step := seen.acts act does
      have before : ((machine nodes).entry bus event).before.node i = (nodes.machine i).run start
          (record.filterMap (own nodes i addressed)) := isolated.node
      rw [before] at step
      rw [Option.toList_some, Machine.run_snoc, Machine.trace_snoc, List.flatMap_append, List.flatMap_singleton,
        ← isolated.sent]
      exact ⟨(congrArg Prod.fst step).symm, congrArg (_ ++ ·) (congrArg Prod.snd step).symm⟩
  constructor
  · exact moved.1
  · exact moved.2
  · have heard := isolated.heard.append_right ((injected [event]).filter (addressed ·))
    rw [List.append_assoc] at heard
    rw [filterMap_snoc, outside, List.append_assoc]
    exact (seen.heard.append_left _).trans heard
  · intro none
    have before : .miss i ∉ events := fun missed => none (List.mem_append_left _ missed)
    have now : ∀ j, event = .miss j → j ≠ i := by
      rintro j rfl rfl
      exact none (List.mem_append_right _ (List.mem_singleton_self _))
    rw [filterMap_snoc, outside, List.append_assoc, ← isolated.whole before, List.append_assoc]
    exact congrArg (_ ++ ·) (seen.whole now)

omit [DecidablePred addressed] in
theorem run_good (alone : Private nodes Good i addressed) (good : ∀ j, Good j (bus.node j))
    (event : BusEvent ι Context Action Message) (j : ι) : Good j (((machine nodes).next bus event).node j) := by
  have performed : ∀ (bus : Bus Message State) (k : ι) (act : Act), (∀ j, Good j (bus.node j)) →
      Good j ((bus.perform nodes k act).1.node j) := by
    intro bus k act good
    by_cases self : k = j
    · subst self
      have done : (nodes.machine k).next (bus.node k) act = (bus.perform nodes k act).1.node k :=
        congrArg Prod.fst (bus.perform_self nodes k act).1
      rw [← done]
      exact alone.kept k (bus.node k) act (good k)
    · rw [(bus.perform_other nodes self act).1]
      exact good j
  cases event with
  | inject message => exact good j
  | miss k => exact good j
  | act k action => exact performed bus k _ good
  | read k context =>
    show Good j (((machine nodes).step bus (.read k context)).1.node j)
    cases first : bus.inbox k with
    | nil =>
      simp only [machine, first]
      exact good j
    | cons message rest =>
      simp only [machine, first]
      exact performed (bus.drop k) k _ good

/-- Whatever goes on on the bus, a node whose messages are its own does what it would do alone. -/
theorem Private.isolated (alone : Private nodes Good i addressed) (start : (j : ι) → State j)
    (good : ∀ j, Good j (start j)) (events : List (BusEvent ι Context Action Message)) :
    Isolated nodes i addressed (start i) events ((machine nodes).trace ⟨start, fun _ => []⟩ events)
      ((machine nodes).run ⟨start, fun _ => []⟩ events) := by
  have all : (∀ j, Good j (((machine nodes).run ⟨start, fun _ => []⟩ events).node j)) ∧
      Isolated nodes i addressed (start i) events ((machine nodes).trace ⟨start, fun _ => []⟩ events)
        ((machine nodes).run ⟨start, fun _ => []⟩ events) := by
    induction events using List.reverseRecOn with
    | nil => exact ⟨good, rfl, rfl, .slnil, fun _ => rfl⟩
    | append_singleton events event ih =>
      obtain ⟨before, isolated⟩ := ih
      rw [Machine.run_snoc, Machine.trace_snoc]
      exact ⟨run_good alone before event, isolated.next event (alone.seen before event)⟩
  exact all.2

end Bus

end Foundation
