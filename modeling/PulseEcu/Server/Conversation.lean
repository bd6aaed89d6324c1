import Mathlib.Algebra.GroupWithZero.Nat
import PulseEcu.Server.MessageServer

open Foundation

namespace Uds

open Transport

variable {σ : Type}

inductive MessageEvent where
  | request (tick : Word) (bytes : List Byte)
  | poll (tick : Word)

/-- The server as a tester of messages sees it; without a response nothing comes back. -/
def messageServer (σ : Type) : Machine (MessageServer σ) MessageEvent (List Byte) where
  step m
    | .request tick bytes => m.serve tick bytes
    | .poll tick => (m.poll tick, [])

structure Poll where
  can : ICanInterface
  tick : Word

def Poll.event (poll : Poll) : ServerEvent := .process poll.can poll.tick

def Poll.message (poll : Poll) : MessageEvent := .poll poll.tick

structure Feed where
  can : ICanInterface
  frame : CanFrame
  polls : List Poll

def Feed.events (feed : Feed) : List ServerEvent := .frame feed.can feed.frame :: feed.polls.map Poll.event

/-- How many consecutive frames a flow control frame releases out of `count`; block size 0 is no limit. -/
def Feed.releases (count : Nat) (feed : Feed) : Nat :=
  if feed.frame.data 1 = 0 then count else (feed.frame.data 1).toNat

/-- One request of a tester: the frames that bring it, the round that serves it with those after
    it, and the flow control frames for the response. -/
structure Turn where
  request : List Byte
  asks : List Feed
  can : ICanInterface
  tick : Word
  polls : List Poll
  grants : List Feed

namespace Turn

def events (turn : Turn) : List ServerEvent :=
  turn.asks.flatMap Feed.events ++ .process turn.can turn.tick :: turn.polls.map Poll.event ++
    turn.grants.flatMap Feed.events

def asking (turn : Turn) : List MessageEvent := turn.asks.flatMap fun feed => feed.polls.map Poll.message

def messages (turn : Turn) : List MessageEvent :=
  turn.asking ++ .request turn.tick turn.request :: turn.polls.map Poll.message ++
    turn.grants.flatMap fun feed => feed.polls.map Poll.message

def response (turn : Turn) (m : MessageServer σ) : List Byte :=
  (((messageServer σ).run m turn.asking).serve turn.tick turn.request).2

end Turn

def messageFrames (cfg : IsoTpConfig) (message : List Byte) : List CanFrame :=
  if message = [] then []
  else if message.length ≤ 7 then [singleFrame cfg message]
  else firstFrame cfg message :: segmentFrames cfg message 0 (cfCount message.length)

def Turn.frames (cfg : IsoTpConfig) (turn : Turn) (m : MessageServer σ) : List CanFrame :=
  (if turn.request.length ≤ 7 then [] else [grantFrame cfg]) ++ messageFrames cfg (turn.response m)

def Early (due : Word) (polls : List Poll) : Prop := ∀ poll ∈ polls, ¬ (due > 0 ∧ poll.can.getTickMs ≥ due)

structure Brings (cfg : IsoTpConfig) (request : List Byte) (k : Nat) (feeds : List Feed) : Prop where
  count : k + feeds.length = cfCount request.length
  shape : ∀ i feed, feeds[i]? = some feed → IsConsecutiveFrame cfg request (k + i) feed.frame
  inTime : ∀ feed ∈ feeds, Early (feed.can.getTickMs + cfg.nCrMs) feed.polls
  last : ∀ feed ∈ feeds.getLast?, feed.polls = []

inductive Asks (cfg : IsoTpConfig) (request : List Byte) : List Feed → Prop where
  | single (feed : Feed) (positive : 1 ≤ request.length) (short : request.length ≤ 7)
      (shape : IsSingleFrame cfg request feed.frame) (last : feed.polls = []) : Asks cfg request [feed]
  | segmented (first : Feed) (rest : List Feed) (lower : 8 ≤ request.length) (upper : request.length ≤ 4095)
      (shape : IsFirstFrame cfg request first.frame) (early : Early (first.can.getTickMs + cfg.nCrMs) first.polls)
      (brings : Brings cfg request 0 rest) : Asks cfg request (first :: rest)

/-- A turn as a tester makes it on a bus that takes every frame: the request in standard segmentation,
    and enough flow control frames for the response, of any block sizes. -/
structure Turn.Proper (cfg : IsoTpConfig) (turn : Turn) (m : MessageServer σ) : Prop where
  asks : Asks cfg turn.request turn.asks
  fits : (turn.response m).length ≤ maxPayload
  reliable : turn.can.Reliable
  started : Early (turn.can.getTickMs + cfg.nBsMs) (⟨turn.can, turn.tick⟩ :: turn.polls)
  grants : ∀ feed ∈ turn.grants, feed.can.Reliable ∧ IsCts cfg feed.frame ∧
    Early (feed.can.getTickMs + cfg.nBsMs) feed.polls
  enough : cfCount (turn.response m).length ≤
    (turn.grants.map (Feed.releases (cfCount (turn.response m).length))).sum

def Calm (a : MessageEcu σ) : ServerEvent → Prop
  | .frame _ _ => True
  | .process _ _ => (∀ request, a.receiver ≠ .holding request) ∨ a.transmitter = .idle

inductive Goes (cfg : IsoTpConfig) : MessageEcu σ → List ServerEvent → MessageEcu σ → List CanFrame → Prop where
  | done (a : MessageEcu σ) : Goes cfg a [] a []
  | step {a b : MessageEcu σ} {event : ServerEvent} {events : List ServerEvent} {frames : List CanFrame}
      (calm : Calm a event) (rest : Goes cfg ((messageEcu σ cfg).next a event) events b frames) :
      Goes cfg a (event :: events) b ((messageEcu σ cfg).output a event ++ frames)

section

variable {cfg : IsoTpConfig} {a b c : MessageEcu σ} {events more : List ServerEvent} {frames others : List CanFrame}

theorem Goes.append (first : Goes cfg a events b frames) (second : Goes cfg b more c others) :
    Goes cfg a (events ++ more) c (frames ++ others) := by
  induction first with
  | done a => exact second
  | step calm rest ih =>
    rw [List.append_assoc]
    exact .step calm (ih second)

theorem Goes.cons {event : ServerEvent} (step : (messageEcu σ cfg).step a event = (b, frames)) (calm : Calm a event)
    (rest : Goes cfg b events c others) :
    Goes cfg a (event :: events) c (frames ++ others) := by
  have next : (messageEcu σ cfg).next a event = b := congrArg Prod.fst step
  have output : (messageEcu σ cfg).output a event = frames := congrArg Prod.snd step
  rw [← next] at rest
  rw [← output]
  exact .step calm rest

theorem not_overwrites {s : UdsServer σ} {event : ServerEvent} (carries : UdsServer.Carries cfg s a) (calm : Calm a event) :
    ¬ s.Overwrites event := by
  cases event with
  | frame can frame => exact id
  | process can tick =>
    intro overwrites
    obtain ⟨waiting, ⟨answer, _, given, _⟩, _⟩ := overwrites
    rcases calm with empty | idle
    · have silent : ¬ s.requestLen > 0 := by
        rw [UdsServer.requestLen, UdsServer.fetch_empty carries.receives empty]
        exact Nat.lt_irrefl 0
      cases (s.reply_silent tick silent).symm.trans given
    · have of := carries.conveys.of
      rw [idle] at of
      exact of waiting

/-- Along a calm run the server does as the message server. -/
theorem Goes.followed (goes : Goes cfg a events b frames) {s : UdsServer σ} (carries : UdsServer.Carries cfg s a) :
    UdsServer.Carries cfg ((udsServer σ).run s events) b ∧
      ((udsServer σ).trace s events).flatMap Machine.Entry.output = frames := by
  induction goes generalizing s with
  | done a => exact ⟨carries, rfl⟩
  | step calm rest ih =>
    obtain ⟨next, same⟩ := (UdsServer.udsServer_simulates σ cfg).acts carries (not_overwrites carries calm) rfl
    obtain ⟨ends, sent⟩ := ih next
    refine ⟨ends, ?_⟩
    rw [Machine.trace, List.flatMap_cons, sent]
    exact congrArg (· ++ _) same

end

section

variable (cfg : IsoTpConfig) (m : MessageServer σ) {r : Receiver} {t : Transmitter}

theorem Goes.polls (polls : List Poll) (empty : ∀ request, r ≠ .holding request)
    (still : ∀ poll ∈ polls, r.update poll.can.getTickMs = r ∧ t.update poll.can.getTickMs = t) :
    Goes cfg ⟨r, t, m⟩ (polls.map Poll.event) ⟨r, t, (messageServer σ).run m (polls.map Poll.message)⟩ [] := by
  induction polls generalizing m with
  | nil => exact .done _
  | cons poll polls ih =>
    obtain ⟨⟨receiver, transmitter⟩, others⟩ := List.forall_mem_cons.mp still
    have step : (messageEcu σ cfg).step ⟨r, t, m⟩ poll.event = (⟨r, t, m.poll poll.tick⟩, []) := by
      have process := MessageEcu.process_empty cfg poll.can poll.tick (⟨r, t, m⟩ : MessageEcu σ) empty
      rw [receiver, transmitter] at process
      exact process
    exact Goes.cons step (Or.inl empty) (ih (m.poll poll.tick) others)

theorem Goes.feed {a : MessageEcu σ} (feed : Feed) {frames : List CanFrame}
    (step : a.frame cfg feed.can feed.frame = (⟨r, t, m⟩, frames))
    (polls : feed.polls = [] ∨ (∀ request, r ≠ .holding request) ∧
      ∀ poll ∈ feed.polls, r.update poll.can.getTickMs = r ∧ t.update poll.can.getTickMs = t) :
    Goes cfg a feed.events ⟨r, t, (messageServer σ).run m (feed.polls.map Poll.message)⟩ frames := by
  have rest : Goes cfg ⟨r, t, m⟩ (feed.polls.map Poll.event)
      ⟨r, t, (messageServer σ).run m (feed.polls.map Poll.message)⟩ [] := by
    rcases polls with none | ⟨empty, still⟩
    · rw [none]
      exact .done _
    · exact .polls cfg m feed.polls empty still
  have step : (messageEcu σ cfg).step a (.frame feed.can feed.frame) = (⟨r, t, m⟩, frames) := step
  have all := Goes.cons step trivial rest
  rwa [List.append_nil] at all

theorem collecting_still {total : Nat} {bytes : List Byte} {sn : Byte} {due : Word} {polls : List Poll}
    (early : Early due polls) : ∀ poll ∈ polls,
      (Receiver.collecting total bytes sn due).update poll.can.getTickMs = .collecting total bytes sn due ∧
        Transmitter.idle.update poll.can.getTickMs = .idle := by
  intro poll member
  exact ⟨if_neg (early poll member), rfl⟩

theorem waiting_still {message : List Byte} {k : Nat} {due : Word} {polls : List Poll} (early : Early due polls) :
    ∀ poll ∈ polls, Receiver.idle.update poll.can.getTickMs = .idle ∧
      (Transmitter.waiting message k due).update poll.can.getTickMs = .waiting message k due := by
  intro poll member
  exact ⟨rfl, if_neg (early poll member)⟩

end

def collecting (request : List Byte) (k : Nat) (due : Word) : Receiver :=
  .collecting request.length (request.take (6 + 7 * k)) (sequenceNumber (k + 1)) due

theorem accept_consecutive {cfg : IsoTpConfig} {request : List Byte} {k : Nat} {frame : CanFrame}
    (more : 6 + 7 * k < request.length) (shape : IsConsecutiveFrame cfg request k frame) (grant : CanFrame)
    (due next : Word) : (collecting request k due).accept grant next (readPdu cfg frame) =
      if request.length ≤ 6 + 7 * (k + 1) then (.holding request, .result .ok [])
      else (collecting request (k + 1) next, .result .pending []) := by
  obtain ⟨payload, read, taken⟩ := shape.read
  have length : (request.take (6 + 7 * k)).length = 6 + 7 * k := by
    rw [List.length_take]
    omega
  rw [read]
  simp only [collecting, Receiver.accept, ne_eq, not_true_eq_false, if_false, length, taken, take_segment,
    sequenceNumber_succ, List.length_take]
  by_cases last : request.length ≤ 6 + 7 * (k + 1)
  · rw [if_pos last, if_pos (Nat.min_eq_right last), List.take_of_length_le last]
  · rw [if_neg last, if_neg (by omega)]

theorem collecting_not_holding (request : List Byte) (k : Nat) (due : Word) :
    ∀ message, collecting request k due ≠ .holding message := by
  intro message same
  cases same

theorem idle_not_holding : ∀ message, Receiver.idle ≠ .holding message := by
  intro message same
  cases same

theorem frame_accepted {cfg : IsoTpConfig} {can : ICanInterface} {frame : CanFrame} {r next : Receiver}
    {t : Transmitter} {m : MessageServer σ} {output : Output}
    (other : ∀ status bs st, readPdu cfg frame ≠ some (.flowControl status bs st))
    (accepted : r.accept (grantFrame cfg) (can.getTickMs + cfg.nCrMs) (readPdu cfg frame) = (next, output)) :
    MessageEcu.frame cfg can ⟨r, t, m⟩ frame = (⟨next, t, m⟩, output.frames) := by
  rw [MessageEcu.frame_other can _ other]
  dsimp only
  rw [accepted]

section

variable {cfg : IsoTpConfig}

theorem Brings.tail {request : List Byte} {k : Nat} {feed next : Feed} {feeds : List Feed}
    (brings : Brings cfg request k (feed :: next :: feeds)) : Brings cfg request (k + 1) (next :: feeds) := by
  constructor
  · have count := brings.count
    simp only [List.length_cons] at count ⊢
    omega
  · intro i other found
    have shape := brings.shape (i + 1) other found
    rwa [Nat.add_comm i, ← Nat.add_assoc] at shape
  · exact fun other member => brings.inTime other (List.mem_cons_of_mem feed member)
  · intro other last
    exact brings.last other (by simpa using last)

theorem Goes.consecutive {request : List Byte} (feeds : List Feed) {k : Nat} (due : Word) (m : MessageServer σ)
    (brings : Brings cfg request k feeds) (left : k < cfCount request.length) :
    Goes cfg ⟨collecting request k due, .idle, m⟩ (feeds.flatMap Feed.events)
      ⟨.holding request, .idle, (messageServer σ).run m (feeds.flatMap fun feed => feed.polls.map Poll.message)⟩
      [] := by
  induction feeds generalizing k due m with
  | nil =>
    have none := brings.count
    simp only [List.length_nil] at none
    omega
  | cons feed feeds ih =>
    have count := brings.count
    have shape := brings.shape 0 feed rfl
    have more := (lt_cfCount k request.length).mp left
    have accepted := accept_consecutive more shape (grantFrame cfg) due (feed.can.getTickMs + cfg.nCrMs)
    obtain ⟨payload, read, _⟩ := shape.read
    have other : ∀ status bs st, readPdu cfg feed.frame ≠ some (.flowControl status bs st) := by
      intro status bs st same
      cases read.symm.trans same
    rw [List.flatMap_cons, List.flatMap_cons, Machine.run_append]
    cases feeds with
    | nil =>
      have final : request.length ≤ 6 + 7 * (k + 1) := by
        have none := mt (lt_cfCount (k + 1) request.length).mpr
        simp only [List.length_cons, List.length_nil] at count
        omega
      have step : MessageEcu.frame cfg feed.can ⟨collecting request k due, .idle, m⟩ feed.frame =
          (⟨.holding request, .idle, m⟩, []) := frame_accepted other (accepted.trans (if_pos final))
      have silent := brings.last feed rfl
      have all := Goes.feed cfg m feed step (Or.inl silent)
      simpa only [List.flatMap_nil, List.append_nil, Machine.run_nil] using all
    | cons next feeds =>
      have further : k + 1 < cfCount request.length := by
        simp only [List.length_cons] at count
        omega
      have unfinished : ¬ request.length ≤ 6 + 7 * (k + 1) :=
        Nat.not_le.mpr ((lt_cfCount (k + 1) request.length).mp further)
      have step : MessageEcu.frame cfg feed.can ⟨collecting request k due, .idle, m⟩ feed.frame =
          (⟨collecting request (k + 1) (feed.can.getTickMs + cfg.nCrMs), .idle, m⟩, []) :=
        frame_accepted other (accepted.trans (if_neg unfinished))
      have early := brings.inTime feed List.mem_cons_self
      have first := Goes.feed cfg m feed step (Or.inr ⟨collecting_not_holding _ _ _, collecting_still early⟩)
      exact first.append (ih _ _ brings.tail further)

theorem Goes.asks {request : List Byte} {feeds : List Feed} (asks : Asks cfg request feeds) (m : MessageServer σ) :
    Goes cfg ⟨.idle, .idle, m⟩ (feeds.flatMap Feed.events)
      ⟨.holding request, .idle, (messageServer σ).run m (feeds.flatMap fun feed => feed.polls.map Poll.message)⟩
      (if request.length ≤ 7 then [] else [grantFrame cfg]) := by
  cases asks with
  | single feed positive short shape last =>
    have read := shape.read positive short
    have other : ∀ status bs st, readPdu cfg feed.frame ≠ some (.flowControl status bs st) := by
      intro status bs st same
      cases read.symm.trans same
    have step : MessageEcu.frame cfg feed.can ⟨.idle, .idle, m⟩ feed.frame = (⟨.holding request, .idle, m⟩, []) :=
      frame_accepted other (by rw [read])
    have all := Goes.feed cfg m feed step (Or.inl last)
    rw [if_pos short]
    simpa only [List.flatMap_cons, List.flatMap_nil, List.append_nil] using all
  | segmented first rest lower upper shape early brings =>
    have read := shape.read lower upper
    have other : ∀ status bs st, readPdu cfg first.frame ≠ some (.flowControl status bs st) := by
      intro status bs st same
      cases read.symm.trans same
    have step : MessageEcu.frame cfg first.can ⟨.idle, .idle, m⟩ first.frame =
        (⟨collecting request 0 (first.can.getTickMs + cfg.nCrMs), .idle, m⟩, [grantFrame cfg]) :=
      frame_accepted other (by rw [read])
    have opened := Goes.feed cfg m first step (Or.inr ⟨collecting_not_holding _ _ _, collecting_still early⟩)
    have left := (lt_cfCount 0 request.length).mpr (by omega)
    rw [if_neg (by omega), List.flatMap_cons, List.flatMap_cons, Machine.run_append]
    exact opened.append (.consecutive rest _ _ brings left)

def handedOver (cfg : IsoTpConfig) (can : ICanInterface) (response : List Byte) : Transmitter × List CanFrame :=
  if response = [] then (.idle, [])
  else if response.length ≤ 7 then (.idle, [singleFrame cfg response])
  else (.waiting response 0 (can.getTickMs + cfg.nBsMs), [firstFrame cfg response])

theorem Goes.served {request : List Byte} (can : ICanInterface) (tick : Word) (polls : List Poll)
    (m : MessageServer σ) (fits : (m.serve tick request).2.length ≤ maxPayload) (reliable : can.Reliable)
    (early : Early (can.getTickMs + cfg.nBsMs) (⟨can, tick⟩ :: polls)) :
    Goes cfg ⟨.holding request, .idle, m⟩ (.process can tick :: polls.map Poll.event)
      ⟨.idle, (handedOver cfg can (m.serve tick request).2).1,
        (messageServer σ).run (m.serve tick request).1 (polls.map Poll.message)⟩
      (handedOver cfg can (m.serve tick request).2).2 := by
  obtain ⟨now, later⟩ := List.forall_mem_cons.mp early
  have sent : (if (m.serve tick request).2 = [] then (Transmitter.idle, Output.none)
      else Transmitter.idle.send cfg can (some (m.serve tick request).2)).1.update can.getTickMs =
        (handedOver cfg can (m.serve tick request).2).1 ∧
      (if (m.serve tick request).2 = [] then (Transmitter.idle, Output.none)
        else Transmitter.idle.send cfg can (some (m.serve tick request).2)).2.frames =
        (handedOver cfg can (m.serve tick request).2).2 := by
    generalize (m.serve tick request).2 = response at fits
    unfold handedOver
    by_cases empty : response = []
    · simp only [if_pos empty, Transmitter.update, Output.frames, and_self]
    · have accepted : ¬ (response.length = 0 ∨ response.length > maxPayload) := by
        rw [List.length_eq_zero_iff]
        exact not_or.mpr ⟨empty, Nat.not_lt.mpr fits⟩
      simp only [if_neg empty, Transmitter.send, if_neg accepted]
      by_cases short : response.length ≤ 7
      · simp only [if_pos short, Transmitter.update, Output.frames, and_self]
      · simp only [if_neg short, if_pos (reliable 0), Transmitter.update, if_neg now, Output.frames, and_self]
  have step : (messageEcu σ cfg).step ⟨.holding request, .idle, m⟩ (.process can tick) =
      (⟨.idle, (handedOver cfg can (m.serve tick request).2).1, (m.serve tick request).1⟩,
        (handedOver cfg can (m.serve tick request).2).2) := by
    simp only [messageEcu, MessageEcu.process, sent]
  have still : ∀ poll ∈ polls, Receiver.idle.update poll.can.getTickMs = .idle ∧
      (handedOver cfg can (m.serve tick request).2).1.update poll.can.getTickMs =
        (handedOver cfg can (m.serve tick request).2).1 := by
    intro poll member
    refine ⟨rfl, ?_⟩
    unfold handedOver
    split
    · rfl
    · split
      · rfl
      · exact if_neg (later poll member)
  have rest := Goes.polls cfg (m.serve tick request).1 polls idle_not_holding still
  have all := Goes.cons step (Or.inr rfl) rest
  rwa [List.append_nil] at all

theorem Goes.ungranted (grants : List Feed) (m : MessageServer σ) (cts : ∀ feed ∈ grants, IsCts cfg feed.frame) :
    Goes cfg ⟨.idle, .idle, m⟩ (grants.flatMap Feed.events)
      ⟨.idle, .idle, (messageServer σ).run m (grants.flatMap fun feed => feed.polls.map Poll.message)⟩ [] := by
  induction grants generalizing m with
  | nil => exact .done _
  | cons feed grants ih =>
    obtain ⟨first, others⟩ := List.forall_mem_cons.mp cts
    have step : MessageEcu.frame cfg feed.can ⟨.idle, .idle, m⟩ feed.frame = (⟨.idle, .idle, m⟩, []) := by
      simp only [MessageEcu.frame, first.read]
      rfl
    have opened := Goes.feed cfg m feed step (Or.inr ⟨idle_not_holding, fun _ _ => ⟨rfl, rfl⟩⟩)
    rw [List.flatMap_cons, List.flatMap_cons, Machine.run_append]
    exact opened.append (ih _ others)

theorem Goes.granted {response : List Byte} (grants : List Feed) (k : Nat) (due : Word) (m : MessageServer σ)
    (left : k < cfCount response.length)
    (enough : cfCount response.length - k ≤ (grants.map (Feed.releases (cfCount response.length))).sum)
    (grant : ∀ feed ∈ grants, feed.can.Reliable ∧ IsCts cfg feed.frame ∧
      Early (feed.can.getTickMs + cfg.nBsMs) feed.polls) :
    Goes cfg ⟨.idle, .waiting response k due, m⟩ (grants.flatMap Feed.events)
      ⟨.idle, .idle, (messageServer σ).run m (grants.flatMap fun feed => feed.polls.map Poll.message)⟩
      (segmentFrames cfg response k (cfCount response.length - k)) := by
  induction grants generalizing k due m with
  | nil =>
    simp only [List.map_nil, List.sum_nil] at enough
    omega
  | cons feed grants ih =>
    obtain ⟨⟨reliable, cts, early⟩, others⟩ := List.forall_mem_cons.mp grant
    have idle := idle_not_holding
    generalize size : (if feed.frame.data 1 = 0 then cfCount response.length - k
      else min (feed.frame.data 1).toNat (cfCount response.length - k)) = block
    rw [List.map_cons, List.sum_cons, Feed.releases] at enough
    have some : 1 ≤ block ∧ block ≤ cfCount response.length - k ∧
        (block = cfCount response.length - k ∨ (if feed.frame.data 1 = 0 then cfCount response.length
          else (feed.frame.data 1).toNat) = block) := by
      rw [← size]
      split
      · exact ⟨by omega, Nat.le_refl _, Or.inl rfl⟩
      · rename_i nonzero
        have positive : (feed.frame.data 1).toNat ≠ 0 := fun zero => nonzero (BitVec.eq_of_toNat_eq zero)
        omega
    have frame : MessageEcu.frame cfg feed.can ⟨.idle, .waiting response k due, m⟩ feed.frame =
        (⟨.idle, (Transmitter.release cfg feed.can response k (feed.frame.data 1)).1, m⟩,
          (Transmitter.release cfg feed.can response k (feed.frame.data 1)).2.frames) := by
      simp only [MessageEcu.frame, cts.read]
      rfl
    simp only [Transmitter.release, size, firstRefused_reliable reliable] at frame
    rw [List.flatMap_cons, List.flatMap_cons, Machine.run_append]
    by_cases all : block = cfCount response.length - k
    · rw [if_pos all, all] at frame
      have opened := Goes.feed cfg m feed frame (Or.inr ⟨idle, fun _ _ => ⟨rfl, rfl⟩⟩)
      have rest := Goes.ungranted grants ((messageServer σ).run m (feed.polls.map Poll.message))
        fun other member => (others other member).2.1
      have both := opened.append rest
      rwa [Output.frames, List.append_nil] at both
    · rw [if_neg all] at frame
      have opened := Goes.feed cfg m feed frame (Or.inr ⟨idle, waiting_still early⟩)
      have frames : cfCount response.length - k = block + (cfCount response.length - (k + block)) := by omega
      have more : cfCount response.length - (k + block) ≤
          (grants.map (Feed.releases (cfCount response.length))).sum := by
        rw [some.2.2.resolve_left all] at enough
        omega
      rw [frames, ← segmentFrames_add]
      exact opened.append (ih _ _ _ (by omega) more others)

/-- The frames of a response after the one that went out when it was handed over. -/
theorem Goes.answered (can : ICanInterface) (response : List Byte) (grants : List Feed) (m : MessageServer σ)
    (enough : cfCount response.length ≤ (grants.map (Feed.releases (cfCount response.length))).sum)
    (grant : ∀ feed ∈ grants, feed.can.Reliable ∧ IsCts cfg feed.frame ∧
      Early (feed.can.getTickMs + cfg.nBsMs) feed.polls) :
    ∃ frames, Goes cfg ⟨.idle, (handedOver cfg can response).1, m⟩ (grants.flatMap Feed.events)
        ⟨.idle, .idle, (messageServer σ).run m (grants.flatMap fun feed => feed.polls.map Poll.message)⟩ frames ∧
      (handedOver cfg can response).2 ++ frames = messageFrames cfg response := by
  unfold handedOver messageFrames
  by_cases empty : response = []
  · simp only [if_pos empty]
    exact ⟨[], .ungranted grants m fun feed member => (grant feed member).2.1, rfl⟩
  by_cases short : response.length ≤ 7
  · simp only [if_neg empty, if_pos short]
    exact ⟨[], .ungranted grants m fun feed member => (grant feed member).2.1, rfl⟩
  · simp only [if_neg empty, if_neg short]
    have left := (lt_cfCount 0 response.length).mpr (by omega)
    exact ⟨_, .granted grants 0 _ m left enough grant, rfl⟩

/-- A turn brings the request across, and the response back. -/
theorem Goes.turn (turn : Turn) (m : MessageServer σ) (proper : turn.Proper cfg m) :
    Goes cfg ⟨.idle, .idle, m⟩ turn.events ⟨.idle, .idle, (messageServer σ).run m turn.messages⟩
      (turn.frames cfg m) := by
  have asked := Goes.asks proper.asks m
  have served := Goes.served turn.can turn.tick turn.polls ((messageServer σ).run m turn.asking) proper.fits
    proper.reliable proper.started
  obtain ⟨frames, answered, same⟩ := Goes.answered turn.can (turn.response m) turn.grants
    ((messageServer σ).run m (turn.asking ++ .request turn.tick turn.request :: turn.polls.map Poll.message))
    proper.enough proper.grants
  rw [Machine.run_append, Machine.run_cons] at answered
  have all := (asked.append served).append answered
  rw [List.append_assoc _ _ frames, ← Turn.response, same] at all
  rw [Turn.messages, Machine.run_append, Machine.run_append, Machine.run_cons]
  exact all

end

/-- Turns each of which is proper for the message server that the earlier ones leave. -/
def Conversation (cfg : IsoTpConfig) : MessageServer σ → List Turn → Prop
  | _, [] => True
  | m, turn :: turns => turn.Proper cfg m ∧ Conversation cfg ((messageServer σ).run m turn.messages) turns

def conversationFrames (cfg : IsoTpConfig) : MessageServer σ → List Turn → List CanFrame
  | _, [] => []
  | m, turn :: turns =>
    turn.frames cfg m ++ conversationFrames cfg ((messageServer σ).run m turn.messages) turns

theorem Goes.conversation (cfg : IsoTpConfig) (turns : List Turn) (m : MessageServer σ)
    (proper : Conversation cfg m turns) :
    Goes cfg ⟨.idle, .idle, m⟩ (turns.flatMap Turn.events)
      ⟨.idle, .idle, (messageServer σ).run m (turns.flatMap Turn.messages)⟩ (conversationFrames cfg m turns) := by
  induction turns generalizing m with
  | nil => exact .done _
  | cons turn turns ih =>
    obtain ⟨now, later⟩ := proper
    rw [List.flatMap_cons, List.flatMap_cons, Machine.run_append]
    exact (Goes.turn turn m now).append (ih _ later)

namespace UdsServer

/-- A conversation over the bus is one of whole messages: every request arrives as it was cut into
    frames, every response goes out in the frames that carry it, and nothing else does. -/
theorem conversation_delivered (cfg : IsoTpConfig) (rxBuf : Region Byte) (timing : TimingConfig)
    (onTimeout : Option (σ → σ)) (reqBuf respBuf : Region Byte) (state : σ) (services : List (IService σ))
    (turns : List Turn)
    (proper : Conversation cfg (boot (.create cfg rxBuf) timing onTimeout reqBuf respBuf state services).plain turns) :
    let start := boot (.create cfg rxBuf) timing onTimeout reqBuf respBuf state services
    let ends := (udsServer σ).run start (turns.flatMap Turn.events)
    ends.plain = (messageServer σ).run start.plain (turns.flatMap Turn.messages) ∧
      ends.transport.receiver = .idle ∧ ends.transport.txState ≠ .waitFc ∧
      ((udsServer σ).trace start (turns.flatMap Turn.events)).flatMap Machine.Entry.output =
        conversationFrames cfg start.plain turns := by
  intro start ends
  have initial := Carries.boot cfg rxBuf timing onTimeout reqBuf respBuf state services
  obtain ⟨carries, sent⟩ := (Goes.conversation cfg turns start.plain proper).followed initial
  exact ⟨carries.server, carries.receives.same, carries.conveys.of, sent⟩

def vinRequest : CanFrame := .make 0x7DF [0x03, 0x22, 0xF1, 0x90] 4

def vinGrant : CanFrame := .make 0x7DF [0x30, 0x00, 0x00] 3

def vinTurn (can : ICanInterface) (tick : Word) : Turn :=
  ⟨[0x22, 0xF1, 0x90], [⟨can, vinRequest, []⟩], can, tick, [], [⟨can, vinGrant, []⟩]⟩

theorem vinTurn_proper {can : ICanInterface} {tick : Word} (reliable : can.Reliable)
    (started : Early (can.getTickMs + kDefaultIsoTpConfig.nBsMs) [⟨can, tick⟩]) (m : MessageServer Unit)
    (response : (vinTurn can tick).response m = [0x62, 0xF1, 0x90] ++ vin) :
    (vinTurn can tick).Proper kDefaultIsoTpConfig m := by
  have shape : IsSingleFrame kDefaultIsoTpConfig [0x22, 0xF1, 0x90] vinRequest := ⟨rfl, by decide, rfl, rfl⟩
  have cts : IsCts kDefaultIsoTpConfig vinGrant := ⟨rfl, by decide, by decide, rfl⟩
  have early : Early (can.getTickMs + kDefaultIsoTpConfig.nBsMs) [] := List.forall_mem_nil _
  have enough : cfCount 20 ≤ [if vinGrant.data 1 = 0 then cfCount 20 else (vinGrant.data 1).toNat].sum := by decide
  have request : Asks kDefaultIsoTpConfig [0x22, 0xF1, 0x90] [⟨can, vinRequest, []⟩] :=
    .single _ (by decide) (by decide) shape rfl
  refine ⟨request, ?_, reliable, started, ?_, ?_⟩
  · rw [response]
    decide
  · exact List.forall_mem_singleton.mpr ⟨reliable, cts, early⟩
  · rw [response]
    exact enough

def vinTurns : List Turn := [vinTurn readerCan 10, vinTurn readerCan 10]

theorem conversation_delivered_vin :
    let ends := (udsServer Unit).run reader (vinTurns.flatMap Turn.events)
    ends.plain = (messageServer Unit).run reader.plain (vinTurns.flatMap Turn.messages) ∧
      ends.transport.receiver = .idle ∧ ends.transport.txState ≠ .waitFc ∧
      ((udsServer Unit).trace reader (vinTurns.flatMap Turn.events)).flatMap Machine.Entry.output =
        conversationFrames kDefaultIsoTpConfig reader.plain vinTurns := by
  have reliable : readerCan.Reliable := fun _ => rfl
  have started : Early (readerCan.getTickMs + kDefaultIsoTpConfig.nBsMs) [⟨readerCan, 10⟩] :=
    List.forall_mem_singleton.mpr (by decide)
  exact conversation_delivered kDefaultIsoTpConfig (Region.fill 0) kDefaultTiming none (Region.fill 0) (Region.fill 0) ()
    [identifiers.service] vinTurns
    ⟨vinTurn_proper reliable started reader.plain rfl, vinTurn_proper reliable started _ rfl, trivial⟩

end UdsServer

end Uds
