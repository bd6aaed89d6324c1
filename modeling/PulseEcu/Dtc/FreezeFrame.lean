import PulseEcu.Dtc.StatusHistory

open Foundation

namespace Uds.Dtc

abbrev Frame := Nat × List Byte

def DtcEntry.frame (e : DtcEntry) : Frame := (e.snapshotLen, e.snapshot.load 0 e.snapshotLen)

namespace DtcManager

def frame (m : DtcManager) (code : Word) : Option Frame := (m.find code).map DtcEntry.frame

def shot (data : Region Byte) (len : Nat) : Frame :=
  (if len < kSnapshotSize then len else kSnapshotSize, data.load 0 (if len < kSnapshotSize then len else kSnapshotSize))

def Stores (code : Word) (entry : Entry) : Prop :=
  entry.output = .stored true ∧ ∃ data len, Captures code entry.event data len ∧ 0 < len

def Clears (code : Word) (entry : Entry) : Prop := happening code entry = .cleared

/-- What was stored for the code is still there unless the DTC was cleared since. -/
def FramesKept (code : Word) (past : List Entry) (m : DtcManager) : Prop :=
  ∀ earlier entry later, past = earlier ++ entry :: later → Stores code entry →
    (∀ other ∈ later, ¬ Clears code other) → m.frame code = entry.after.frame code

def Overwrites (code : Word) (entry : Entry) : Prop :=
  ∃ e data len, entry.before.find code = some e ∧ e.snapshotLen ≠ 0 ∧ Captures code entry.event data len ∧
    shot data len ≠ e.frame

variable {m : DtcManager} {code : Word} {e : DtcEntry}

theorem keep_frame (data : Region Byte) (len : Nat) (e : DtcEntry) : (keep data len e).frame = shot data len := by
  have copied := Region.load_store e.snapshot 0 (data.load 0 (if len < kSnapshotSize then len else kSnapshotSize))
  rw [Region.load_length] at copied
  exact congrArg (Prod.mk _) copied

theorem shot_pos (data : Region Byte) {len : Nat} (given : 0 < len) : (shot data len).1 ≠ 0 := by
  unfold shot kSnapshotSize
  dsimp only
  split
  · omega
  · decide

theorem next_frame (found : m.find code = some e) (call : DtcCall) :
    (machine.next m call).frame code = some (effect code e call).frame := by
  rw [frame, m.find_next code call found]
  rfl

theorem captures_effect (call : DtcCall) {data : Region Byte} {len : Nat} (captures : Captures code call data len) :
    effect code e call = keep data len e ∧ happening code (machine.entry m call) = .unrelated := by
  obtain ⟨asked, given, same⟩ := captures
  rcases captures_cases given with rfl | ⟨recordNum, rfl⟩
  · exact ⟨if_pos same, rfl⟩
  · exact ⟨if_pos same, rfl⟩

/-- The frame of a registered DTC after a call that is no capture for it, after one, and after a
    call that clears it. -/
theorem effect_frame (found : m.find code = some e) (call : DtcCall) :
    ¬ Clears code (machine.entry m call) ∧ (effect code e call).frame = e.frame ∨
      (∃ data len, Captures code call data len ∧ (effect code e call).frame = shot data len) ∨
      Clears code (machine.entry m call) ∧ (effect code e call).snapshotLen = 0 := by
  unfold Clears
  cases effect_cases found call with
  | unrelated means same =>
    rw [means, same]
    exact Or.inl ⟨by decide, rfl⟩
  | captured data len means captures written =>
    rw [written, keep_frame]
    exact Or.inr (Or.inl ⟨data, len, captures, rfl⟩)
  | tested failed means written =>
    rw [means, written]
    refine Or.inl ⟨(fun clears => by cases clears), ?_⟩
    split
    · rfl
    · rfl
  | cleared extDataLen means written =>
    rw [means, written]
    exact Or.inr (Or.inr ⟨rfl, rfl⟩)
  | cycled means written =>
    rw [means, written]
    exact Or.inl ⟨by decide, rfl⟩

theorem capture_stored (m : DtcManager) (asked : Word) (data : Region Byte) (len : Nat) :
    (m.capture asked (some data) len).1 = (m.find asked).isSome := by
  unfold capture
  cases m.find asked with
  | none => rfl
  | some e => rfl

theorem captures_output (call : DtcCall) {data : Region Byte} {len : Nat} (captures : Captures code call data len) :
    machine.output m call = .stored (m.find code).isSome := by
  obtain ⟨asked, given, same⟩ := captures
  rw [← m.find_congr code same]
  rcases captures_cases given with rfl | ⟨recordNum, rfl⟩
  · exact congrArg DtcReply.stored (m.capture_stored asked data len)
  · exact congrArg DtcReply.stored (m.capture_stored asked data len)

theorem stores_frame (call : DtcCall) (stores : Stores code (machine.entry m call)) :
    ∃ frame : Frame, (machine.next m call).frame code = some frame ∧ frame.1 ≠ 0 := by
  obtain ⟨stored, data, len, captures, given⟩ := stores
  have known : (m.find code).isSome = true := DtcReply.stored.inj ((captures_output call captures).symm.trans stored)
  obtain ⟨e, found⟩ := Option.isSome_iff_exists.mp known
  refine ⟨shot data len, ?_, shot_pos data given⟩
  rw [next_frame found call, (@captures_effect m code e call data len captures).1, keep_frame]

/-- What `get_freeze_frame` copies is the stored frame, cut to the space there is. -/
theorem getFreezeFrame_frame {n : Nat} {bytes : List Byte} (stored : m.frame code = some (n, bytes)) (filled : n ≠ 0)
    (recordNum : Byte) (out : Region Byte) (maxLen : Nat) :
    m.getFreezeFrame code recordNum (some out) maxLen = (min n maxLen, some (out.store 0 (bytes.take maxLen))) := by
  obtain ⟨e, found, same⟩ := Option.map_eq_some_iff.mp stored
  obtain ⟨rfl, rfl⟩ := Prod.mk.inj same
  have copied : (if e.snapshotLen < maxLen then e.snapshotLen else maxLen) = min maxLen e.snapshotLen := by
    split <;> omega
  unfold getFreezeFrame
  rw [found]
  dsimp only
  rw [if_neg filled, copied, Region.load_take, Nat.min_comm]

structure Traced (code : Word) (past : List Entry) (m : DtcManager) : Prop where
  origin : ∀ e, m.find code = some e → e.snapshotLen ≠ 0 → SinceLast (Clears code) (Stores code) past
  stored : ∀ entry ∈ past, Stores code entry → ∃ frame : Frame, entry.after.frame code = some frame ∧ frame.1 ≠ 0

theorem Traced.next {past : List Entry} (traced : Traced code past m) (call : DtcCall) :
    Traced code (past ++ [machine.entry m call]) (machine.next m call) := by
  refine ⟨fun after next filled => ?_, Machine.forall_mem_snoc traced.stored (stores_frame call)⟩
  rw [sinceLast_snoc]
  cases found : m.find code with
  | none =>
    rcases m.find_next_new code call found with ⟨still, _⟩ | ⟨severity, new, _⟩
    · cases still.symm.trans next
    · obtain rfl := Option.some.inj (new.symm.trans next)
      exact absurd rfl filled
  | some e =>
    obtain rfl := Option.some.inj ((m.find_next code call found).symm.trans next)
    rcases effect_frame found call with ⟨lasting, same⟩ | ⟨data, len, captures, written⟩ | ⟨_, empty⟩
    · have length := congrArg Prod.fst same
      exact Or.inr ⟨lasting, traced.origin e found fun none => filled (length.trans none)⟩
    · have stored : machine.output m call = .stored true := by rw [captures_output call captures, found]; rfl
      have length := congrArg Prod.fst written
      refine Or.inl ⟨stored, data, len, captures, Nat.pos_of_ne_zero fun none => filled (length.trans ?_)⟩
      rw [none]
      rfl
    · exact absurd empty filled

theorem framesKept_iff (past : List Entry) (call : DtcCall) (traced : Traced code past m)
    (kept : FramesKept code past m) :
    FramesKept code (past ++ [machine.entry m call]) (machine.next m call) ↔ ¬ Overwrites code (machine.entry m call) := by
  constructor
  · intro after overwrites
    obtain ⟨e, data, len, found, filled, captures, different⟩ := overwrites
    have found : m.find code = some e := found
    obtain ⟨written, unrelated⟩ := @captures_effect m code e call data len captures
    obtain ⟨earlier, entry, later, split, stores, lasting⟩ := traced.origin e found filled
    have before := kept earlier entry later split stores lasting
    have clearless : ¬ Clears code (machine.entry m call) := by
      rw [Clears, unrelated]
      decide
    have now := after earlier entry (later ++ [machine.entry m call]) (by rw [split]; simp) stores
      (Machine.forall_mem_snoc lasting clearless)
    rw [next_frame found call, written, keep_frame, ← before, frame, found] at now
    exact different (Option.some.inj now)
  · intro sound earlier entry later split stores lasting
    rcases Machine.split_snoc split with ⟨_, rfl, _⟩ | ⟨rest, rfl, joined⟩
    · rfl
    · have before := kept earlier entry rest joined stores fun other member =>
        lasting other (List.mem_append_left _ member)
      have clearless := lasting _ (List.mem_append_right rest List.mem_cons_self)
      obtain ⟨stored, known, filled⟩ := traced.stored entry (by rw [joined]; simp) stores
      rw [← before] at known ⊢
      obtain ⟨e, found, same⟩ := Option.map_eq_some_iff.mp known
      have here : e.snapshotLen ≠ 0 := by
        rw [← same] at filled
        exact filled
      rw [next_frame found call, frame, found]
      refine congrArg some ?_
      rcases effect_frame found call with ⟨_, unchanged⟩ | ⟨data, len, captures, written⟩ | ⟨clears, _⟩
      · exact unchanged
      · rw [written]
        exact Decidable.byContradiction fun different => sound ⟨e, data, len, found, here, captures, different⟩
      · exact absurd clears clearless

/-- Stored frames are kept in exactly the runs in which no capture writes another frame over one. -/
theorem frames_kept_iff (code : Word) (calls : List DtcCall) :
    (∀ first rest, calls = first ++ rest → FramesKept code (machine.trace create first) (machine.run create first)) ↔
      ∀ entry ∈ machine.trace create calls, ¬ Overwrites code entry :=
  @Machine.prefixes_iff _ _ _ machine (Traced code) (FramesKept code) (fun entry => ¬ Overwrites code entry)
    (fun _ _ call traced => traced.next call) (fun past _ call traced kept => framesKept_iff past call traced kept)
    create calls ⟨(fun _ found => nomatch found), List.forall_mem_nil _⟩
    fun earlier _ _ split => by cases earlier <;> cases split

def recurring : List DtcCall :=
  [.registerDtc 0x123456 0x20, .setSnapshot 0x123456 (some (Region.fill 0xAA)) 1,
    .setFreezeFrame 0x123456 0x01 (some (Region.fill 0xBB)) 1]

theorem first_frame_lost : ¬ ∀ code first rest, recurring = first ++ rest →
    FramesKept code (machine.trace create first) (machine.run create first) := by
  intro holds
  have kept := holds 0x123456 recurring [] rfl [machine.entry create (.registerDtc 0x123456 0x20)] _
    [_] rfl ⟨by decide, Region.fill 0xAA, 1, ⟨0x123456, rfl, rfl⟩, by decide⟩ (by
      intro other member
      rw [List.mem_singleton.mp member]
      intro clears
      cases clears)
  exact absurd kept (by decide)

end DtcManager

end Uds.Dtc
