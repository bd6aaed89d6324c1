import PulseEcu.Services.AddressAndLength
import PulseEcu.Services.HandlerContract

open Foundation

namespace Uds

structure WriteMemoryCall where
  address : Word
  data : Nat
  len : Nat
  deriving DecidableEq

/-- The callback gets the address, the memory from the data pointer on, and the length. -/
structure WriteMemoryByAddressService (σ : Type) where
  callback : Option (Word → Region Byte → Nat → σ → Bool × σ)

namespace WriteMemoryByAddressService

variable {σ : Type}

def serviceId : ServiceId := .writeMemoryByAddress

def dataStart (req : Region Byte) : Nat := 2 + addrLenOf (req 1) + sizeLenOf (req 1)

def handle (target : Target) (svc : WriteMemoryByAddressService σ) (req : Region Byte) (reqLen : Nat)
    (resp : Region Byte) (_respLen : Nat) (_session : UdsSession) (state : σ) : Handled WriteMemoryCall σ :=
  if reqLen < 3 then negative resp serviceId .incorrectMessageLengthOrInvalidFormat state []
  else
    let addrLenFmt := req 1
    let addrLen := addrLenOf addrLenFmt
    let memLen := sizeLenOf addrLenFmt
    if addrLen = 0 ∨ memLen = 0 ∨ reqLen < 2 + addrLen + memLen then
      negative resp serviceId .incorrectMessageLengthOrInvalidFormat state []
    else
      let address := parseAddress req 2 addrLenFmt
      let memSize := parseSize req 2 addrLenFmt target
      -- the sum is a `size_t` as well
      if reqLen < (BitVec.ofNat target.sizeBits (dataStart req) + memSize).toNat then
        negative resp serviceId .incorrectMessageLengthOrInvalidFormat state []
      else
        match svc.callback with
        | none => negative resp serviceId .generalProgrammingFailure state []
        | some callback =>
          let call : WriteMemoryCall := ⟨address, dataStart req, memSize.toNat⟩
          let result := callback address (req.advance (dataStart req)) memSize.toNat state
          if result.1 then
            ⟨⟨true, (resp.store 0 [serviceId + 0x40, addrLenFmt]).store 2 (req.load 2 addrLen), 2 + addrLen,
              result.2⟩, [call]⟩
          else negative resp serviceId .generalProgrammingFailure result.2 [call]

def WellFormed (req : Region Byte) (reqLen : Nat) : Prop :=
  3 ≤ reqLen ∧ addrLenOf (req 1) ≠ 0 ∧ sizeLenOf (req 1) ≠ 0 ∧ dataStart req ≤ reqLen

/-- The size comparison of the code: the sum is reduced to the width of `size_t`. -/
def PassesSizeCheck (target : Target) (req : Region Byte) (reqLen : Nat) : Prop :=
  (dataStart req + declaredSize req 2 (req 1)) % 2 ^ target.sizeBits ≤ reqLen

variable (target : Target) (svc : WriteMemoryByAddressService σ) (req : Region Byte) (reqLen : Nat)
    (resp : Region Byte) (respLen : Nat) (session : UdsSession) (state : σ)

theorem checked_sum : (BitVec.ofNat target.sizeBits (dataStart req) + parseSize req 2 (req 1) target).toNat =
    (dataStart req + declaredSize req 2 (req 1)) % 2 ^ target.sizeBits := by
  rw [BitVec.toNat_add, BitVec.toNat_ofNat, parseSize_toNat, ← Nat.add_mod]

def verdict (call : WriteMemoryCall) : Bool :=
  match svc.callback with
  | none => false
  | some callback => (callback call.address (req.advance call.data) call.len state).1

def Accepts : Prop := svc.callback ≠ none ∧ WellFormed req reqLen ∧ PassesSizeCheck target req reqLen

def asked : WriteMemoryCall := ⟨parseAddress req 2 (req 1), dataStart req, (parseSize req 2 (req 1) target).toNat⟩

inductive Turn (handled : Handled WriteMemoryCall σ) : Prop
  | denied (nrc : NrcCode) (unaccepted : ¬ svc.Accepts target req reqLen)
      (same : handled = negative resp serviceId nrc state [])
  | failed (after : σ) (accepted : svc.Accepts target req reqLen) (no : svc.verdict req state (asked target req) = false)
      (same : handled = negative resp serviceId .generalProgrammingFailure after [asked target req])
  | written (after : σ) (accepted : svc.Accepts target req reqLen)
      (same : handled = ⟨⟨true, (resp.store 0 [serviceId + 0x40, req 1]).store 2 (req.load 2 (addrLenOf (req 1))),
        2 + addrLenOf (req 1), after⟩, [asked target req]⟩)

theorem handle_turn : Turn target svc req reqLen resp state
    (svc.handle target req reqLen resp respLen session state) := by
  simp only [handle]
  by_cases short : reqLen < 3
  · rw [if_pos short]
    exact .denied _ (fun accepts => absurd short (Nat.not_lt.mpr accepts.2.1.1)) rfl
  · rw [if_neg short]
    by_cases malformed : addrLenOf (req 1) = 0 ∨ sizeLenOf (req 1) = 0 ∨ reqLen < 2 + addrLenOf (req 1) + sizeLenOf (req 1)
    · rw [if_pos malformed]
      have denied : ¬ svc.Accepts target req reqLen := by
        intro accepts
        obtain ⟨_, ⟨_, address, size, fields⟩, _⟩ := accepts
        rcases malformed with noAddress | noSize | missing
        · exact address noAddress
        · exact size noSize
        · exact absurd missing (Nat.not_lt.mpr fields)
      exact .denied _ denied rfl
    · rw [if_neg malformed, checked_sum]
      simp only [not_or, Nat.not_lt] at malformed
      have wellFormed : WellFormed req reqLen := ⟨Nat.le_of_not_lt short, malformed⟩
      by_cases beyond : reqLen < (dataStart req + declaredSize req 2 (req 1)) % 2 ^ target.sizeBits
      · rw [if_pos beyond]
        exact .denied _ (fun accepts => absurd beyond (Nat.not_lt.mpr accepts.2.2)) rfl
      · rw [if_neg beyond]
        cases given : svc.callback with
        | none => exact .denied _ (fun accepts => accepts.1 given) rfl
        | some callback =>
          have accepted : svc.Accepts target req reqLen :=
            ⟨by rw [given]; exact Option.some_ne_none _, wellFormed, Nat.le_of_not_lt beyond⟩
          dsimp only
          split
          · exact .written _ accepted rfl
          · rename_i failed
            have no : svc.verdict req state (asked target req) = false := by
              rw [verdict, given]
              exact Bool.not_eq_true _ ▸ failed
            exact .failed _ accepted no rfl

theorem handle_calls : (svc.handle target req reqLen resp respLen session state).calls =
    [⟨parseAddress req 2 (req 1), dataStart req, (parseSize req 2 (req 1) target).toNat⟩] ∧
      svc.callback ≠ none ∧ WellFormed req reqLen ∧ PassesSizeCheck target req reqLen ∨
    (svc.handle target req reqLen resp respLen session state).calls = [] ∧
      (svc.handle target req reqLen resp respLen session state).IsNegative serviceId ∧
      (svc.callback = none ∨ ¬ WellFormed req reqLen ∨ ¬ PassesSizeCheck target req reqLen) := by
  cases handle_turn target svc req reqLen resp respLen session state with
  | denied nrc unaccepted same =>
    have reason : svc.callback = none ∨ ¬ WellFormed req reqLen ∨ ¬ PassesSizeCheck target req reqLen := by
      by_cases given : svc.callback = none
      · exact Or.inl given
      · exact Or.inr (Classical.not_and_iff_not_or_not.mp fun formed => unaccepted ⟨given, formed⟩)
    rw [same]
    exact Or.inr ⟨rfl, negative_isNegative .., reason⟩
  | failed after accepted no same =>
    rw [same]
    exact Or.inl ⟨rfl, accepted⟩
  | written after accepted same =>
    rw [same]
    exact Or.inl ⟨rfl, accepted⟩

theorem handle_serves (report : WriteMemoryCall → Report)
    (reports : ∀ call, svc.verdict req state call = false → report call = .failed) :
    Serves serviceId state (fun _ => True) report (svc.Accepts target req reqLen)
      (svc.handle target req reqLen resp respLen session state) := by
  cases handle_turn target svc req reqLen resp respLen session state with
  | denied nrc unaccepted same =>
    rw [same]
    exact .refuse unaccepted ..
  | failed after accepted no same =>
    rw [same]
    exact .fail accepted _ _ True.intro (by rw [reports _ no]; decide)
  | written after accepted same =>
    rw [same]
    exact .answered accepted rfl (Nat.add_pos_left Nat.two_pos _)

theorem handle_fits (room : 17 ≤ respLen) :
    Fits respLen resp (svc.handle target req reqLen resp respLen session state).toAnswer := by
  have kept := Region.KeptFrom.refl respLen resp
  have three : 3 ≤ respLen := by omega
  have nibble := addrLenOf_le (req 1)
  cases handle_turn target svc req reqLen resp respLen session state with
  | denied nrc unaccepted same =>
    rw [same]
    exact .negative kept three ..
  | failed after accepted no same =>
    rw [same]
    exact .negative kept three ..
  | written after accepted same =>
    rw [same]
    have header : Region.KeptFrom respLen resp (resp.store 0 [serviceId + 0x40, req 1]) :=
      kept.store (Nat.le_trans (by decide : 2 ≤ 3) three)
    have echoed : 2 + addrLenOf (req 1) ≤ respLen := by omega
    exact ⟨echoed, header.store (by rw [Region.load_length]; exact echoed)⟩

/-- The callback gets bytes of the request only, and a request that is too short for its
    declared size is refused. -/
structure Contained : Prop where
  inside : ∀ call ∈ (svc.handle target req reqLen resp respLen session state).calls,
    call.data + call.len ≤ reqLen
  refused : reqLen < dataStart req + declaredSize req 2 (req 1) →
    (svc.handle target req reqLen resp respLen session state).IsNegative serviceId ∧
      (svc.handle target req reqLen resp respLen session state).calls = []

/-- The handler is safe on a request exactly when it makes no call or the declared size fits. -/
theorem contained_iff : Contained target svc req reqLen resp respLen session state ↔
    svc.callback = none ∨ ¬ WellFormed req reqLen ∨
      dataStart req + declaredSize req 2 (req 1) ≤ reqLen ∨
      reqLen < (dataStart req + declaredSize req 2 (req 1)) % 2 ^ target.sizeBits := by
  rcases handle_calls target svc req reqLen resp respLen session state with
    ⟨calls, given, wellFormed, passed⟩ | ⟨calls, no, reason⟩
  · constructor
    · intro contained
      refine Or.inr (Or.inr (Or.inl (Nat.not_lt.mp fun beyond => ?_)))
      have silent := (contained.refused beyond).2
      rw [calls] at silent
      cases silent
    · intro condition
      have fits : dataStart req + declaredSize req 2 (req 1) ≤ reqLen := by
        rcases condition with absent | malformed | fits | stopped
        · exact absurd absent given
        · exact absurd wellFormed malformed
        · exact fits
        · exact absurd stopped (Nat.not_lt.mpr passed)
      constructor
      · intro call member
        rw [calls] at member
        rw [List.mem_singleton.mp member]
        have size : (parseSize req 2 (req 1) target).toNat ≤ declaredSize req 2 (req 1) := by
          rw [parseSize_toNat]
          exact Nat.mod_le _ _
        exact Nat.le_trans (Nat.add_le_add_left size _) fits
      · intro beyond
        exact absurd fits (Nat.not_le.mpr beyond)
  · constructor
    · intro _
      rcases reason with absent | malformed | stopped
      · exact Or.inl absent
      · exact Or.inr (Or.inl malformed)
      · exact Or.inr (Or.inr (Or.inr (Nat.not_le.mp stopped)))
    · intro _
      constructor
      · intro call member
        rw [calls] at member
        cases member
      · exact fun _ => ⟨no, calls⟩

def wrapping : Region Byte := (Region.fill 0).store 0 [0x3D, 0x41, 0x00, 0xFF, 0xFF, 0xFF, 0xFF]

theorem wrapping_not_contained :
    ¬ Contained .cortexM (⟨some fun _ _ _ _ => (true, ())⟩ : WriteMemoryByAddressService Unit) wrapping 7
      (Region.fill 0) 4096 (.create kDefaultTiming) () := by
  intro contained
  have inside := contained.inside ⟨0, 7, 0xFFFFFFFF⟩ (by decide)
  exact absurd inside (by decide)

end WriteMemoryByAddressService

end Uds
