import PulseEcu.Server.UdsServer
import PulseEcu.Services.HandlerContract

open Foundation

namespace Uds

def kMaxDataIdentifiers : Nat := 64

/-- `readFn` gets the memory from `buf` on and `max_len`; it returns that memory and the length.
    `writeFn` gets the data with its length, and says whether it stored them. -/
structure DataIdentifier (σ : Type) where
  did : BitVec 16
  writable : Bool
  readFn : Option (Region Byte → Nat → σ → (Region Byte × Nat) × σ)
  writeFn : Option (Region Byte → Nat → σ → Bool × σ)

structure ReadDidCall where
  did : BitVec 16
  maxLen : Nat
  deriving DecidableEq

structure ReadDataByIdentifierService (σ : Type) where
  dids : List (DataIdentifier σ)

namespace ReadDataByIdentifierService

variable {σ : Type}

def serviceId : ServiceId := .readDataByIdentifier

def create : ReadDataByIdentifierService σ := ⟨[]⟩

def registerDid (svc : ReadDataByIdentifierService σ) (entry : DataIdentifier σ) :
    Bool × ReadDataByIdentifierService σ :=
  if svc.dids.length ≥ kMaxDataIdentifiers then (false, svc) else (true, ⟨svc.dids ++ [entry]⟩)

def findDid (svc : ReadDataByIdentifierService σ) (did : BitVec 16) : Option (DataIdentifier σ) :=
  svc.dids.find? fun entry => entry.did = did

def didAt (req : Region Byte) (i : Nat) : BitVec 16 :=
  ((req (1 + i * 2)).setWidth 16 <<< 8) ||| (req (2 + i * 2)).setWidth 16

/-- The loop over the identifiers from the i-th one on, with `left` of them to go. -/
def readDids (svc : ReadDataByIdentifierService σ) (req : Region Byte) (respLen : Nat) :
    Nat → Nat → Region Byte → Nat → σ → List ReadDidCall → Handled ReadDidCall σ
  | 0, _, resp, pos, state, calls => ⟨⟨true, resp, pos, state⟩, calls⟩
  | left + 1, i, resp, pos, state, calls =>
    let didId := didAt req i
    match svc.findDid didId with
    | none => negative resp serviceId .requestOutOfRange state calls
    | some did =>
      match did.readFn with
      | none => negative resp serviceId .conditionsNotCorrect state calls
      | some readFn =>
        -- `resp_len` comes in as the size of the buffer, so it is not 0 here
        if pos + 2 > respLen - 1 then negative resp serviceId .responseTooLong state calls
        else
          let header := resp.store pos [(didId >>> 8).setWidth 8, (didId &&& 0xFF).setWidth 8]
          let avail := respLen - (pos + 2)
          let result := readFn (header.advance (pos + 2)) avail state
          let resp := header.graft (pos + 2) result.1.1
          let written := result.1.2
          let calls := calls ++ [⟨didId, avail⟩]
          if written = 0 then negative resp serviceId .conditionsNotCorrect result.2 calls
          else readDids svc req respLen left (i + 1) resp (pos + 2 + written) result.2 calls

def handle (svc : ReadDataByIdentifierService σ) (req : Region Byte) (reqLen : Nat) (resp : Region Byte)
    (respLen : Nat) (_session : UdsSession) (state : σ) : Handled ReadDidCall σ :=
  if reqLen < 3 ∨ (reqLen - 1) % 2 ≠ 0 then negative resp serviceId .incorrectMessageLengthOrInvalidFormat state []
  else svc.readDids req respLen ((reqLen - 1) / 2) 0 (resp.store 0 [serviceId + 0x40]) 1 state []

def service (svc : ReadDataByIdentifierService σ) : IService σ :=
  .reading serviceId fun req reqLen resp respLen session state =>
    (svc.handle req reqLen resp respLen session state).toAnswer

def Accepts (svc : ReadDataByIdentifierService σ) (req : Region Byte) (reqLen respLen : Nat) : Prop :=
  ¬ (reqLen < 3 ∨ (reqLen - 1) % 2 ≠ 0) ∧ ¬ 3 > respLen - 1 ∧
    ∃ did, svc.findDid (didAt req 0) = some did ∧ did.readFn ≠ none

def Bounded (svc : ReadDataByIdentifierService σ) : Prop :=
  ∀ did ∈ svc.dids, ∀ readFn, did.readFn = some readFn → ∀ cells room state,
    (readFn cells room state).1.2 ≤ room ∧ Region.KeptFrom room cells (readFn cells room state).1.1

variable (svc : ReadDataByIdentifierService σ) (req : Region Byte)

theorem readDids_serves {accepts : Prop} (accepted : accepts) {Left : σ → Prop} (any : ∀ state, Left state)
    (before : σ) (respLen left i : Nat) (resp : Region Byte) (first : resp 0 = serviceId + 0x40) (pos : Nat)
    (started : 1 ≤ pos) (state : σ) (calls : List ReadDidCall) (called : calls ≠ []) :
    Serves serviceId before Left (fun _ => .read) accepts (svc.readDids req respLen left i resp pos state calls) := by
  induction left generalizing i resp pos state calls with
  | zero => exact .answered accepted first started
  | succ left ih =>
    have stopped : ∀ (cells : Region Byte) (nrc : NrcCode) (after : σ) (more : List ReadDidCall), more ≠ [] →
        Serves serviceId before Left (fun _ => .read) accepts (negative cells serviceId nrc after more) :=
      fun cells nrc after more some =>
        .gaveUp accepted (negative_isNegative ..) (any after) some (.readings fun _ _ => rfl)
    simp only [readDids]
    split
    · exact stopped _ _ _ _ called
    · split
      · exact stopped _ _ _ _ called
      · split
        · exact stopped _ _ _ _ called
        · have more : calls ++ [ReadDidCall.mk (didAt req i) (respLen - (pos + 2))] ≠ [] :=
            List.append_ne_nil_of_right_ne_nil _ (List.cons_ne_nil _ _)
          split
          · exact stopped _ _ _ _ more
          · apply ih
            · rw [Region.graft_before _ _ _ _ (Nat.succ_pos _), Region.store_before _ _ _ _ started]
              exact first
            · omega
            · exact more

theorem readDids_fits (bounded : svc.Bounded) (before : Region Byte) {respLen : Nat} (room : 3 ≤ respLen) (left i : Nat)
    (resp : Region Byte) (kept : Region.KeptFrom respLen before resp) (pos : Nat) (inside : pos ≤ respLen) (state : σ)
    (calls : List ReadDidCall) :
    Fits respLen before (svc.readDids req respLen left i resp pos state calls).toAnswer := by
  induction left generalizing i resp pos state calls with
  | zero => exact ⟨inside, kept⟩
  | succ left ih =>
    simp only [readDids]
    split
    · exact .negative kept room ..
    · rename_i did found
      split
      · exact .negative kept room ..
      · rename_i readFn given
        split
        · exact .negative kept room ..
        · rename_i fits
          have header : Region.KeptFrom respLen before
              (resp.store pos [(didAt req i >>> 8).setWidth 8, (didAt req i &&& 0xFF).setWidth 8]) := by
            apply kept.store
            simp only [List.length_cons, List.length_nil]
            omega
          have called := bounded did (List.mem_of_find?_eq_some found) readFn given
            ((resp.store pos [(didAt req i >>> 8).setWidth 8, (didAt req i &&& 0xFF).setWidth 8]).advance (pos + 2))
            (respLen - (pos + 2)) state
          have space : pos + 2 + (respLen - (pos + 2)) ≤ respLen := by omega
          have grafted := header.graft space called.2
          split
          · exact .negative grafted room ..
          · exact ih _ _ grafted _ (Nat.le_trans (Nat.add_le_add_left called.1 _) space) _ _

variable (reqLen : Nat) (resp : Region Byte) (respLen : Nat) (session : UdsSession) (state : σ)

theorem handle_serves : Serves serviceId state (fun _ => True) (fun _ => .read) (svc.Accepts req reqLen respLen)
    (svc.handle req reqLen resp respLen session state) := by
  unfold handle
  by_cases malformed : reqLen < 3 ∨ (reqLen - 1) % 2 ≠ 0
  · rw [if_pos malformed]
    exact .refuse (fun accepts => accepts.1 malformed) ..
  · rw [if_neg malformed]
    have some : ∃ left, (reqLen - 1) / 2 = left + 1 := ⟨(reqLen - 1) / 2 - 1, by omega⟩
    obtain ⟨left, count⟩ := some
    rw [count]
    simp only [readDids]
    cases found : svc.findDid (didAt req 0) with
    | none => exact .refuse (fun ⟨_, _, _, known, _⟩ => nomatch found.symm.trans known) ..
    | some did =>
      dsimp only
      cases given : did.readFn with
      | none =>
        have denied : ¬ svc.Accepts req reqLen respLen := by
          intro accepts
          obtain ⟨_, _, other, known, present⟩ := accepts
          rw [Option.some.inj (known.symm.trans found)] at present
          exact present given
        exact .refuse denied ..
      | some readFn =>
        dsimp only
        by_cases full : 1 + 2 > respLen - 1
        · rw [if_pos full]
          exact .refuse (fun accepts => accepts.2.1 full) ..
        · rw [if_neg full]
          have accepted : svc.Accepts req reqLen respLen :=
            ⟨malformed, full, did, found, by rw [given]; exact Option.some_ne_none _⟩
          split
          · exact .gaveUp accepted (negative_isNegative ..) True.intro (List.cons_ne_nil _ _) (.readings fun _ _ => rfl)
          · apply readDids_serves svc req accepted fun _ => True.intro
            · rfl
            · omega
            · exact List.cons_ne_nil _ _

theorem handle_fits (bounded : svc.Bounded) (room : 3 ≤ respLen) :
    Fits respLen resp (svc.handle req reqLen resp respLen session state).toAnswer := by
  have kept := Region.KeptFrom.refl respLen resp
  have one : 1 ≤ respLen := by omega
  unfold handle
  split
  · exact .negative kept room ..
  · exact svc.readDids_fits req bounded resp room _ _ _ (kept.store one) 1 one ..

end ReadDataByIdentifierService

end Uds
