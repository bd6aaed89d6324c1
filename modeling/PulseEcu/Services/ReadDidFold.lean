import PulseEcu.Services.ReadDataByIdentifier

open Foundation

namespace Uds.ReadDataByIdentifierService

variable {σ : Type}

structure Reading (σ : Type) where
  message : List Byte
  buffer : Region Byte
  state : σ

def didBytes (did : BitVec 16) : List Byte := [(did >>> 8).setWidth 8, (did &&& 0xFF).setWidth 8]

def Reading.call (reading : Reading σ) (respLen : Nat) (did : BitVec 16)
    (readFn : Region Byte → Nat → σ → (Region Byte × Nat) × σ) : (Region Byte × Nat) × σ :=
  let start := reading.message.length + 2
  readFn ((reading.buffer.store reading.message.length (didBytes did)).advance start) (respLen - start) reading.state

/-- The call for the identifier behind the bytes so far: it is offered all that is left behind them, which
    is at least one byte. -/
def Reading.Offers (reading : Reading σ) (respLen : Nat) (did : BitVec 16) (call : ReadDidCall) : Prop :=
  call.did = did ∧ reading.message.length + 2 < respLen ∧ call.maxLen + (reading.message.length + 2) = respLen

def Reading.add (reading : Reading σ) (did : BitVec 16) (result : (Region Byte × Nat) × σ) : Reading σ :=
  ⟨reading.message ++ didBytes did ++ result.1.1.load 0 result.1.2,
    (reading.buffer.store reading.message.length (didBytes did)).graft (reading.message.length + 2) result.1.1, result.2⟩

def readOne (svc : ReadDataByIdentifierService σ) (respLen : Nat) (reading : Reading σ) (did : BitVec 16) :
    Except NrcCode (Reading σ) :=
  match svc.dids.find? fun entry => entry.did = did with
  | none => .error .requestOutOfRange
  | some entry =>
    match entry.readFn with
    | none => .error .conditionsNotCorrect
    | some readFn =>
      if reading.message.length + 2 > respLen - 1 then .error .responseTooLong
      else if (reading.call respLen did readFn).1.2 = 0 then .error .conditionsNotCorrect
      else .ok (reading.add did (reading.call respLen did readFn))

def opened (resp : Region Byte) (state : σ) : Reading σ :=
  ⟨[serviceId + 0x40], resp.store 0 [serviceId + 0x40], state⟩

def readAll (svc : ReadDataByIdentifierService σ) (respLen : Nat) (resp : Region Byte) (state : σ)
    (dids : List (BitVec 16)) : Except NrcCode (Reading σ) :=
  dids.foldlM (svc.readOne respLen) (opened resp state)

def WellFormed (reqLen : Nat) : Prop := ∃ count, 1 ≤ count ∧ reqLen = 1 + 2 * count

def requestedDids (req : Region Byte) (reqLen : Nat) : List (BitVec 16) :=
  (List.range ((reqLen - 1) / 2)).map fun i => req (1 + 2 * i) ++ req (2 + 2 * i)

def response : Except NrcCode (Reading σ) → List Byte
  | .ok reading => reading.message
  | .error nrc => [ServiceId.negativeResponse, serviceId, nrc.toByte]

def ReturnsWithin (svc : ReadDataByIdentifierService σ) : Prop :=
  ∀ did ∈ svc.dids, ∀ readFn, did.readFn = some readFn → ∀ cells room state, (readFn cells room state).1.2 ≤ room

def Reading.Tracks (reading : Reading σ) : Prop := reading.buffer.load 0 reading.message.length = reading.message

theorem opened_tracks (resp : Region Byte) (state : σ) : (opened resp state).Tracks :=
  Region.load_store resp 0 [serviceId + 0x40]

inductive Round (svc : ReadDataByIdentifierService σ) (req : Region Byte) (respLen left i : Nat) (reading : Reading σ)
    (calls : List ReadDidCall) (handled : Handled ReadDidCall σ) : Prop where
  | failed (nrc : NrcCode) (resp : Region Byte) (state : σ) (last : Option ReadDidCall)
      (reference : svc.readOne respLen reading (didAt req i) = .error nrc)
      (ended : handled = negative resp serviceId nrc state (calls ++ last.toList))
      (offered : ∀ call ∈ last, reading.Offers respLen (didAt req i) call)
  | read (next : Reading σ) (call : ReadDidCall) (reference : svc.readOne respLen reading (didAt req i) = .ok next)
      (tracks : next.Tracks) (offered : reading.Offers respLen (didAt req i) call)
      (goes : handled = svc.readDids req respLen left (i + 1) next.buffer next.message.length next.state (calls ++ [call]))

variable (svc : ReadDataByIdentifierService σ) (req : Region Byte) (respLen : Nat)

theorem Reading.add_length (reading : Reading σ) (did : BitVec 16) (result : (Region Byte × Nat) × σ) :
    (reading.add did result).message.length = reading.message.length + 2 + result.1.2 := by
  simp only [Reading.add, List.length_append, Region.load_length]
  rfl

theorem Reading.Tracks.add {reading : Reading σ} (tracks : reading.Tracks) (did : BitVec 16)
    (result : (Region Byte × Nat) × σ) : (reading.add did result).Tracks := by
  have stored := Region.load_store_append reading.buffer reading.message.length (didBytes did)
  rw [tracks] at stored
  rw [Reading.Tracks, Reading.add_length, Reading.add, Region.load_graft_append]
  exact congrArg (· ++ result.1.1.load 0 result.1.2) stored

theorem readDids_round (left i : Nat) {reading : Reading σ} (tracks : reading.Tracks) (calls : List ReadDidCall) :
    Round svc req respLen left i reading calls
      (svc.readDids req respLen (left + 1) i reading.buffer reading.message.length reading.state calls) := by
  have uncalled : ∀ call ∈ (none : Option ReadDidCall), reading.Offers respLen (didAt req i) call :=
    fun call member => absurd member (Option.not_mem_none call)
  simp only [readDids]
  cases found : svc.findDid (didAt req i) with
  | none =>
    have none : svc.dids.find? (fun entry => entry.did = didAt req i) = none := found
    refine .failed .requestOutOfRange _ _ .none ?_ (by rw [Option.toList_none, List.append_nil]) uncalled
    simp only [readOne, none]
  | some entry =>
    have first : svc.dids.find? (fun entry => entry.did = didAt req i) = some entry := found
    dsimp only
    cases given : entry.readFn with
    | none =>
      refine .failed .conditionsNotCorrect _ _ .none ?_ (by rw [Option.toList_none, List.append_nil]) uncalled
      simp only [readOne, first, given]
    | some readFn =>
      dsimp only
      by_cases full : reading.message.length + 2 > respLen - 1
      · rw [if_pos full]
        refine .failed .responseTooLong _ _ .none ?_ (by rw [Option.toList_none, List.append_nil]) uncalled
        simp only [readOne, first, given, if_pos full]
      · rw [if_neg full]
        -- the check leaves room behind the identifier, so the space offered is a true difference
        have offered : reading.Offers respLen (didAt req i) ⟨didAt req i, respLen - (reading.message.length + 2)⟩ :=
          ⟨rfl, by omega, by dsimp only; omega⟩
        by_cases nothing : (reading.call respLen (didAt req i) readFn).1.2 = 0
        · refine .failed .conditionsNotCorrect _ _ (some ⟨didAt req i, respLen - (reading.message.length + 2)⟩) ?_
            (if_pos nothing) ?_
          · simp only [readOne, first, given, if_neg full, if_pos nothing]
          · intro call member
            cases member
            exact offered
        · refine .read _ ⟨didAt req i, respLen - (reading.message.length + 2)⟩ ?_
            (tracks.add (didAt req i) (reading.call respLen (didAt req i) readFn)) offered ?_
          · simp only [readOne, first, given, if_neg full, if_neg nothing]
          · rw [Reading.add_length]
            exact if_neg nothing

def didsFrom (req : Region Byte) (i left : Nat) : List (BitVec 16) := (List.range' i left).map (didAt req)

theorem didsFrom_succ (i left : Nat) : didsFrom req i (left + 1) = didAt req i :: didsFrom req (i + 1) left := by
  rw [didsFrom, List.range'_succ, List.map_cons]
  rfl

theorem didAt_eq (i : Nat) : didAt req i = req (1 + 2 * i) ++ req (2 + 2 * i) := by
  rw [didAt, Nat.mul_comm i 2]
  ext j inside
  simp only [BitVec.getElem_or, BitVec.getElem_shiftLeft, BitVec.getElem_setWidth]
  grind

theorem requestedDids_eq (reqLen : Nat) : requestedDids req reqLen = didsFrom req 0 ((reqLen - 1) / 2) := by
  rw [requestedDids, List.range_eq_range', didsFrom]
  exact List.map_congr_left fun i _ => (didAt_eq req i).symm

theorem readDids_message (left i : Nat) {reading : Reading σ} (tracks : reading.Tracks) (calls : List ReadDidCall) :
    (svc.readDids req respLen left i reading.buffer reading.message.length reading.state calls).message =
      response ((didsFrom req i left).foldlM (svc.readOne respLen) reading) := by
  induction left generalizing i reading calls with
  | zero => exact tracks
  | succ left ih =>
    rw [didsFrom_succ, List.foldlM_cons]
    cases readDids_round svc req respLen left i tracks calls with
    | failed nrc resp state last reference ended _ =>
      rw [ended, reference]
      exact negative_message ..
    | read next call reference tracks _ goes =>
      rw [goes, reference]
      exact ih (i + 1) tracks _

/-- After k identifiers the loop is where the reference is after the first k. -/
theorem readDids_rounds (left i k : Nat) (inside : k ≤ left) {reading reached : Reading σ} (tracks : reading.Tracks)
    (calls : List ReadDidCall) (read : (didsFrom req i k).foldlM (svc.readOne respLen) reading = .ok reached) :
    ∃ more, svc.readDids req respLen left i reading.buffer reading.message.length reading.state calls =
      svc.readDids req respLen (left - k) (i + k) reached.buffer reached.message.length reached.state more := by
  induction k generalizing left i reading calls with
  | zero =>
    cases read
    exact ⟨calls, rfl⟩
  | succ k ih =>
    cases left with
    | zero => exact absurd inside (Nat.not_succ_le_zero k)
    | succ left =>
      rw [didsFrom_succ, List.foldlM_cons] at read
      cases readDids_round svc req respLen left i tracks calls with
      | failed nrc resp state last reference _ _ =>
        rw [reference] at read
        cases read
      | read next call reference tracks _ goes =>
        rw [reference] at read
        obtain ⟨more, same⟩ := ih left (i + 1) (Nat.le_of_succ_le_succ inside) tracks (calls ++ [call]) read
        refine ⟨more, goes.trans (same.trans ?_)⟩
        rw [Nat.add_sub_add_right, Nat.add_right_comm, Nat.add_assoc]

/-- The k-th call is the one for the k-th identifier, behind what the reference makes of those before it. -/
theorem readDids_offered (left i : Nat) {reading : Reading σ} (tracks : reading.Tracks) (calls : List ReadDidCall) :
    ∃ more, (svc.readDids req respLen left i reading.buffer reading.message.length reading.state calls).calls =
        calls ++ more ∧
      ∀ k call, more[k]? = some call → ∃ reached did,
        ((didsFrom req i left).take k).foldlM (svc.readOne respLen) reading = .ok reached ∧
          (didsFrom req i left)[k]? = some did ∧ reached.Offers respLen did call := by
  induction left generalizing i reading calls with
  | zero => exact ⟨[], (List.append_nil calls).symm, fun k call given => nomatch given⟩
  | succ left ih =>
    rw [didsFrom_succ]
    cases readDids_round svc req respLen left i tracks calls with
    | failed nrc resp state last _ ended offered =>
      rw [ended]
      refine ⟨last.toList, rfl, fun k call given => ?_⟩
      cases last with
      | none => cases given
      | some made =>
        cases k with
        | succ k => cases given
        | zero =>
          cases given
          exact ⟨reading, didAt req i, rfl, rfl, offered call rfl⟩
    | read next made reference tracks offered goes =>
      obtain ⟨more, same, each⟩ := ih (i + 1) tracks (calls ++ [made])
      rw [goes]
      refine ⟨made :: more, by rw [same, List.append_assoc]; rfl, fun k call given => ?_⟩
      cases k with
      | zero =>
        cases given
        exact ⟨reading, didAt req i, rfl, rfl, offered⟩
      | succ k =>
        obtain ⟨reached, did, read, asked, offers⟩ := each k call given
        refine ⟨reached, did, ?_, asked, offers⟩
        rw [List.take_succ_cons, List.foldlM_cons, reference]
        exact read

variable {svc respLen}

theorem readOne_length (within : svc.ReturnsWithin) {reading next : Reading σ} {did : BitVec 16}
    (done : svc.readOne respLen reading did = .ok next) : next.message.length ≤ respLen := by
  simp only [readOne] at done
  split at done
  · cases done
  · rename_i entry found
    split at done
    · cases done
    · rename_i readFn given
      split at done
      · cases done
      · rename_i fits
        split at done
        · cases done
        · cases done
          have bound := within entry (List.mem_of_find?_eq_some found) readFn given
            ((reading.buffer.store reading.message.length (didBytes did)).advance (reading.message.length + 2))
            (respLen - (reading.message.length + 2)) reading.state
          have written : (reading.call respLen did readFn).1.2 ≤ respLen - (reading.message.length + 2) := bound
          rw [Reading.add_length]
          omega

theorem foldlM_length (within : svc.ReturnsWithin) (dids : List (BitVec 16)) {reading reached : Reading σ}
    (inside : reading.message.length ≤ respLen) (read : dids.foldlM (svc.readOne respLen) reading = .ok reached) :
    reached.message.length ≤ respLen := by
  induction dids generalizing reading with
  | nil =>
    cases read
    exact inside
  | cons did dids ih =>
    rw [List.foldlM_cons] at read
    cases done : svc.readOne respLen reading did with
    | error nrc =>
      rw [done] at read
      cases read
    | ok next =>
      rw [done] at read
      exact ih (readOne_length within done) read

theorem readDids_inside (within : svc.ReturnsWithin) (room : 3 ≤ respLen) (left i : Nat) {reading : Reading σ}
    (tracks : reading.Tracks) (inside : reading.message.length ≤ respLen) (calls : List ReadDidCall) :
    (svc.readDids req respLen left i reading.buffer reading.message.length reading.state calls).respLen ≤ respLen := by
  induction left generalizing i reading calls with
  | zero => exact inside
  | succ left ih =>
    cases readDids_round svc req respLen left i tracks calls with
    | failed nrc resp state last _ ended _ =>
      rw [ended]
      exact room
    | read next call reference tracks _ goes =>
      rw [goes]
      exact ih (i + 1) tracks (readOne_length within reference) _

theorem readOne_head {reading next : Reading σ} {did : BitVec 16} (done : svc.readOne respLen reading did = .ok next) :
    reading.message <+: next.message := by
  simp only [readOne] at done
  split at done
  · cases done
  · split at done
    · cases done
    · split at done
      · cases done
      · split at done
        · cases done
        · cases done
          rw [Reading.add, List.append_assoc]
          exact List.prefix_append _ _

theorem foldlM_head (dids : List (BitVec 16)) {reading reached : Reading σ}
    (read : dids.foldlM (svc.readOne respLen) reading = .ok reached) : reading.message <+: reached.message := by
  induction dids generalizing reading with
  | nil =>
    cases read
    exact List.prefix_rfl
  | cons did dids ih =>
    rw [List.foldlM_cons] at read
    cases done : svc.readOne respLen reading did with
    | error nrc =>
      rw [done] at read
      cases read
    | ok next =>
      rw [done] at read
      exact (readOne_head done).trans (ih read)

theorem response_head_iff (resp : Region Byte) (state : σ) (dids : List (BitVec 16)) :
    (response (svc.readAll respLen resp state dids)).head? = some (serviceId + 0x40) ↔
      ∃ reading, svc.readAll respLen resp state dids = .ok reading := by
  cases result : svc.readAll respLen resp state dids with
  | error nrc =>
    refine iff_of_false (fun head => ?_) fun some => nomatch some
    exact absurd (Option.some.inj head) (by decide)
  | ok reading =>
    obtain ⟨rest, starts⟩ := foldlM_head dids result
    refine iff_of_true ?_ ⟨reading, rfl⟩
    rw [response, ← starts]
    rfl

theorem wellFormed_iff (reqLen : Nat) : WellFormed reqLen ↔ ¬ (reqLen < 3 ∨ (reqLen - 1) % 2 ≠ 0) := by
  constructor
  · intro wellFormed
    obtain ⟨count, some, rfl⟩ := wellFormed
    omega
  · intro accepted
    exact ⟨(reqLen - 1) / 2, by omega, by omega⟩

structure EqualsFold (svc : ReadDataByIdentifierService σ) (req : Region Byte) (reqLen : Nat) (resp : Region Byte)
    (respLen : Nat) (state : σ) (handled : Handled ReadDidCall σ) : Prop where
  malformed : ¬ WellFormed reqLen → handled.message =
    [ServiceId.negativeResponse, serviceId, NrcCode.incorrectMessageLengthOrInvalidFormat.toByte]
  message : WellFormed reqLen → handled.message = response (svc.readAll respLen resp state (requestedDids req reqLen))
  positive : handled.message.head? = some (serviceId + 0x40) ↔
    WellFormed reqLen ∧ ∃ reading, svc.readAll respLen resp state (requestedDids req reqLen) = .ok reading
  rounds : WellFormed reqLen → ∀ k reading, k ≤ (reqLen - 1) / 2 →
    svc.readAll respLen resp state ((requestedDids req reqLen).take k) = .ok reading →
      reading.message.length ≤ respLen ∧ ∃ calls, handled =
        svc.readDids req respLen ((reqLen - 1) / 2 - k) k reading.buffer reading.message.length reading.state calls
  offered : ∀ k call, handled.calls[k]? = some call → ∃ reading did,
    svc.readAll respLen resp state ((requestedDids req reqLen).take k) = .ok reading ∧
      (requestedDids req reqLen)[k]? = some did ∧ reading.Offers respLen did call
  inside : handled.respLen ≤ respLen

theorem handle_equals_fold (svc : ReadDataByIdentifierService σ) (within : svc.ReturnsWithin) (req : Region Byte)
    (reqLen : Nat) (resp : Region Byte) (respLen : Nat) (room : 3 ≤ respLen) (session : UdsSession) (state : σ) :
    EqualsFold svc req reqLen resp respLen state (svc.handle req reqLen resp respLen session state) := by
  by_cases malformed : reqLen < 3 ∨ (reqLen - 1) % 2 ≠ 0
  · have refused : svc.handle req reqLen resp respLen session state =
        negative resp serviceId .incorrectMessageLengthOrInvalidFormat state [] := if_pos malformed
    have illFormed : ¬ WellFormed reqLen := fun wellFormed => (wellFormed_iff reqLen).mp wellFormed malformed
    rw [refused]
    refine ⟨fun _ => negative_message .., fun wellFormed => absurd wellFormed illFormed, ?_,
      fun wellFormed => absurd wellFormed illFormed, ?_, room⟩
    · refine iff_of_false (fun head => ?_) fun positive => illFormed positive.1
      rw [negative_message] at head
      exact absurd (Option.some.inj head) (by decide)
    · intro k call called
      cases called
  · have wellFormed := (wellFormed_iff reqLen).mpr malformed
    have tracks := opened_tracks resp state
    have start : (opened resp state).message.length ≤ respLen := Nat.le_trans (Nat.le_add_left 1 2) room
    have looped : svc.handle req reqLen resp respLen session state = svc.readDids req respLen ((reqLen - 1) / 2) 0
        (opened resp state).buffer (opened resp state).message.length (opened resp state).state [] := if_neg malformed
    have message := svc.readDids_message req respLen ((reqLen - 1) / 2) 0 tracks []
    rw [← requestedDids_eq] at message
    rw [looped]
    refine ⟨fun illFormed => absurd wellFormed illFormed, fun _ => message, ?_, fun _ k reading few read => ?_, ?_, ?_⟩
    · rw [message]
      exact (response_head_iff resp state _).trans (and_iff_right wellFormed).symm
    · have first : (requestedDids req reqLen).take k = didsFrom req 0 k := by
        rw [requestedDids_eq, didsFrom, didsFrom, ← List.map_take, List.take_range'_of_length_ge few]
      refine ⟨foldlM_length within _ start read, ?_⟩
      rw [first] at read
      obtain ⟨calls, same⟩ := svc.readDids_rounds req respLen ((reqLen - 1) / 2) 0 k few tracks [] read
      rw [Nat.zero_add] at same
      exact ⟨calls, same⟩
    · intro k call called
      obtain ⟨more, same, each⟩ := svc.readDids_offered req respLen ((reqLen - 1) / 2) 0 tracks []
      rw [same, List.nil_append] at called
      rw [requestedDids_eq]
      exact each k call called
    · exact readDids_inside req within room _ 0 tracks start []

def readVin (cells : Region Byte) (room : Nat) (state : Unit) : (Region Byte × Nat) × Unit :=
  if room < 3 then ((cells, 0), state) else ((cells.store 0 [0x57, 0x56, 0x57], 3), state)

def vinTable : ReadDataByIdentifierService Unit := ⟨[⟨0xF190, false, some readVin, none⟩]⟩

theorem vinTable_returnsWithin : vinTable.ReturnsWithin := by
  intro did member readFn given cells room state
  rw [vinTable, List.mem_singleton] at member
  subst member
  cases given
  rw [readVin]
  split
  · exact Nat.zero_le _
  · rename_i enough
    exact Nat.le_of_not_lt enough

theorem handle_equals_fold_vin :
    EqualsFold vinTable ((Region.fill 0).store 0 [0x22, 0xF1, 0x90, 0xF1, 0x90]) 5 (Region.fill 0) 4096 ()
        (vinTable.handle ((Region.fill 0).store 0 [0x22, 0xF1, 0x90, 0xF1, 0x90]) 5 (Region.fill 0) 4096
          (UdsSession.create kDefaultTiming) ()) ∧
      (vinTable.handle ((Region.fill 0).store 0 [0x22, 0xF1, 0x90, 0xF1, 0x90]) 5 (Region.fill 0) 4096
        (UdsSession.create kDefaultTiming) ()).message =
          [0x62, 0xF1, 0x90, 0x57, 0x56, 0x57, 0xF1, 0x90, 0x57, 0x56, 0x57] :=
  ⟨handle_equals_fold vinTable vinTable_returnsWithin _ 5 (Region.fill 0) 4096 (by decide) _ (), by decide⟩

end Uds.ReadDataByIdentifierService
