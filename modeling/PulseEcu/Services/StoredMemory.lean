import PulseEcu.Services.StoredData

open Foundation

namespace Uds

section

variable {ω : Type} (memory : ω → Region Byte)

/-- The read function hands out bytes of the memory from the address on, no more than it is asked
    for, and changes none. -/
def ReadMemoryByAddressService.Presents (svc : ReadMemoryByAddressService ω) : Prop :=
  ∀ callback, svc.callback = some callback → ∀ address cells len world,
    memory (callback address cells len world).2 = memory world ∧
      (callback address cells len world).1.2 ≤ len ∧
      (callback address cells len world).1.1.load 0 (callback address cells len world).1.2 =
        (memory world).load address.toNat (callback address cells len world).1.2

/-- The write function puts the data at the address, unless it refuses them. -/
def WriteMemoryByAddressService.Stores (svc : WriteMemoryByAddressService ω) : Prop :=
  ∀ callback, svc.callback = some callback → ∀ address data len world,
    memory (callback address data len world).2 =
      if (callback address data len world).1 then (memory world).store address.toNat (data.load 0 len)
      else memory world

end

namespace ReadMemoryByAddressService

variable {ω : Type} {memory : ω → Region Byte} {svc : ReadMemoryByAddressService ω}

def Presented (target : Target) (memory : Region Byte) (req : Region Byte) (message : List Byte) : Prop :=
  message.head? = some (serviceId + 0x40) → ∃ count, 1 ≤ count ∧ count ≤ (parseSize req 2 (req 1) target).toNat ∧
    message = (serviceId + 0x40) :: memory.load (parseAddress req 2 (req 1)).toNat count

theorem handle_presents (presents : svc.Presents memory) (target : Target) (req : Region Byte) (reqLen : Nat)
    (resp : Region Byte) (respLen : Nat) (session : UdsSession) (world : ω) :
    memory (svc.handle target req reqLen resp respLen session world).state = memory world ∧
      Presented target (memory world) req (svc.handle target req reqLen resp respLen session world).message := by
  have refused : ∀ (buf : Region Byte) (nrc : NrcCode) (after : ω) (calls : List ReadMemoryCall),
      Presented target (memory world) req (negative buf serviceId nrc after calls).message := by
    intro buf nrc after calls head
    rw [negative_message] at head
    exact absurd (Option.some.inj head) (by decide)
  unfold handle
  split
  · exact ⟨rfl, refused _ _ _ _⟩
  · dsimp only
    split
    · exact ⟨rfl, refused _ _ _ _⟩
    · split
      · exact ⟨rfl, refused _ _ _ _⟩
      · cases given : svc.callback with
        | none => exact ⟨rfl, refused _ _ _ _⟩
        | some callback =>
          obtain ⟨kept, short, bytes⟩ := presents callback given (parseAddress req 2 (req 1))
            ((resp.store 0 [serviceId + 0x40]).advance 1) (parseSize req 2 (req 1) target).toNat world
          dsimp only
          generalize callback (parseAddress req 2 (req 1)) ((resp.store 0 [serviceId + 0x40]).advance 1)
            (parseSize req 2 (req 1) target).toNat world = result at kept short bytes ⊢
          split
          · exact ⟨kept, refused _ _ _ _⟩
          · rename_i some
            refine ⟨kept, fun _ => ⟨result.1.2, Nat.one_le_iff_ne_zero.mpr some, short, ?_⟩⟩
            have header : (resp.store 0 [serviceId + 0x40]).load 0 1 = [serviceId + 0x40] :=
              Region.load_store resp 0 [serviceId + 0x40]
            refine (Region.load_graft_append _ _ 1 result.1.2).trans ?_
            rw [header, bytes]
            rfl

end ReadMemoryByAddressService

namespace WriteMemoryByAddressService

variable {ω : Type} {memory : ω → Region Byte} {svc : WriteMemoryByAddressService ω}

def carried (target : Target) (req : Region Byte) : List Byte :=
  req.load (dataStart req) (parseSize req 2 (req 1) target).toNat

def Stored (memory : ω → Region Byte) (target : Target) (req : Region Byte) (before : ω)
    (handled : Handled WriteMemoryCall ω) : Prop :=
  handled.message.head? = some (serviceId + 0x40) ∧
      memory handled.state = (memory before).store (parseAddress req 2 (req 1)).toNat (carried target req) ∨
    handled.message.head? ≠ some (serviceId + 0x40) ∧ memory handled.state = memory before

theorem handle_stores (stores : svc.Stores memory) (target : Target) (req : Region Byte) (reqLen : Nat)
    (resp : Region Byte) (respLen : Nat) (session : UdsSession) (world : ω) :
    Stored memory target req world (svc.handle target req reqLen resp respLen session world) := by
  have refused : ∀ (nrc : NrcCode) (after : ω) (calls : List WriteMemoryCall), memory after = memory world →
      Stored memory target req world (negative resp serviceId nrc after calls) := by
    intro nrc after calls kept
    refine Or.inr ⟨?_, kept⟩
    rw [negative_message]
    exact fun head => absurd (Option.some.inj head) (by decide)
  unfold handle
  split
  · exact refused _ _ _ rfl
  · dsimp only
    split
    · exact refused _ _ _ rfl
    · split
      · exact refused _ _ _ rfl
      · cases given : svc.callback with
        | none => exact refused _ _ _ rfl
        | some callback =>
          have kept := stores callback given (parseAddress req 2 (req 1)) (req.advance (dataStart req))
            (parseSize req 2 (req 1) target).toNat world
          have data : (req.advance (dataStart req)).load 0 (parseSize req 2 (req 1) target).toNat = carried target req :=
            Region.load_congr fun i _ => by rw [Region.advance, Nat.zero_add]
          rw [data] at kept
          dsimp only
          generalize callback (parseAddress req 2 (req 1)) (req.advance (dataStart req))
            (parseSize req 2 (req 1) target).toNat world = result at kept ⊢
          by_cases verdict : result.1 = true
          · rw [if_pos verdict] at kept ⊢
            refine Or.inl ⟨?_, kept⟩
            exact message_head _ rfl (Nat.add_pos_left Nat.two_pos _)
          · rw [if_neg verdict] at kept ⊢
            exact refused _ _ _ kept

end WriteMemoryByAddressService

namespace AskEntry

variable {ω : Type}

def wroteByte (target : Target) (entry : AskEntry ω) (a : Nat) : Option Byte :=
  let address := (parseAddress entry.event.req 2 (entry.event.req 1)).toNat
  if AskEntry.Positive entry .writeMemoryByAddress ∧ address ≤ a then
    (WriteMemoryByAddressService.carried target entry.event.req)[a - address]?
  else none

end AskEntry

section

variable {ω : Type} {target : Target} {memory : ω → Region Byte} {handlers : Handlers ω}

def SameMemory (handlers : Handlers ω) (ecu : Ecu ω) : Prop :=
  ecu.1.readMemory = handlers.readMemory ∧ ecu.1.writeMemory = handlers.writeMemory

theorem SameMemory.next (ecu : Ecu ω) (ask : Ask) (same : SameMemory handlers ecu) :
    SameMemory handlers ((serviceSet ω target).next ecu ask) := by
  obtain ⟨service, req, reqLen, resp, respLen, session⟩ := ask
  cases service <;> exact same

theorem entry_wroteByte (presents : handlers.readMemory.Presents memory) (stores : handlers.writeMemory.Stores memory)
    {ecu : Ecu ω} (same : SameMemory handlers ecu) (ask : Ask)
    (apart : ask.service ≠ .readMemoryByAddress → ask.service ≠ .writeMemoryByAddress →
      memory ((serviceSet ω target).next ecu ask).2 = memory ecu.2) (a : Nat) :
    memory ((serviceSet ω target).next ecu ask).2 a =
      (AskEntry.wroteByte target ((serviceSet ω target).entry ecu ask) a).getD (memory ecu.2 a) := by
  obtain ⟨service, req, reqLen, resp, respLen, session⟩ := ask
  by_cases writes : service = .writeMemoryByAddress
  · subst writes
    obtain ⟨_, writeMemory⟩ := same
    have stored := WriteMemoryByAddressService.handle_stores stores target req reqLen resp respLen session ecu.2
    rw [← writeMemory] at stored
    rcases stored with ⟨positive, kept⟩ | ⟨negative, kept⟩
    · have after : memory ((serviceSet ω target).next ecu
          ⟨.writeMemoryByAddress, req, reqLen, resp, respLen, session⟩).2 =
            (memory ecu.2).store (parseAddress req 2 (req 1)).toNat
              (WriteMemoryByAddressService.carried target req) := kept
      have answered : AskEntry.Positive ((serviceSet ω target).entry ecu
          ⟨.writeMemoryByAddress, req, reqLen, resp, respLen, session⟩) .writeMemoryByAddress := ⟨rfl, positive⟩
      rw [after, Region.store]
      by_cases behind : (parseAddress req 2 (req 1)).toNat ≤ a
      · rw [if_pos behind, AskEntry.wroteByte, if_pos ⟨answered, behind⟩]
        rfl
      · rw [if_neg behind, AskEntry.wroteByte, if_neg fun both => behind both.2]
        rfl
    · have after : memory ((serviceSet ω target).next ecu
          ⟨.writeMemoryByAddress, req, reqLen, resp, respLen, session⟩).2 = memory ecu.2 := kept
      rw [after, AskEntry.wroteByte, if_neg fun both => negative both.1.2]
      rfl
  · have silent : AskEntry.wroteByte target
        ((serviceSet ω target).entry ecu ⟨service, req, reqLen, resp, respLen, session⟩) a = none :=
      if_neg fun both => writes both.1.1
    rw [silent]
    by_cases reads : service = .readMemoryByAddress
    · subst reads
      rw [← same.1] at presents
      have kept := ReadMemoryByAddressService.handle_presents presents target req reqLen resp respLen session ecu.2
      exact congrFun kept.1 a
    · exact congrFun (apart reads writes) a

end

/-- The memory behind the two services is one: along any run, in which the other services leave it
    alone, a positive response to a read request carries, byte for byte, what the last positively
    answered write request that covers the byte put there, and else what was there from the start. -/
theorem memory_stored {ω : Type} (target : Target) (memory : ω → Region Byte) (handlers : Handlers ω) (world : ω)
    (presents : handlers.readMemory.Presents memory) (stores : handlers.writeMemory.Stores memory) (asks : List Ask)
    (apart : ∀ entry ∈ (serviceSet ω target).trace (handlers, world) asks,
      entry.event.service ≠ .readMemoryByAddress → entry.event.service ≠ .writeMemoryByAddress →
        memory entry.after.2 = memory entry.before.2)
    (past later : List (AskEntry ω)) (entry : AskEntry ω)
    (split : (serviceSet ω target).trace (handlers, world) asks = past ++ entry :: later)
    (reads : entry.event.service = .readMemoryByAddress) :
    ReadMemoryByAddressService.Presented target (stored (AskEntry.wroteByte target) (memory world) past)
      entry.event.req entry.output := by
  have initial : SameMemory handlers (handlers, world) := ⟨rfl, rfl⟩
  refine (serviceSet ω target).shows_stored (fun ecu => memory ecu.2) (AskEntry.wroteByte target)
    (fun cells entry => entry.event.service = .readMemoryByAddress →
      ReadMemoryByAddressService.Presented target cells entry.event.req entry.output)
    (fun ecu ask same => SameMemory.next ecu ask same) ?_ initial ?_ split reads
  · rintro ecu ⟨service, req, reqLen, resp, respLen, session⟩ same read
    have reading : service = .readMemoryByAddress := read
    subst reading
    rw [← same.1] at presents
    exact (ReadMemoryByAddressService.handle_presents presents target req reqLen resp respLen session ecu.2).2
  · intro entry member same a
    have alone := apart entry member
    obtain ⟨ecu, ask, rfl⟩ := (serviceSet ω target).entry_of_mem_trace member
    exact entry_wroteByte presents stores same ask alone a

def readRam (address : Word) (cells : Region Byte) (len : Nat) (memory : Region Byte) : (Region Byte × Nat) × Region Byte :=
  if address.toNat + len ≤ 65536 then ((cells.store 0 (memory.load address.toNat len), len), memory)
  else ((cells, 0), memory)

def writeRam (address : Word) (data : Region Byte) (len : Nat) (memory : Region Byte) : Bool × Region Byte :=
  if address.toNat + len ≤ 65536 then (true, memory.store address.toNat (data.load 0 len)) else (false, memory)

theorem readRam_presents : ReadMemoryByAddressService.Presents id ⟨some readRam⟩ := by
  intro callback given address cells len memory
  cases given
  unfold readRam
  by_cases inside : address.toNat + len ≤ 65536
  · have loaded := Region.load_store cells 0 (memory.load address.toNat len)
    rw [Region.load_length] at loaded
    rw [if_pos inside]
    exact ⟨rfl, Nat.le_refl len, loaded⟩
  · rw [if_neg inside]
    exact ⟨rfl, Nat.zero_le len, rfl⟩

theorem writeRam_stores : WriteMemoryByAddressService.Stores id ⟨some writeRam⟩ := by
  intro callback given address data len memory
  cases given
  unfold writeRam
  by_cases inside : address.toNat + len ≤ 65536
  · rw [if_pos inside]
    rfl
  · rw [if_neg inside]
    rfl

def ram : Handlers (Region Byte) := { Handlers.bare with readMemory := ⟨some readRam⟩, writeMemory := ⟨some writeRam⟩ }

def overlapping : List Ask :=
  [asking .writeMemoryByAddress [0x3D, 0x12, 0x20, 0x00, 0x02, 0xAA, 0xBB],
    asking .writeMemoryByAddress [0x3D, 0x12, 0x20, 0x01, 0x02, 0xCC, 0xDD]]

def readsFour : Ask := asking .readMemoryByAddress [0x23, 0x12, 0x20, 0x00, 0x04]

theorem memory_stored_overlapping :
    ReadMemoryByAddressService.Presented .cortexM
        (stored (AskEntry.wroteByte .cortexM) (Region.fill 0xFF)
          ((serviceSet (Region Byte) .cortexM).trace (ram, Region.fill 0xFF) overlapping)) readsFour.req
        ((serviceSet (Region Byte) .cortexM).output
          ((serviceSet (Region Byte) .cortexM).run (ram, Region.fill 0xFF) overlapping) readsFour) ∧
      (serviceSet (Region Byte) .cortexM).output
        ((serviceSet (Region Byte) .cortexM).run (ram, Region.fill 0xFF) overlapping) readsFour =
          [0x63, 0xAA, 0xCC, 0xDD, 0xFF] := by
  refine ⟨?_, by decide⟩
  refine memory_stored .cortexM id ram (Region.fill 0xFF) readRam_presents writeRam_stores
    (overlapping ++ [readsFour]) ?_ _ [] _ (Machine.trace_snoc ..) rfl
  intro entry member reads writes
  rcases List.mem_cons.mp member with rfl | member
  · exact absurd rfl writes
  · rcases List.mem_cons.mp member with rfl | member
    · exact absurd rfl writes
    · rw [List.mem_singleton.mp member] at reads
      exact absurd rfl reads

end Uds
