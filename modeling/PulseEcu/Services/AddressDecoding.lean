import PulseEcu.Services.ServiceSet

open Foundation

namespace Uds

inductive AddressedService where
  | requestDownload
  | requestUpload
  | readMemoryByAddress
  | writeMemoryByAddress
  deriving DecidableEq, Repr

def Call.area : Call → Option (Word × Nat)
  | .readMemory call => some (call.address, call.len)
  | .transfer (.accept request) _ => some (request.address, request.length)
  | .upload call => some (call.request.address, call.request.length)
  | .writeMemory call _ => some (call.address, call.len)
  | _ => none

namespace AddressedService

variable {ω : Type}

def service : AddressedService → Service
  | requestDownload => .requestDownload
  | requestUpload => .requestUpload
  | readMemoryByAddress => .readMemoryByAddress
  | writeMemoryByAddress => .writeMemoryByAddress

def formatAt : AddressedService → Nat
  | requestDownload => 2
  | requestUpload => 2
  | readMemoryByAddress => 1
  | writeMemoryByAddress => 1

section

variable (target : Target) (addressed : AddressedService) (handlers : Handlers ω) (world : ω) (req : Region Byte)
  (reqLen : Nat) (resp : Region Byte) (respLen : Nat) (session : UdsSession)

def handled : Handled Call (Ecu ω) :=
  (addressed.service.handle target (handlers, world) req reqLen resp respLen session).1

def address : Nat := declaredAddress req (addressed.formatAt + 1) (req addressed.formatAt)

def length : Nat := declaredSize req (addressed.formatAt + 1) (req addressed.formatAt)

def NonEmpty : Prop := addrLenOf (req addressed.formatAt) ≠ 0 ∧ sizeLenOf (req addressed.formatAt) ≠ 0

def InRange : Prop := addressed.address req < 2 ^ 32 ∧ addressed.length req < 2 ^ target.sizeBits

/-- What reaches the application is what the two fields say, and what cannot be said to it is
    answered negatively. -/
structure Decodes : Prop where
  exact : ∀ call ∈ (addressed.handled target handlers world req reqLen resp respLen session).calls,
    ∃ area, call.area = some area ∧ area.1.toNat = addressed.address req ∧ area.2 = addressed.length req ∧
      addressed.NonEmpty req
  refused : ¬ addressed.InRange target req →
    (addressed.handled target handlers world req reqLen resp respLen session).IsNegative addressed.service.serviceId

theorem handled_areas (accepts : addressed.service.Accepts target handlers req reqLen respLen session) :
    ∃ call, (addressed.handled target handlers world req reqLen resp respLen session).calls = [call] ∧
      call.area = some (parseAddress req (addressed.formatAt + 1) (req addressed.formatAt),
        (parseSize req (addressed.formatAt + 1) (req addressed.formatAt) target).toNat) := by
  cases addressed with
  | requestDownload =>
    have calls := handlers.requestDownload.handle_asks target req reqLen resp respLen session world accepts
    exact ⟨.transfer (.accept (RequestDownloadService.parse target req)) _, congrArg (List.map _) calls, rfl⟩
  | requestUpload =>
    obtain ⟨accepted, calls⟩ := handlers.requestUpload.handle_asks target req reqLen resp respLen session world accepts
    exact ⟨.upload ⟨RequestUploadService.parse target req, accepted⟩, congrArg (List.map Call.upload) calls, rfl⟩
  | readMemoryByAddress =>
    obtain ⟨bytesRead, calls⟩ := handlers.readMemory.handle_asks target req reqLen resp respLen session world accepts
    exact ⟨.readMemory ⟨_, _, bytesRead⟩, congrArg (List.map Call.readMemory) calls, rfl⟩
  | writeMemoryByAddress =>
    rcases handlers.writeMemory.handle_calls target req reqLen resp respLen session world with
      ⟨calls, _⟩ | ⟨_, _, none | malformed | short⟩
    · exact ⟨.writeMemory ⟨_, _, _⟩ _, congrArg (List.map _) calls, rfl⟩
    · exact absurd none accepts.1
    · exact absurd accepts.2.1 malformed
    · exact absurd accepts.2.2 short

theorem address_of_inRange (inRange : addressed.InRange target req) :
    (parseAddress req (addressed.formatAt + 1) (req addressed.formatAt)).toNat = addressed.address req ∧
      (parseSize req (addressed.formatAt + 1) (req addressed.formatAt) target).toNat = addressed.length req := by
  rw [parseAddress_toNat, parseSize_toNat]
  exact ⟨Nat.mod_eq_of_lt inRange.1, Nat.mod_eq_of_lt inRange.2⟩

/-- A request is decoded exactly unless a handler takes it with an empty field, or with a value
    whose high bytes the accumulation shifts out. -/
theorem decodes_iff : addressed.Decodes target handlers world req reqLen resp respLen session ↔
    (addressed.service.Accepts target handlers req reqLen respLen session →
      addressed.NonEmpty req ∧ addressed.InRange target req) := by
  constructor
  · intro decodes accepts
    obtain ⟨call, calls, decoded⟩ := addressed.handled_areas target handlers world req reqLen resp respLen session accepts
    obtain ⟨area, known, address, length, nonEmpty⟩ := decodes.exact call (by rw [calls]; exact List.mem_cons_self)
    have same := Option.some.inj (decoded.symm.trans known)
    rw [← same] at address length
    refine ⟨nonEmpty, ?_, ?_⟩
    · rw [← address]
      exact (parseAddress ..).isLt
    · rw [← length]
      exact (parseSize ..).isLt
  · intro condition
    have serves := addressed.service.handle_serves target handlers world req reqLen resp respLen session
    have refused := serves.refused_iff addressed.service.serviceId_positive
    by_cases accepts : addressed.service.Accepts target handlers req reqLen respLen session
    · obtain ⟨nonEmpty, inRange⟩ := condition accepts
      obtain ⟨call, calls, decoded⟩ :=
        addressed.handled_areas target handlers world req reqLen resp respLen session accepts
      obtain ⟨address, length⟩ := addressed.address_of_inRange target req inRange
      refine ⟨fun other member => ?_, fun beyond => absurd inRange beyond⟩
      rw [calls, List.mem_singleton] at member
      rw [member]
      exact ⟨_, decoded, address, length, nonEmpty⟩
    · have answer := refused.mpr accepts
      refine ⟨fun call member => ?_, fun _ => answer.1⟩
      have silent : (addressed.handled target handlers world req reqLen resp respLen session).calls = [] := answer.2.1
      rw [silent] at member
      cases member

end

def readable : Handlers Unit :=
  { Handlers.bare with readMemory := ⟨some fun _ cells len state => ((cells, len), state)⟩ }

def highAddress : Region Byte := (Region.fill 0).store 0 [0x23, 0x15, 0x01, 0x00, 0x00, 0x00, 0x00, 0x04]

theorem high_byte_lost : ¬ readMemoryByAddress.Decodes .cortexM readable () highAddress 8 (Region.fill 0) 4096
    (.create kDefaultTiming) := by
  intro decodes
  obtain ⟨area, known, address, _⟩ := decodes.exact (.readMemory ⟨0, 4, 4⟩) List.mem_cons_self
  rw [← Option.some.inj known] at address
  exact absurd address (by decide)

end AddressedService

end Uds
