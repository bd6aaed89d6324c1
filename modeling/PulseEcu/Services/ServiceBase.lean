import PulseEcu.Foundation.Region
import PulseEcu.Session

open Foundation

namespace Uds

/-- What `handle` leaves behind: whether to respond, the response buffer and length, and the
    state of the service and of the application behind its callbacks. -/
structure Answer (σ : Type) where
  send : Bool
  resp : Region Byte
  respLen : Nat
  state : σ

structure Handled (κ σ : Type) extends Answer σ where
  calls : List κ

def writeNrc (resp : Region Byte) (sid : ServiceId) (nrc : NrcCode) : Region Byte :=
  resp.store 0 [ServiceId.negativeResponse, sid, nrc.toByte]

def negative {κ σ : Type} (resp : Region Byte) (sid : ServiceId) (nrc : NrcCode) (state : σ)
    (calls : List κ) : Handled κ σ :=
  ⟨⟨true, writeNrc resp sid nrc, 3, state⟩, calls⟩

/-- The bytes that `handle_request` passes to the transport, if it passes any. -/
def Answer.message {σ : Type} (answer : Answer σ) : List Byte :=
  if answer.send then answer.resp.load 0 answer.respLen else []

def Answer.IsNegative {σ : Type} (answer : Answer σ) (sid : ServiceId) : Prop :=
  ∃ nrc : NrcCode, answer.message = [ServiceId.negativeResponse, sid, nrc.toByte]

theorem negative_message {κ σ : Type} (resp : Region Byte) (sid : ServiceId) (nrc : NrcCode) (state : σ)
    (calls : List κ) : (negative resp sid nrc state calls).message = [ServiceId.negativeResponse, sid, nrc.toByte] :=
  Region.load_store resp 0 [ServiceId.negativeResponse, sid, nrc.toByte]

theorem negative_isNegative {κ σ : Type} (resp : Region Byte) (sid : ServiceId) (nrc : NrcCode) (state : σ)
    (calls : List κ) : (negative resp sid nrc state calls).IsNegative sid :=
  ⟨nrc, negative_message resp sid nrc state calls⟩

end Uds
