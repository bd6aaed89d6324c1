import PulseEcu.Foundation.BigEndian
import PulseEcu.Services.TableServices

open Foundation

namespace Uds

namespace RoutineId

def kEraseFlashSector : BitVec 16 := 0x0301
def kVerifyFlash : BitVec 16 := 0x0302

end RoutineId

namespace Flash

inductive FlashStatus where
  | ok
  | busy
  | error
  | addressError
  | protectionError
  deriving DecidableEq, Repr

def FlashStatus.toByte : FlashStatus → Byte
  | ok => 0
  | busy => 1
  | error => 2
  | addressError => 3
  | protectionError => 4

/-- What the methods of a flash object return. `ρ` names the objects, `δ` is the hardware behind them. -/
structure IFlash (ρ δ : Type) where
  eraseSector : ρ → Word → δ → FlashStatus × δ
  verify : ρ → Word → List Byte → δ → FlashStatus × δ
  isBusy : ρ → δ → Bool × δ

inductive FlashCall (ρ : Type) where
  | isBusy (flash : ρ)
  | eraseSector (flash : ρ) (address : Word) (status : FlashStatus)
  | verify (flash : ρ) (address : Word) (data : List Byte) (status : FlashStatus)
  deriving DecidableEq

def FlashCall.flash {ρ : Type} : FlashCall ρ → ρ
  | isBusy flash => flash
  | eraseSector flash _ _ => flash
  | verify flash _ _ _ => flash

structure EraseRoutineCtx (ρ : Type) where
  flash : ρ
  lastErasedAddr : Word
  done : Bool

structure VerifyRoutineCtx (ρ : Type) where
  flash : ρ
  address : Word
  length : Nat
  ok : Bool

/-- The function-local statics of the two factories, which their first calls initialise, the
    hardware, and the calls that the flash objects have received. -/
structure FlashMemory (ρ δ : Type) where
  eraseCtx : Option (EraseRoutineCtx ρ)
  verifyCtx : Option (VerifyRoutineCtx ρ)
  device : δ
  calls : List (FlashCall ρ)

/-- The shifts of bytes are shifts of `int`; the first one is cast to the unsigned type. -/
def addressAt (opt : Region Byte) : Word :=
  ((opt 0).setWidth 32 <<< 24) ||| ((opt 1).setWidth 32 <<< 16) ||| ((opt 2).setWidth 32 <<< 8) ||| (opt 3).setWidth 32

def lengthAt (target : Target) (opt : Region Byte) : target.SizeT :=
  ((opt 4).setWidth 32 <<< 24).signExtend target.sizeBits ||| ((opt 5).setWidth target.sizeBits <<< 16) |||
    ((opt 6).setWidth target.sizeBits <<< 8) ||| (opt 7).setWidth target.sizeBits

namespace FlashMemory

variable {ρ δ : Type}

def isBusy (flash : IFlash ρ δ) (dev : ρ) (m : FlashMemory ρ δ) : Bool × FlashMemory ρ δ :=
  let result := flash.isBusy dev m.device
  (result.1, { m with device := result.2, calls := m.calls ++ [.isBusy dev] })

def eraseSector (flash : IFlash ρ δ) (dev : ρ) (address : Word) (m : FlashMemory ρ δ) : FlashStatus × FlashMemory ρ δ :=
  let result := flash.eraseSector dev address m.device
  (result.1, { m with device := result.2, calls := m.calls ++ [.eraseSector dev address result.1] })

def verify (flash : IFlash ρ δ) (dev : ρ) (address : Word) (data : List Byte) (m : FlashMemory ρ δ) :
    FlashStatus × FlashMemory ρ δ :=
  let result := flash.verify dev address data m.device
  (result.1, { m with device := result.2, calls := m.calls ++ [.verify dev address data result.1] })

def received (before after : FlashMemory ρ δ) : List (FlashCall ρ) := after.calls.drop before.calls.length

theorem received_append {before after : FlashMemory ρ δ} {more : List (FlashCall ρ)}
    (calls : after.calls = before.calls ++ more) : before.received after = more := by
  rw [received, calls, List.drop_left]

end FlashMemory

variable {ρ δ : Type} (target : Target) (flash : IFlash ρ δ)

/-- The context pointer is that of the static; a record of four bytes and more has a pointer. -/
def eraseStart (opt : Option (Region Byte)) (optLen : Nat) (resp : Region Byte) (respLen : Nat) (m : FlashMemory ρ δ) :
    Filled × FlashMemory ρ δ :=
  match m.eraseCtx with
  | none => (⟨false, resp, respLen⟩, m)
  | some c =>
    let busy := m.isBusy flash c.flash
    if busy.1 then (⟨false, resp, respLen⟩, busy.2)
    else
      let addr := if optLen ≥ 4 then addressAt (opt.getD (Region.fill 0)) else 0
      let erased := busy.2.eraseSector flash c.flash addr
      if erased.1 ≠ .ok then (⟨false, resp, respLen⟩, erased.2)
      else
        (⟨true, resp.store 0 [erased.1.toByte], 1⟩,
          { erased.2 with eraseCtx := some { c with lastErasedAddr := addr, done := true } })

def eraseResults (resp : Region Byte) (respLen : Nat) (m : FlashMemory ρ δ) : Filled × FlashMemory ρ δ :=
  match m.eraseCtx with
  | none => (⟨false, resp, respLen⟩, m)
  | some c => (⟨true, resp.store 0 [if c.done then 0x10 else 0x00], 1⟩, m)

def eraseEntry : RoutineEntry (FlashMemory ρ δ) :=
  ⟨RoutineId.kEraseFlashSector, some (eraseStart flash), none, some eraseResults, .programming⟩

def makeEraseRoutine (dev : ρ) (m : FlashMemory ρ δ) : RoutineEntry (FlashMemory ρ δ) × FlashMemory ρ δ :=
  (eraseEntry flash, { m with eraseCtx := some (m.eraseCtx.getD ⟨dev, 0, false⟩) })

def verifyStart (opt : Option (Region Byte)) (optLen : Nat) (resp : Region Byte) (respLen : Nat) (m : FlashMemory ρ δ) :
    Filled × FlashMemory ρ δ :=
  match m.verifyCtx with
  | none => (⟨false, resp, respLen⟩, m)
  | some c =>
    if optLen < 8 then (⟨false, resp, respLen⟩, m)
    else
      let opt := opt.getD (Region.fill 0)
      let address := addressAt opt
      let expLen := optLen - 8
      let verified : Bool × FlashMemory ρ δ :=
        if expLen = 0 then (true, m)
        else
          let result := m.verify flash c.flash address (opt.load 8 expLen)
          (decide (result.1 = .ok), result.2)
      (⟨true, resp.store 0 [if verified.1 then 0x01 else 0x00], 1⟩,
        { verified.2 with verifyCtx := some ⟨c.flash, address, (lengthAt target opt).toNat, verified.1⟩ })

def verifyEntry : RoutineEntry (FlashMemory ρ δ) :=
  ⟨RoutineId.kVerifyFlash, some (verifyStart target flash), none, none, .programming⟩

def makeVerifyRoutine (dev : ρ) (m : FlashMemory ρ δ) : RoutineEntry (FlashMemory ρ δ) × FlashMemory ρ δ :=
  (verifyEntry target flash, { m with verifyCtx := some (m.verifyCtx.getD ⟨dev, 0, 0, false⟩) })

theorem addressAt_toNat (opt : Region Byte) : (addressAt opt).toNat = bigEndian (opt.load 0 4) := by
  have shifted : addressAt opt = shiftIn 32 (opt.load 0 4) := by
    show _ = ((((((0#32 <<< 8) ||| (opt 0).setWidth 32) <<< 8) ||| (opt 1).setWidth 32) <<< 8 ||| (opt 2).setWidth 32) <<< 8) |||
      (opt 3).setWidth 32
    simp only [addressAt, BitVec.zero_shiftLeft, BitVec.zero_or, BitVec.shiftLeft_or_distrib, ← BitVec.shiftLeft_add]
  have small : bigEndian (opt.load 0 4) < 2 ^ 32 := by
    show 256 * (256 * (256 * (256 * 0 + (opt 0).toNat) + (opt 1).toNat) + (opt 2).toNat) + (opt 3).toNat < 2 ^ 32
    omega
  rw [shifted, shiftIn_toNat (by decide), Nat.mod_eq_of_lt small]

inductive EraseEffect (c : EraseRoutineCtx ρ) (addr : Word) (before : FlashMemory ρ δ) (result : Filled × FlashMemory ρ δ) :
    Prop
  | busy (is : (flash.isBusy c.flash before.device).1 = true) (refused : result.1.ok = false)
      (ctx : result.2.eraseCtx = before.eraseCtx) (other : result.2.verifyCtx = before.verifyCtx)
      (calls : result.2.calls = before.calls ++ [.isBusy c.flash])
  | failed (idle : (flash.isBusy c.flash before.device).1 = false) (status : FlashStatus) (refused : result.1.ok = false)
      (ctx : result.2.eraseCtx = before.eraseCtx) (other : result.2.verifyCtx = before.verifyCtx)
      (calls : result.2.calls = before.calls ++ [.isBusy c.flash, .eraseSector c.flash addr status])
  | erased (idle : (flash.isBusy c.flash before.device).1 = false) (ok : result.1.ok = true)
      (ctx : result.2.eraseCtx = some { c with lastErasedAddr := addr, done := true })
      (other : result.2.verifyCtx = before.verifyCtx)
      (calls : result.2.calls = before.calls ++ [.isBusy c.flash, .eraseSector c.flash addr .ok])

theorem eraseStart_effect {m : FlashMemory ρ δ} {c : EraseRoutineCtx ρ} (bound : m.eraseCtx = some c)
    (opt : Option (Region Byte)) (optLen : Nat) (resp : Region Byte) (respLen : Nat) :
    EraseEffect flash c (if optLen ≥ 4 then addressAt (opt.getD (Region.fill 0)) else 0) m
      (eraseStart flash opt optLen resp respLen m) := by
  unfold eraseStart
  rw [bound]
  dsimp only
  generalize (if optLen ≥ 4 then addressAt (opt.getD (Region.fill 0)) else 0) = addr
  by_cases busy : (flash.isBusy c.flash m.device).1 = true
  · rw [if_pos (show (m.isBusy flash c.flash).1 = true from busy)]
    exact .busy busy rfl rfl rfl rfl
  · have idle := Bool.eq_false_iff.mpr busy
    rw [if_neg (show ¬ (m.isBusy flash c.flash).1 = true from busy)]
    split
    · exact .failed idle _ rfl rfl rfl (List.append_assoc ..)
    · rename_i good
      have ok := Decidable.not_not.mp good
      have calls : m.calls ++ [.isBusy c.flash] ++
          [.eraseSector c.flash addr ((m.isBusy flash c.flash).2.eraseSector flash c.flash addr).1] =
          m.calls ++ [.isBusy c.flash, .eraseSector c.flash addr .ok] := by
        rw [ok, List.append_assoc]
        rfl
      exact .erased idle rfl rfl rfl calls

theorem eraseResults_bound {m : FlashMemory ρ δ} {c : EraseRoutineCtx ρ} (bound : m.eraseCtx = some c)
    (resp : Region Byte) (respLen : Nat) :
    eraseResults resp respLen m = (⟨true, resp.store 0 [if c.done then 0x10 else 0x00], 1⟩, m) := by
  rw [eraseResults, bound]

theorem results_cell (resp : Region Byte) (done : Bool) :
    resp.store 0 [if done then 0x10 else 0x00] 0 = 0x10 ↔ done = true := by
  cases done with
  | true => exact iff_of_true rfl rfl
  | false => exact iff_of_false (by simp [Region.store]) Bool.false_ne_true

inductive VerifyEffect (c : VerifyRoutineCtx ρ) (opt : Region Byte) (optLen : Nat) (before : FlashMemory ρ δ)
    (result : Filled × FlashMemory ρ δ) : Prop
  | short (bytes : optLen < 8) (refused : result.1.ok = false) (memory : result.2 = before)
  | trusted (bytes : optLen = 8) (ok : result.1.ok = true) (len : result.1.len = 1) (cell : result.1.cells 0 = 0x01)
      (ctx : result.2.verifyCtx.map VerifyRoutineCtx.flash = some c.flash) (other : result.2.eraseCtx = before.eraseCtx)
      (calls : result.2.calls = before.calls)
  | compared (bytes : 8 < optLen) (status : FlashStatus)
      (returned : status = (flash.verify c.flash (addressAt opt) (opt.load 8 (optLen - 8)) before.device).1)
      (ok : result.1.ok = true) (len : result.1.len = 1) (cell : result.1.cells 0 = if status = .ok then 0x01 else 0x00)
      (ctx : result.2.verifyCtx.map VerifyRoutineCtx.flash = some c.flash) (other : result.2.eraseCtx = before.eraseCtx)
      (calls : result.2.calls = before.calls ++ [.verify c.flash (addressAt opt) (opt.load 8 (optLen - 8)) status])

theorem verifyStart_effect {m : FlashMemory ρ δ} {c : VerifyRoutineCtx ρ} (bound : m.verifyCtx = some c)
    (opt : Option (Region Byte)) (optLen : Nat) (resp : Region Byte) (respLen : Nat) :
    VerifyEffect flash c (opt.getD (Region.fill 0)) optLen m (verifyStart target flash opt optLen resp respLen m) := by
  unfold verifyStart
  rw [bound]
  dsimp only
  by_cases short : optLen < 8
  · rw [if_pos short]
    exact .short short rfl rfl
  · rw [if_neg short]
    by_cases bare : optLen - 8 = 0
    · rw [if_pos bare]
      exact .trusted (by omega) rfl rfl rfl rfl rfl rfl
    · rw [if_neg bare]
      exact .compared (by omega) _ rfl rfl rfl (by simp only [Region.store, decide_eq_true_eq]; rfl) rfl rfl rfl

end Flash

end Uds
