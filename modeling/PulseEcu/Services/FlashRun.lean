import PulseEcu.Foundation.Run
import PulseEcu.Services.FlashRoutine

open Foundation

namespace Uds.Flash

structure Made (ρ δ : Type) where
  entry : RoutineEntry (FlashMemory ρ δ)
  flash : ρ

/-- The memory behind the routines, the entries in the order of the factory calls, and the
    entries of which a start has succeeded. -/
structure FlashProgram (ρ δ : Type) where
  memory : FlashMemory ρ δ
  made : List (Made ρ δ)
  succeeded : List Nat

inductive FlashEvent (ρ : Type) where
  | makeErase (flash : ρ)
  | makeVerify (flash : ρ)
  | start (k : Nat) (opt : Option (Region Byte)) (optLen : Nat) (resp : Region Byte) (respLen : Nat)
  | results (k : Nat) (resp : Region Byte) (respLen : Nat)

namespace FlashProgram

variable {ρ δ : Type} (target : Target) (flash : IFlash ρ δ)

def boot (device : δ) : FlashProgram ρ δ := ⟨⟨none, none, device, []⟩, [], []⟩

def start (p : FlashProgram ρ δ) (k : Nat) (opt : Option (Region Byte)) (optLen : Nat) (resp : Region Byte)
    (respLen : Nat) : FlashProgram ρ δ × Option Filled :=
  match p.made[k]?.bind fun made => made.entry.start with
  | none => (p, none)
  | some function =>
    let result := function opt optLen resp respLen p.memory
    (⟨result.2, p.made, if result.1.ok then p.succeeded ++ [k] else p.succeeded⟩, some result.1)

def results (p : FlashProgram ρ δ) (k : Nat) (resp : Region Byte) (respLen : Nat) : FlashProgram ρ δ × Option Filled :=
  match p.made[k]?.bind fun made => made.entry.results with
  | none => (p, none)
  | some function =>
    let result := function resp respLen p.memory
    ({ p with memory := result.2 }, some result.1)

def machine : Machine (FlashProgram ρ δ) (FlashEvent ρ) (Option Filled) where
  step p
    | .makeErase dev =>
      let result := makeEraseRoutine flash dev p.memory
      ({ p with memory := result.2, made := p.made ++ [⟨result.1, dev⟩] }, none)
    | .makeVerify dev =>
      let result := makeVerifyRoutine target flash dev p.memory
      ({ p with memory := result.2, made := p.made ++ [⟨result.1, dev⟩] }, none)
    | .start k opt optLen resp respLen => p.start k opt optLen resp respLen
    | .results k resp respLen => p.results k resp respLen

abbrev Entry (ρ δ : Type) := Machine.Entry (FlashProgram ρ δ) (FlashEvent ρ) (Option Filled)

def firstFlash (p : FlashProgram ρ δ) (id : BitVec 16) : Option ρ :=
  (p.made.find? fun made => made.entry.id = id).map Made.flash

def Erases (p : FlashProgram ρ δ) (k : Nat) : Prop :=
  ∃ made, p.made[k]? = some made ∧ made.entry.id = RoutineId.kEraseFlashSector

structure Shared (p : FlashProgram ρ δ) : Prop where
  entries : ∀ made ∈ p.made, made.entry = eraseEntry flash ∨ made.entry = verifyEntry target flash
  eraseFlash : p.memory.eraseCtx.map EraseRoutineCtx.flash = p.firstFlash RoutineId.kEraseFlashSector
  verifyFlash : p.memory.verifyCtx.map VerifyRoutineCtx.flash = p.firstFlash RoutineId.kVerifyFlash
  known : ∀ k ∈ p.succeeded, k < p.made.length
  done : ∀ c, p.memory.eraseCtx = some c → (c.done = true ↔ ∃ k ∈ p.succeeded, p.Erases k)
  erased : ∀ c, p.memory.eraseCtx = some c → c.done = true →
    ∃ dev address, FlashCall.eraseSector dev address .ok ∈ p.memory.calls

variable {target : Target} {flash : IFlash ρ δ} {p : FlashProgram ρ δ}

theorem boot_shared (device : δ) : Shared target flash (boot device : FlashProgram ρ δ) := by
  apply Shared.mk
  · exact List.forall_mem_nil _
  · rfl
  · rfl
  · exact List.forall_mem_nil _
  · intro c bound
    cases bound
  · intro c bound
    cases bound

theorem firstFlash_append (p : FlashProgram ρ δ) (memory : FlashMemory ρ δ) (new : Made ρ δ) (id : BitVec 16) :
    firstFlash { p with memory := memory, made := p.made ++ [new] } id =
      (p.firstFlash id).or (if new.entry.id = id then some new.flash else none) := by
  unfold firstFlash
  rw [List.find?_append]
  cases p.made.find? fun made => made.entry.id = id with
  | some made => rfl
  | none =>
    by_cases same : new.entry.id = id
    · simp [same]
    · simp [same]

theorem erases_append (p : FlashProgram ρ δ) (memory : FlashMemory ρ δ) (new : Made ρ δ) {k : Nat}
    (known : k < p.made.length) : Erases { p with memory := memory, made := p.made ++ [new] } k ↔ p.Erases k := by
  unfold Erases
  dsimp only
  rw [List.getElem?_append_left known]

theorem Shared.succeeded_append (shared : Shared target flash p) (memory : FlashMemory ρ δ) (new : Made ρ δ) :
    (∃ k ∈ p.succeeded, Erases { p with memory := memory, made := p.made ++ [new] } k) ↔ ∃ k ∈ p.succeeded, p.Erases k := by
  constructor
  · intro some
    obtain ⟨k, member, erases⟩ := some
    exact ⟨k, member, (erases_append p memory new (shared.known k member)).mp erases⟩
  · intro some
    obtain ⟨k, member, erases⟩ := some
    exact ⟨k, member, (erases_append p memory new (shared.known k member)).mpr erases⟩

theorem Shared.unmade (shared : Shared target flash p) (none : p.memory.eraseCtx = none) (k : Nat) : ¬ p.Erases k := by
  intro erases
  obtain ⟨made, stored, id⟩ := erases
  have first := shared.eraseFlash
  rw [none, Option.map_none, firstFlash, eq_comm, Option.map_eq_none_iff, List.find?_eq_none] at first
  exact first made (List.mem_of_getElem? stored) (decide_eq_true id)

/-- A factory call: the entry is appended, and only a context that was not there yet is new. -/
theorem Shared.make (shared : Shared target flash p) {memory : FlashMemory ρ δ} {new : Made ρ δ}
    (entry : new.entry = eraseEntry flash ∨ new.entry = verifyEntry target flash)
    (eraseFlash : memory.eraseCtx.map EraseRoutineCtx.flash = (p.firstFlash RoutineId.kEraseFlashSector).or
      (if new.entry.id = RoutineId.kEraseFlashSector then some new.flash else none))
    (verifyFlash : memory.verifyCtx.map VerifyRoutineCtx.flash = (p.firstFlash RoutineId.kVerifyFlash).or
      (if new.entry.id = RoutineId.kVerifyFlash then some new.flash else none))
    (ctx : ∀ c, memory.eraseCtx = some c → p.memory.eraseCtx = some c ∨ p.memory.eraseCtx = none ∧ c.done = false)
    (calls : memory.calls = p.memory.calls) :
    Shared target flash { p with memory := memory, made := p.made ++ [new] } := by
  apply Shared.mk
  · exact Machine.forall_mem_snoc shared.entries entry
  · exact eraseFlash.trans (firstFlash_append p memory new _).symm
  · exact verifyFlash.trans (firstFlash_append p memory new _).symm
  · intro k member
    have known := shared.known k member
    rw [List.length_append]
    omega
  · intro c bound
    rw [shared.succeeded_append memory new]
    rcases ctx c bound with old | ⟨none, idle⟩
    · exact shared.done c old
    · rw [idle]
      apply iff_of_false Bool.false_ne_true
      intro succeeded
      obtain ⟨k, _, erases⟩ := succeeded
      exact shared.unmade none k erases
  · intro c bound done
    rcases ctx c bound with old | ⟨_, idle⟩
    · rw [calls]
      exact shared.erased c old done
    · rw [idle] at done
      cases done

theorem Shared.makeErase (shared : Shared target flash p) (dev : ρ) :
    Shared target flash ((machine target flash).next p (.makeErase dev)) := by
  apply shared.make (Or.inl rfl)
  · show _ = Option.or _ (if RoutineId.kEraseFlashSector = RoutineId.kEraseFlashSector then some dev else none)
    rw [if_pos rfl, ← shared.eraseFlash]
    cases bound : p.memory.eraseCtx with
    | none => simp [makeEraseRoutine, bound]
    | some c => simp [makeEraseRoutine, bound]
  · show _ = Option.or _ (if RoutineId.kEraseFlashSector = RoutineId.kVerifyFlash then some dev else none)
    rw [if_neg (by decide), Option.or_none]
    exact shared.verifyFlash
  · intro c bound
    cases old : p.memory.eraseCtx with
    | none =>
      simp only [makeEraseRoutine, old, Option.getD_none, Option.some.injEq] at bound
      exact Or.inr ⟨rfl, by rw [← bound]⟩
    | some c' =>
      simp only [makeEraseRoutine, old, Option.getD_some, Option.some.injEq] at bound
      exact Or.inl (congrArg some bound)
  · rfl

theorem Shared.makeVerify (shared : Shared target flash p) (dev : ρ) :
    Shared target flash ((machine target flash).next p (.makeVerify dev)) := by
  apply shared.make (Or.inr rfl)
  · show _ = Option.or _ (if RoutineId.kVerifyFlash = RoutineId.kEraseFlashSector then some dev else none)
    rw [if_neg (by decide), Option.or_none]
    exact shared.eraseFlash
  · show _ = Option.or _ (if RoutineId.kVerifyFlash = RoutineId.kVerifyFlash then some dev else none)
    rw [if_pos rfl, ← shared.verifyFlash]
    cases bound : p.memory.verifyCtx with
    | none => simp [makeVerifyRoutine, bound]
    | some c => simp [makeVerifyRoutine, bound]
  · exact fun c bound => Or.inl bound
  · rfl

theorem Shared.eraseCtx (shared : Shared target flash p) {k : Nat} {made : Made ρ δ} (stored : p.made[k]? = some made)
    (entry : made.entry = eraseEntry flash) :
    ∃ c, p.memory.eraseCtx = some c ∧ p.firstFlash RoutineId.kEraseFlashSector = some c.flash := by
  have first := shared.eraseFlash
  cases bound : p.memory.eraseCtx with
  | some c =>
    rw [bound] at first
    exact ⟨c, rfl, first.symm⟩
  | none => exact absurd ⟨made, stored, by rw [entry]; rfl⟩ (shared.unmade bound k)

theorem Shared.verifyCtx (shared : Shared target flash p) {k : Nat} {made : Made ρ δ} (stored : p.made[k]? = some made)
    (entry : made.entry = verifyEntry target flash) :
    ∃ c, p.memory.verifyCtx = some c ∧ p.firstFlash RoutineId.kVerifyFlash = some c.flash := by
  have first := shared.verifyFlash
  cases bound : p.memory.verifyCtx with
  | some c =>
    rw [bound] at first
    exact ⟨c, rfl, first.symm⟩
  | none =>
    rw [bound, Option.map_none, firstFlash, eq_comm, Option.map_eq_none_iff, List.find?_eq_none] at first
    exact absurd (decide_eq_true (by rw [entry]; rfl)) (first made (List.mem_of_getElem? stored))

def returned (p : FlashProgram ρ δ) (k : Nat) (result : Filled × FlashMemory ρ δ) : FlashProgram ρ δ :=
  ⟨result.2, p.made, if result.1.ok then p.succeeded ++ [k] else p.succeeded⟩

theorem start_made {k : Nat} {made : Made ρ δ} (stored : p.made[k]? = some made)
    {function : Option (Region Byte) → Nat → Region Byte → Nat → FlashMemory ρ δ → Filled × FlashMemory ρ δ}
    (entry : made.entry.start = some function) (opt : Option (Region Byte)) (optLen : Nat) (resp : Region Byte)
    (respLen : Nat) : p.start k opt optLen resp respLen = (p.returned k (function opt optLen resp respLen p.memory),
      some (function opt optLen resp respLen p.memory).1) := by
  rw [start, stored, Option.bind_some, entry]
  rfl

theorem Shared.returned (shared : Shared target flash p) {k : Nat} {result : Filled × FlashMemory ρ δ}
    (inside : k < p.made.length)
    (eraseFlash : result.2.eraseCtx.map EraseRoutineCtx.flash = p.memory.eraseCtx.map EraseRoutineCtx.flash)
    (verifyFlash : result.2.verifyCtx.map VerifyRoutineCtx.flash = p.memory.verifyCtx.map VerifyRoutineCtx.flash)
    (done : ∀ c, result.2.eraseCtx = some c →
      (c.done = true ↔ (∃ j ∈ p.succeeded, p.Erases j) ∨ result.1.ok = true ∧ p.Erases k))
    (erased : ∀ c, result.2.eraseCtx = some c → c.done = true →
      ∃ dev address, FlashCall.eraseSector dev address .ok ∈ result.2.calls) :
    Shared target flash (p.returned k result) := by
  apply Shared.mk
  · exact shared.entries
  · exact eraseFlash.trans shared.eraseFlash
  · exact verifyFlash.trans shared.verifyFlash
  · intro j member
    unfold FlashProgram.returned at member
    split at member
    · rcases List.mem_append.mp member with old | new
      · exact shared.known j old
      · rw [List.mem_singleton.mp new]
        exact inside
    · exact shared.known j member
  · intro c bound
    rw [done c bound]
    show _ ↔ ∃ j ∈ if result.1.ok then p.succeeded ++ [k] else p.succeeded, p.Erases j
    cases result.1.ok with
    | true => simp only [if_true, List.mem_append, List.mem_singleton, or_and_right, exists_or, exists_eq_left, true_and]
    | false => simp
  · exact erased

/-- A routine function that left the contexts of the erase routine as they were. -/
theorem Shared.returned_same (shared : Shared target flash p) {k : Nat} {result : Filled × FlashMemory ρ δ}
    (inside : k < p.made.length) (eraseCtx : result.2.eraseCtx = p.memory.eraseCtx)
    (verifyFlash : result.2.verifyCtx.map VerifyRoutineCtx.flash = p.memory.verifyCtx.map VerifyRoutineCtx.flash)
    (other : ¬ (result.1.ok = true ∧ p.Erases k)) (more : List (FlashCall ρ))
    (calls : result.2.calls = p.memory.calls ++ more) : Shared target flash (p.returned k result) := by
  apply shared.returned inside (congrArg _ eraseCtx) verifyFlash
  · intro c bound
    rw [shared.done c (eraseCtx.symm.trans bound)]
    exact (or_iff_left other).symm
  · intro c bound done
    obtain ⟨dev, address, earlier⟩ := shared.erased c (eraseCtx.symm.trans bound) done
    rw [calls]
    exact ⟨dev, address, List.mem_append_left more earlier⟩

theorem Shared.start_erase (shared : Shared target flash p) {k : Nat} {made : Made ρ δ}
    (stored : p.made[k]? = some made) (entry : made.entry = eraseEntry flash) (opt : Option (Region Byte)) (optLen : Nat)
    (resp : Region Byte) (respLen : Nat) : Shared target flash (p.start k opt optLen resp respLen).1 := by
  have inside := (List.getElem?_eq_some_iff.mp stored).1
  obtain ⟨c, bound, _⟩ := shared.eraseCtx stored entry
  rw [start_made stored (by rw [entry]; rfl)]
  have effect := eraseStart_effect flash bound opt optLen resp respLen
  generalize eraseStart flash opt optLen resp respLen p.memory = result at effect ⊢
  cases effect with
  | busy _ refused ctx other calls =>
    exact shared.returned_same inside ctx (congrArg _ other) (fun both => by cases refused.symm.trans both.1) _ calls
  | failed _ _ refused ctx other calls =>
    exact shared.returned_same inside ctx (congrArg _ other) (fun both => by cases refused.symm.trans both.1) _ calls
  | erased _ ok ctx other calls =>
    apply shared.returned inside (by rw [ctx, bound]; rfl) (congrArg _ other)
    · intro after bound
      rw [ctx] at bound
      rw [← Option.some.inj bound]
      exact iff_of_true rfl (Or.inr ⟨ok, made, stored, by rw [entry]; rfl⟩)
    · intro after _ _
      rw [calls]
      exact ⟨_, _, List.mem_append_right _ (List.mem_cons_of_mem _ List.mem_cons_self)⟩

theorem Shared.start_verify (shared : Shared target flash p) {k : Nat} {made : Made ρ δ}
    (stored : p.made[k]? = some made) (entry : made.entry = verifyEntry target flash) (opt : Option (Region Byte))
    (optLen : Nat) (resp : Region Byte) (respLen : Nat) : Shared target flash (p.start k opt optLen resp respLen).1 := by
  have inside := (List.getElem?_eq_some_iff.mp stored).1
  obtain ⟨c, bound, _⟩ := shared.verifyCtx stored entry
  have kept : p.memory.verifyCtx.map VerifyRoutineCtx.flash = some c.flash := by rw [bound]; rfl
  have verifies : ¬ p.Erases k := by
    intro erases
    obtain ⟨other, same, id⟩ := erases
    obtain rfl := Option.some.inj (stored.symm.trans same)
    rw [entry] at id
    revert id
    exact (by decide : RoutineId.kVerifyFlash ≠ RoutineId.kEraseFlashSector)
  rw [start_made stored (by rw [entry]; rfl)]
  have effect := verifyStart_effect target flash bound opt optLen resp respLen
  generalize verifyStart target flash opt optLen resp respLen p.memory = result at effect ⊢
  have other : ¬ (result.1.ok = true ∧ p.Erases k) := fun both => verifies both.2
  cases effect with
  | short _ _ memory =>
    rw [← memory] at kept
    exact shared.returned_same inside (congrArg _ memory) (by rw [memory]) other [] (by rw [memory, List.append_nil])
  | trusted _ _ _ _ ctx same calls =>
    exact shared.returned_same inside same (ctx.trans kept.symm) other [] (by rw [calls, List.append_nil])
  | compared _ _ _ _ _ _ ctx same calls => exact shared.returned_same inside same (ctx.trans kept.symm) other _ calls

theorem results_memory (p : FlashProgram ρ δ) (shared : Shared target flash p) (k : Nat) (resp : Region Byte) (respLen : Nat) :
    (p.results k resp respLen).1 = p := by
  unfold FlashProgram.results
  cases stored : p.made[k]? with
  | none => rfl
  | some made =>
    rw [Option.bind_some]
    rcases shared.entries made (List.mem_of_getElem? stored) with erase | verify
    · rw [erase]
      show { p with memory := (eraseResults resp respLen p.memory).2 } = p
      unfold eraseResults
      cases p.memory.eraseCtx with
      | none => rfl
      | some c => rfl
    · rw [verify]
      rfl

theorem Shared.next (shared : Shared target flash p) (event : FlashEvent ρ) :
    Shared target flash ((machine target flash).next p event) := by
  cases event with
  | makeErase dev => exact shared.makeErase dev
  | makeVerify dev => exact shared.makeVerify dev
  | start k opt optLen resp respLen =>
    show Shared target flash (p.start k opt optLen resp respLen).1
    cases stored : p.made[k]? with
    | none =>
      rw [FlashProgram.start, stored]
      exact shared
    | some made =>
      rcases shared.entries made (List.mem_of_getElem? stored) with erase | verify
      · exact shared.start_erase stored erase opt optLen resp respLen
      · exact shared.start_verify stored verify opt optLen resp respLen
  | results k resp respLen =>
    show Shared target flash (p.results k resp respLen).1
    rw [results_memory p shared]
    exact shared

/-- A started entry calls the flash object that its own factory call was given, and no other, and an
    entry reports an erased sector when a start of its own has succeeded. -/
def Own (entry : Entry ρ δ) : Prop :=
  match entry.event with
  | .start k _ _ _ _ => ∀ made, entry.before.made[k]? = some made →
      ∀ call ∈ entry.before.memory.received entry.after.memory, call.flash = made.flash
  | .results k _ _ => ∀ record, entry.output = some record → (record.cells 0 = 0x10 ↔ k ∈ entry.before.succeeded)
  | _ => True

/-- A started entry was given the flash object of the first call of its factory, unless it calls none;
    an entry is asked for results when no other start than its own, or one of its own, has erased. -/
def Alone (entry : Entry ρ δ) : Prop :=
  match entry.event with
  | .start k _ optLen _ _ => ∀ made, entry.before.made[k]? = some made →
      entry.before.firstFlash made.entry.id = some made.flash ∨ made.entry.id = RoutineId.kVerifyFlash ∧ optLen ≤ 8
  | .results k _ _ => entry.before.Erases k → (∃ j ∈ entry.before.succeeded, entry.before.Erases j) →
      k ∈ entry.before.succeeded
  | _ => True

theorem flash_iff {calls : List (FlashCall ρ)} {called given : ρ} (some : calls ≠ [])
    (all : ∀ call ∈ calls, call.flash = called) : (∀ call ∈ calls, call.flash = given) ↔ called = given := by
  constructor
  · intro own
    obtain ⟨call, member⟩ := List.exists_mem_of_ne_nil calls some
    exact (all call member).symm.trans (own call member)
  · intro same call member
    exact (all call member).trans same

theorem start_erase_own (shared : Shared target flash p) {k : Nat} {made : Made ρ δ} (stored : p.made[k]? = some made)
    (entry : made.entry = eraseEntry flash) (opt : Option (Region Byte)) (optLen : Nat) (resp : Region Byte)
    (respLen : Nat) :
    (∀ call ∈ p.memory.received (p.start k opt optLen resp respLen).1.memory, call.flash = made.flash) ↔
      p.firstFlash RoutineId.kEraseFlashSector = some made.flash := by
  obtain ⟨c, bound, first⟩ := shared.eraseCtx stored entry
  rw [start_made stored (by rw [entry]; rfl), first, Option.some.injEq]
  show (∀ call ∈ p.memory.received (eraseStart flash opt optLen resp respLen p.memory).2, call.flash = made.flash) ↔ _
  cases eraseStart_effect flash bound opt optLen resp respLen with
  | busy _ _ _ _ calls =>
    rw [FlashMemory.received_append calls]
    exact flash_iff (List.cons_ne_nil _ _) (by simp [FlashCall.flash])
  | failed _ _ _ _ _ calls =>
    rw [FlashMemory.received_append calls]
    exact flash_iff (List.cons_ne_nil _ _) (by simp [FlashCall.flash])
  | erased _ _ _ _ calls =>
    rw [FlashMemory.received_append calls]
    exact flash_iff (List.cons_ne_nil _ _) (by simp [FlashCall.flash])

theorem start_verify_own (shared : Shared target flash p) {k : Nat} {made : Made ρ δ} (stored : p.made[k]? = some made)
    (entry : made.entry = verifyEntry target flash) (opt : Option (Region Byte)) (optLen : Nat) (resp : Region Byte)
    (respLen : Nat) :
    (∀ call ∈ p.memory.received (p.start k opt optLen resp respLen).1.memory, call.flash = made.flash) ↔
      p.firstFlash RoutineId.kVerifyFlash = some made.flash ∨ optLen ≤ 8 := by
  obtain ⟨c, bound, first⟩ := shared.verifyCtx stored entry
  rw [start_made stored (by rw [entry]; rfl), first, Option.some.injEq]
  show (∀ call ∈ p.memory.received (verifyStart target flash opt optLen resp respLen p.memory).2, call.flash = made.flash) ↔ _
  cases verifyStart_effect target flash bound opt optLen resp respLen with
  | short bytes _ memory =>
    rw [memory, FlashMemory.received_append (List.append_nil _).symm]
    exact iff_of_true (List.forall_mem_nil _) (Or.inr (by omega))
  | trusted bytes _ _ _ _ _ calls =>
    rw [FlashMemory.received_append (calls.trans (List.append_nil _).symm)]
    exact iff_of_true (List.forall_mem_nil _) (Or.inr (by omega))
  | compared bytes _ _ _ _ _ _ _ calls =>
    rw [FlashMemory.received_append calls, or_iff_left (by omega)]
    exact flash_iff (List.cons_ne_nil _ _) (by simp [FlashCall.flash])

theorem results_made {k : Nat} {made : Made ρ δ} (stored : p.made[k]? = some made)
    (results : made.entry.results = (some eraseResults : Option (Region Byte → Nat → FlashMemory ρ δ → _)))
    (resp : Region Byte) (respLen : Nat) : p.results k resp respLen =
      ({ p with memory := (eraseResults resp respLen p.memory).2 }, some (eraseResults resp respLen p.memory).1) := by
  rw [FlashProgram.results, stored, Option.bind_some, results]

theorem results_own (shared : Shared target flash p) (k : Nat) (resp : Region Byte) (respLen : Nat) :
    (∀ record, (p.results k resp respLen).2 = some record → (record.cells 0 = 0x10 ↔ k ∈ p.succeeded)) ↔
      (p.Erases k → (∃ j ∈ p.succeeded, p.Erases j) → k ∈ p.succeeded) := by
  have silent : p.made[k]?.bind (fun made => made.entry.results) = none → (p.results k resp respLen).2 = none := by
    intro none
    rw [FlashProgram.results, none]
  cases stored : p.made[k]? with
  | none =>
    rw [silent (by rw [stored]; rfl)]
    apply iff_of_true (fun record none => by cases none)
    intro erases
    obtain ⟨made, same, _⟩ := erases
    cases stored.symm.trans same
  | some made =>
    rcases shared.entries made (List.mem_of_getElem? stored) with erase | verify
    · obtain ⟨c, bound, _⟩ := shared.eraseCtx stored erase
      have erases : p.Erases k := ⟨made, stored, by rw [erase]; rfl⟩
      rw [results_made stored (by rw [erase]; rfl), eraseResults_bound bound]
      simp only [Option.some.injEq, forall_eq', results_cell, shared.done c bound, erases, forall_const]
      constructor
      · exact fun own => own.mp
      · exact fun alone => ⟨alone, fun own => ⟨k, own, erases⟩⟩
    · rw [silent (by rw [stored, Option.bind_some, verify]; rfl)]
      apply iff_of_true (fun record none => by cases none)
      intro erases
      obtain ⟨other, same, id⟩ := erases
      obtain rfl := Option.some.inj (stored.symm.trans same)
      rw [verify] at id
      cases id

theorem Shared.own_iff (shared : Shared target flash p) (event : FlashEvent ρ) :
    Own ((machine target flash).entry p event) ↔ Alone ((machine target flash).entry p event) := by
  cases event with
  | makeErase dev => exact Iff.rfl
  | makeVerify dev => exact Iff.rfl
  | start k opt optLen resp respLen =>
    apply forall_congr'
    intro made
    apply forall_congr'
    intro stored
    show (∀ call ∈ p.memory.received (p.start k opt optLen resp respLen).1.memory, call.flash = made.flash) ↔
      p.firstFlash made.entry.id = some made.flash ∨ made.entry.id = RoutineId.kVerifyFlash ∧ optLen ≤ 8
    rcases shared.entries made (List.mem_of_getElem? stored) with erase | verify
    · rw [start_erase_own shared stored erase, erase]
      exact (or_iff_left fun both => by cases both.1).symm
    · rw [start_verify_own shared stored verify, verify]
      exact or_congr_right (and_iff_right rfl).symm
  | results k resp respLen => exact results_own shared k resp respLen

/-- In a run of factory calls, starts and result requests every step is bound to the entry's own flash
    object and own starts exactly when no entry is used next to another one that shares its context. -/
theorem routines_bound_iff (target : Target) (flash : IFlash ρ δ) (device : δ) (events : List (FlashEvent ρ)) :
    (∀ entry ∈ (machine target flash).trace (boot device) events, Own entry) ↔
      ∀ entry ∈ (machine target flash).trace (boot device) events, Alone entry := by
  have same : ∀ entry ∈ (machine target flash).trace (boot device) events, Own entry ↔ Alone entry :=
    @Machine.trace_shows _ _ _ (machine target flash) (Shared target flash) (fun entry => Own entry ↔ Alone entry)
      (fun _ event shared => shared.next event) (fun _ event shared => shared.own_iff event) (boot device) events
      (boot_shared device)
  exact forall₂_congr same

def willing : IFlash ρ Unit := ⟨fun _ _ _ => (.ok, ()), fun _ _ _ _ => (.ok, ()), fun _ _ => (false, ())⟩

/-- The second entry calls the flash object of the first one. -/
theorem second_entry_unbound : ¬ ∀ entry ∈ (machine .host willing).trace (boot ())
    [.makeErase "internal", .makeErase "external", .start 1 (some (Region.fill 0)) 4 (Region.fill 0) 0], Own entry := by
  intro own
  have last := own _ (List.mem_cons_of_mem _ (List.mem_cons_of_mem _ List.mem_cons_self)) _ rfl
    (.isBusy "internal") List.mem_cons_self
  exact absurd last (by decide)

end FlashProgram

end Uds.Flash
