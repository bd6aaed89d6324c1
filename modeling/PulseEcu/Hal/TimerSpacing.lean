import PulseEcu.Hal.Timer

open Foundation

namespace Uds.Hal.PeriodicTimer

def Polled (gap : Nat) : Word → List Word → Prop
  | _, [] => True
  | last, now :: polls => last ≤ now ∧ now.toNat ≤ last.toNat + gap ∧ Polled gap now polls

def firings (t : PeriodicTimer) (polls : List Word) : Nat :=
  ((periodicTimer.trace t (polls.map .tick)).map Machine.Entry.output).count true

structure Spaced (gap : Nat) (start : Word) (fired : Nat) (last : Word) (t : PeriodicTimer) : Prop where
  running : t.started = true
  due : last < t.next
  near : t.next.toNat ≤ last.toNat + t.period.toNat
  least : start.toNat + (fired + 1) * t.period.toNat ≤ t.next.toNat
  most : t.next.toNat ≤ start.toNat + (fired + 1) * t.period.toNat + fired * gap

variable {gap fired : Nat} {start last now : Word} {t : PeriodicTimer}

theorem Spaced.initial (gap : Nat) (positive : 0 < t.period) (fits : now.toNat + t.period.toNat < 2 ^ 32) :
    Spaced gap now 0 now (t.start now) := by
  have positive := BitVec.lt_def.mp positive
  have sum : (now + t.period).toNat = now.toNat + t.period.toNat := by rw [BitVec.toNat_add, Nat.mod_eq_of_lt fits]
  have next : (t.start now).next = now + t.period := rfl
  have period : (t.start now).period = t.period := rfl
  constructor
  · rfl
  · rw [next, BitVec.lt_def, sum]
    exact Nat.lt_add_of_pos_right positive
  · show (now + t.period).toNat ≤ now.toNat + t.period.toNat
    omega
  · rw [next, period, sum]
    omega
  · rw [next, period, sum]
    omega

/-- One poll: the timer fires if it is due, and is ahead again. -/
theorem Spaced.tick (spaced : Spaced gap start fired last t) (later : last ≤ now)
    (soon : now.toNat ≤ last.toNat + gap) (positive : 0 < t.period) (fits : now.toNat + t.period.toNat < 2 ^ 32) :
    (t.tick now).2.period = t.period ∧
      Spaced gap start (fired + if (t.tick now).1 then 1 else 0) now (t.tick now).2 := by
  obtain ⟨running, due, near, least, most⟩ := spaced
  have positive := BitVec.lt_def.mp positive
  have later := BitVec.le_def.mp later
  have due := BitVec.lt_def.mp due
  have active : ¬ t.started = false := by simp [running]
  by_cases fires : now ≥ t.next
  · have sum : (now + t.period).toNat = now.toNat + t.period.toNat := by rw [BitVec.toNat_add, Nat.mod_eq_of_lt fits]
    have passed := BitVec.le_def.mp fires
    have ticked : t.tick now = (true, { t with next := now + t.period }) := by
      rw [PeriodicTimer.tick, if_neg active, if_pos fires]
    have once : (fired + 1 + 1) * t.period.toNat = (fired + 1) * t.period.toNat + t.period.toNat := Nat.succ_mul ..
    have slack : (fired + 1) * gap = fired * gap + gap := Nat.succ_mul ..
    rw [ticked]
    refine ⟨rfl, running, ?_, ?_, ?_, ?_⟩
    · rw [BitVec.lt_def]
      show now.toNat < (now + t.period).toNat
      omega
    · show (now + t.period).toNat ≤ now.toNat + t.period.toNat
      omega
    · show start.toNat + (fired + 1 + 1) * t.period.toNat ≤ (now + t.period).toNat
      omega
    · show (now + t.period).toNat ≤ start.toNat + (fired + 1 + 1) * t.period.toNat + (fired + 1) * gap
      omega
  · have ahead : now < t.next := BitVec.not_le.mp fires
    have ticked : t.tick now = (false, t) := by rw [PeriodicTimer.tick, if_neg active, if_neg fires]
    rw [ticked]
    exact ⟨rfl, running, ahead, Nat.le_trans near (Nat.add_le_add_right later _), least, most⟩

theorem firings_cons (t : PeriodicTimer) (now : Word) (polls : List Word) :
    t.firings (now :: polls) = (if (t.tick now).1 then 1 else 0) + (t.tick now).2.firings polls := by
  have counted : t.firings (now :: polls) = (t.tick now).2.firings polls + if (t.tick now).1 == true then 1 else 0 :=
    List.count_cons
  rw [counted, beq_true, Nat.add_comm]

theorem Spaced.polls (spaced : Spaced gap start fired last t) (positive : 0 < t.period) (polls : List Word)
    (polled : Polled gap last polls) (fits : ∀ now ∈ polls, now.toNat + t.period.toNat < 2 ^ 32) :
    ∃ after : PeriodicTimer, after.period = t.period ∧
      Spaced gap start (fired + t.firings polls) (polls.getLastD last) after := by
  induction polls generalizing t fired last with
  | nil => exact ⟨t, rfl, spaced⟩
  | cons now polls ih =>
    obtain ⟨later, soon, rest⟩ := polled
    obtain ⟨first, others⟩ := List.forall_mem_cons.mp fits
    obtain ⟨period, next⟩ := spaced.tick later soon positive first
    rw [← period] at positive others
    obtain ⟨after, same, final⟩ := ih next positive rest others
    rw [firings_cons, ← Nat.add_assoc, List.getLastD_cons]
    exact ⟨after, same.trans period, final⟩

/-- The timer keeps its pace along any run of polls: it does not fire more often than once in a period, and
    what it falls behind is, each time it fires, at most what the poll came late. -/
theorem firings_paced (period start : Word) (gap : Nat) (polls : List Word) (positive : 0 < period)
    (polled : Polled gap start polls) (fits : ∀ now ∈ start :: polls, now.toNat + period.toNat < 2 ^ 32) :
    let fired := ((create period).start start).firings polls
    let elapsed := (polls.getLastD start).toNat - start.toNat
    fired * period.toNat ≤ elapsed ∧ elapsed < (fired + 1) * period.toNat + fired * gap := by
  obtain ⟨first, others⟩ := List.forall_mem_cons.mp fits
  have initial : Spaced gap start 0 start ((create period).start start) := Spaced.initial gap positive first
  obtain ⟨after, same, _, due, near, least, most⟩ := initial.polls positive polls polled others
  have kept : after.period = period := same
  have due := BitVec.lt_def.mp due
  rw [kept] at near least most
  rw [Nat.zero_add] at least most
  have split := Nat.add_one_mul (firings ((create period).start start) polls) period.toNat
  constructor
  · omega
  · omega

/-- A timer of 10 ms that is polled late falls behind, and fires three times in 41 ms. -/
theorem firings_paced_late :
    (((create 10).start 100).firings [108, 113, 119, 124, 130, 136, 141] * 10 ≤ 41 ∧
        41 < (((create 10).start 100).firings [108, 113, 119, 124, 130, 136, 141] + 1) * 10 +
          ((create 10).start 100).firings [108, 113, 119, 124, 130, 136, 141] * 8) ∧
      ((create 10).start 100).firings [108, 113, 119, 124, 130, 136, 141] = 3 := by
  refine ⟨?_, by decide⟩
  have polled : Polled 8 100 [108, 113, 119, 124, 130, 136, 141] := by
    simp only [Polled]
    decide
  exact firings_paced 10 100 8 [108, 113, 119, 124, 130, 136, 141] (by decide) polled (by simp)

end Uds.Hal.PeriodicTimer
