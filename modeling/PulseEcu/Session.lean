import PulseEcu.Types

namespace Uds

/-- The timeout callback is not part of the state: `update` says when it runs. -/
structure UdsSession where
  session : SessionType
  timing : TimingConfig
  s3Deadline : Word
  timedOut : Bool
  deriving DecidableEq

namespace UdsSession

def create (timing : TimingConfig) : UdsSession := ⟨.default, timing, 0, false⟩

def reset (s : UdsSession) : UdsSession := { s with session := .default, timedOut := false, s3Deadline := 0 }

def transition (s : UdsSession) (new : SessionType) : Bool × UdsSession :=
  if new = .default then (true, s.reset)
  else if new = .programming ∧ s.session ≠ .default then (false, s)
  else (true, { s with session := new, timedOut := false })

/-- The flag is true when the timeout callback is called, if there is one. -/
def update (s : UdsSession) (tickMs : Word) : UdsSession × Bool :=
  if s.session = .default then ({ s with s3Deadline := 0, timedOut := false }, false)
  else if s.s3Deadline ≠ 0 ∧ tickMs ≥ s.s3Deadline then
    ({ s with timedOut := true, session := .default, s3Deadline := 0 }, true)
  else (s, false)

def keepAlive (s : UdsSession) (tickMs : Word) : UdsSession :=
  if s.session ≠ .default then
    { s with timedOut := false, s3Deadline := tickMs + s.timing.s3Ms.setWidth 32 }
  else { s with timedOut := false }

variable (s : UdsSession) (tickMs : Word)

@[simp] theorem keepAlive_session : (s.keepAlive tickMs).session = s.session := by
  unfold keepAlive
  split <;> rfl

@[simp] theorem keepAlive_timing : (s.keepAlive tickMs).timing = s.timing := by
  unfold keepAlive
  split <;> rfl

theorem keepAlive_deadline (left : s.session ≠ .default) :
    (s.keepAlive tickMs).s3Deadline = tickMs + s.timing.s3Ms.setWidth 32 := by
  rw [keepAlive, if_pos left]

theorem keepAlive_deadline_default (session : s.session = .default) :
    (s.keepAlive tickMs).s3Deadline = s.s3Deadline := by
  rw [keepAlive, if_neg (not_not_intro session)]

@[simp] theorem update_timing : (s.update tickMs).1.timing = s.timing := by
  unfold update
  repeat' split
  all_goals rfl

@[simp] theorem transition_timing (new : SessionType) : (s.transition new).2.timing = s.timing := by
  unfold transition
  repeat' split
  all_goals rfl

theorem transition_session (new : SessionType) :
    (s.transition new).2.session = if (s.transition new).1 then new else s.session := by
  unfold transition
  split
  · rename_i same
    exact same.symm
  · split
    · rfl
    · rfl

theorem transition_refused (new : SessionType) (refused : (s.transition new).1 = false) : (s.transition new).2 = s := by
  unfold transition at refused ⊢
  split
  · rename_i same
    rw [if_pos same] at refused
    cases refused
  · rename_i other
    rw [if_neg other] at refused
    split
    · rfl
    · rename_i entered
      rw [if_neg entered] at refused
      cases refused

theorem transition_deadline (new : SessionType) :
    (s.transition new).2.s3Deadline = if new = .default then 0 else s.s3Deadline := by
  unfold transition
  split
  · rfl
  · split
    · rfl
    · rfl

theorem update_kept (left : s.session ≠ .default) (early : s.s3Deadline = 0 ∨ tickMs < s.s3Deadline) :
    s.update tickMs = (s, false) := by
  have waiting : ¬ (s.s3Deadline ≠ 0 ∧ tickMs ≥ s.s3Deadline) := by
    intro expired
    rcases early with off | early
    · exact expired.1 off
    · exact BitVec.not_le.mpr early expired.2
  rw [update, if_neg left, if_neg waiting]

theorem update_expired (left : s.session ≠ .default) (armed : s.s3Deadline ≠ 0) (late : s.s3Deadline ≤ tickMs) :
    (s.update tickMs).1.session = .default := by
  rw [update, if_neg left, if_pos ⟨armed, late⟩]

theorem update_cases : (s.update tickMs).1.session = .default ∧ (s.update tickMs).1.s3Deadline = 0 ∨
    s.session ≠ .default ∧ (s.update tickMs).1 = s ∧ (s.s3Deadline = 0 ∨ tickMs < s.s3Deadline) := by
  unfold update
  split
  · rename_i session
    exact Or.inl ⟨session, rfl⟩
  · rename_i left
    split
    · exact Or.inl ⟨rfl, rfl⟩
    · rename_i waiting
      refine Or.inr ⟨left, rfl, ?_⟩
      by_cases off : s.s3Deadline = 0
      · exact Or.inl off
      · exact Or.inr (BitVec.not_le.mp fun late => waiting ⟨off, late⟩)

end UdsSession

end Uds
