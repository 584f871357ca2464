import Einsof.Base.Schedule

namespace Machine

variable {σ κ ρ ε : Type*} {M : Machine σ κ ρ ε} {s : σ} {c : κ} {cs ds : List κ}

theorem attempts_append (s : σ) (cs ds : List κ) : M.attempts s (cs ++ ds) =
    ((M.attempts (M.attempts s cs).1 ds).1, (M.attempts s cs).2 ++ (M.attempts (M.attempts s cs).1 ds).2) := by
  induction cs generalizing s with
  | nil => rfl
  | cons c cs ih =>
    rw [List.cons_append, attempts, ih]
    rfl

/-- A command sent again right after it was accepted has no further effect. -/
def Settles (M : Machine σ κ ρ ε) (c : κ) : Prop :=
  ∀ s s' r, M.step s c = .ok (s', r) → (M.attempt s' c).1 = s'

/-- The second list repeats each command of the first any number of times before it goes on. -/
inductive Resent : List κ → List κ → Prop
  | nil : Resent [] []
  | send (c : κ) (again : Nat) {cs ds : List κ} (rest : Resent cs ds) :
      Resent (c :: cs) (c :: (List.replicate again c ++ ds))

theorem Settles.attempt (settles : M.Settles c) (s : σ) :
    (M.attempt (M.attempt s c).1 c).1 = (M.attempt s c).1 := by
  cases answer : M.step s c with
  | error e => rw [attempt_error answer, attempt_error answer]
  | ok next =>
    rw [attempt_ok answer]
    exact settles _ _ _ answer

theorem Settles.attempts_replicate (settles : M.Settles c) (again : Nat) (s : σ) :
    (M.attempts (M.attempt s c).1 (List.replicate again c)).1 = (M.attempt s c).1 := by
  induction again with
  | zero => rfl
  | succ again ih =>
    rw [List.replicate_succ, Machine.attempts, settles.attempt]
    exact ih

theorem Resent.attempts (settles : ∀ c, M.Settles c) (resent : Resent cs ds) (s : σ) :
    (M.attempts s ds).1 = (M.attempts s cs).1 ∧ (M.attempts s cs).2.Sublist (M.attempts s ds).2 := by
  induction resent generalizing s with
  | nil => exact ⟨rfl, .refl _⟩
  | send c again rest ih =>
    obtain ⟨state, answers⟩ := ih (M.attempt s c).1
    rw [Machine.attempts, attempts_append, (settles c).attempts_replicate]
    exact ⟨state, (answers.trans (List.sublist_append_right _ _)).cons_cons _⟩

end Machine
