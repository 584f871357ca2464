import Mathlib.Data.List.Induction
import Mathlib.Tactic.Common

/-- A deterministic machine: a command either moves the state and leaves a record, or is refused. -/
structure Machine (σ κ ρ ε : Type*) where
  start : σ
  step : σ → κ → Except ε (σ × ρ)

namespace Machine

variable {σ κ ρ ε : Type*} {M : Machine σ κ ρ ε}

/-- The accepted commands with their records, oldest first, and the state they lead to. -/
inductive Run (M : Machine σ κ ρ ε) : List (κ × ρ) → σ → Prop
  | start : Run M [] M.start
  | step {history : List (κ × ρ)} {s s' : σ} {c : κ} {r : ρ} (run : Run M history s)
      (accepted : M.step s c = .ok (s', r)) : Run M (history ++ [(c, r)]) s'

def Reachable (M : Machine σ κ ρ ε) (s : σ) : Prop :=
  ∃ history, M.Run history s

theorem Run.reachable {history : List (κ × ρ)} {s : σ} (run : M.Run history s) : M.Reachable s :=
  ⟨history, run⟩

theorem Reachable.step {s s' : σ} {c : κ} {r : ρ} (reach : M.Reachable s)
    (accepted : M.step s c = .ok (s', r)) : M.Reachable s' := by
  rcases reach with ⟨history, run⟩
  exact ⟨_, run.step accepted⟩

/-- The invariant rule: what the start satisfies and every accepted step keeps holds throughout. -/
theorem Reachable.invariant {inv : σ → Prop} (initial : inv M.start)
    (keep : ∀ s c s' r, inv s → M.step s c = .ok (s', r) → inv s') {s : σ}
    (reach : M.Reachable s) : inv s := by
  rcases reach with ⟨history, run⟩
  induction run with
  | start => exact initial
  | step _ accepted ih => exact keep _ _ _ _ ih accepted

theorem Run.last {history : List (κ × ρ)} {c : κ} {r : ρ} {s' : σ}
    (run : M.Run (history ++ [(c, r)]) s') :
    ∃ s, M.Run history s ∧ M.step s c = .ok (s', r) := by
  generalize same : history ++ [(c, r)] = whole at run
  cases run with
  | start => simp at same
  | step run accepted =>
    obtain ⟨rfl, last⟩ := List.append_inj' same rfl
    cases last
    exact ⟨_, run, accepted⟩

theorem Run.unique {history : List (κ × ρ)} {s s' : σ} (run : M.Run history s)
    (run' : M.Run history s') : s = s' := by
  induction run generalizing s' with
  | start =>
    generalize none : ([] : List (κ × ρ)) = history at run'
    cases run' with
    | start => rfl
    | step _ _ => simp at none
  | step _ accepted ih =>
    obtain ⟨u, earlier, accepted'⟩ := run'.last
    rw [← ih earlier, accepted] at accepted'
    cases accepted'
    rfl

theorem Run.front {before after : List (κ × ρ)} {s : σ} (run : M.Run (before ++ after) s) :
    ∃ s₁, M.Run before s₁ := by
  induction after using List.reverseRecOn generalizing s with
  | nil => exact ⟨s, by simpa using run⟩
  | append_singleton after last ih =>
    rw [← List.append_assoc] at run
    obtain ⟨s₁, earlier, -⟩ := run.last
    exact ih earlier

/-- Where an entry of the history was accepted. -/
theorem Run.split {before after : List (κ × ρ)} {c : κ} {r : ρ} {s : σ}
    (run : M.Run (before ++ (c, r) :: after) s) :
    ∃ u u', M.Run before u ∧ M.step u c = .ok (u', r) := by
  rw [List.append_cons] at run
  obtain ⟨u', front⟩ := run.front
  obtain ⟨u, earlier, accepted⟩ := front.last
  exact ⟨u, u', earlier, accepted⟩

/-- The latest state of a run at which `P` held. -/
inductive Latest (M : Machine σ κ ρ ε) (P : σ → Prop) : List (κ × ρ) → σ → Prop
  | now {history : List (κ × ρ)} {s : σ} (run : M.Run history s) (holds : P s) : Latest M P history s
  | earlier {history : List (κ × ρ)} {c : κ} {r : ρ} {u s : σ} (latest : Latest M P history u)
      (run : M.Run (history ++ [(c, r)]) s) (lost : ¬ P s) : Latest M P (history ++ [(c, r)]) u

theorem Latest.eq_last {P : σ → Prop} {history : List (κ × ρ)} {u s : σ} (latest : M.Latest P history u)
    (run : M.Run history s) (holds : P s) : u = s := by
  cases latest with
  | now run' _ => exact run'.unique run
  | earlier _ run' lost =>
    rw [run'.unique run] at lost
    exact absurd holds lost

/-- The state after a list of commands and the records of those accepted. -/
def drive (M : Machine σ κ ρ ε) : σ → List κ → σ × List ρ
  | s, [] => (s, [])
  | s, c :: cs =>
    match M.step s c with
    | .ok (s', r) => ((M.drive s' cs).1, r :: (M.drive s' cs).2)
    | .error _ => M.drive s cs

theorem Run.drive {history : List (κ × ρ)} {s : σ} (run : M.Run history s) (cs : List κ) :
    ∃ more, M.Run (history ++ more) (M.drive s cs).1 ∧ more.map Prod.snd = (M.drive s cs).2 := by
  induction cs generalizing history s with
  | nil => exact ⟨[], by simpa [Machine.drive] using run, rfl⟩
  | cons c cs ih =>
    cases answer : M.step s c with
    | error e =>
      simp only [Machine.drive, answer]
      exact ih run
    | ok next =>
      rcases next with ⟨s', r⟩
      obtain ⟨more, continued, records⟩ := ih (run.step answer)
      refine ⟨(c, r) :: more, ?_, ?_⟩
      · simpa [Machine.drive, answer] using continued
      · simp [Machine.drive, answer, records]

theorem drive_length (M : Machine σ κ ρ ε) (s : σ) (cs : List κ) : (M.drive s cs).2.length ≤ cs.length := by
  induction cs generalizing s with
  | nil => exact Nat.le_refl 0
  | cons c cs ih =>
    cases answer : M.step s c with
    | error e =>
      simp only [Machine.drive, answer]
      exact Nat.le_succ_of_le (ih s)
    | ok next =>
      simp only [Machine.drive, answer]
      exact Nat.succ_le_succ (ih next.1)

/-- Where no command is refused, each goes with its record. -/
theorem Run.drive_all {history : List (κ × ρ)} {s : σ} {cs : List κ} (run : M.Run history s)
    (all : (M.drive s cs).2.length = cs.length) :
    M.Run (history ++ cs.zip (M.drive s cs).2) (M.drive s cs).1 := by
  induction cs generalizing history s with
  | nil => simpa [Machine.drive] using run
  | cons c cs ih =>
    cases answer : M.step s c with
    | error e =>
      have short := M.drive_length s cs
      simp only [Machine.drive, answer, List.length_cons] at all
      omega
    | ok next =>
      simp only [Machine.drive, answer, List.length_cons, Nat.add_right_cancel_iff] at all ⊢
      rw [List.zip_cons_cons, List.append_cons]
      exact ih (run.step answer) all

theorem drive_reachable (M : Machine σ κ ρ ε) (cs : List κ) :
    M.Reachable (M.drive M.start cs).1 := by
  obtain ⟨more, run, -⟩ := (Run.start (M := M)).drive cs
  exact run.reachable

/-- Accepted commands lead from `s` to a later state, and every state on the way satisfies `P`. -/
inductive Throughout (M : Machine σ κ ρ ε) (P : σ → Prop) (s : σ) : σ → Prop
  | here (holds : P s) : Throughout M P s s
  | step {s' s'' : σ} {c : κ} {r : ρ} (before : Throughout M P s s')
      (accepted : M.step s' c = .ok (s'', r)) (holds : P s'') : Throughout M P s s''

theorem Throughout.last {P : σ → Prop} {s s' : σ} (path : M.Throughout P s s') : P s' := by
  cases path with
  | here holds => exact holds
  | step _ _ holds => exact holds

theorem Throughout.mono {P Q : σ → Prop} {s s' : σ} (path : M.Throughout P s s')
    (reach : M.Reachable s) (weaker : ∀ u, M.Reachable u → P u → Q u) :
    M.Throughout Q s s' ∧ M.Reachable s' := by
  induction path with
  | here holds => exact ⟨.here (weaker s reach holds), reach⟩
  | step before accepted holds ih =>
    rcases ih with ⟨path, reached⟩
    have next := reached.step accepted
    exact ⟨path.step accepted (weaker _ next holds), next⟩

/-- What a step between two states satisfying `P` keeps, holds to the end. -/
theorem Throughout.keep {P inv : σ → Prop} {s s' : σ} (path : M.Throughout P s s') (initial : inv s)
    (keep : ∀ u c u' r, P u → P u' → inv u → M.step u c = .ok (u', r) → inv u') : inv s' := by
  induction path with
  | here holds => exact initial
  | step before accepted holds ih => exact keep _ _ _ _ before.last holds ih accepted

end Machine
