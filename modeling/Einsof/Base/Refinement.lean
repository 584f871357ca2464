import Einsof.Base.Machine

/-- An abstract system. A command has internal parameters that its guard constrains and its
    post-relation reads. -/
structure Spec (τ κ : Type*) where
  Choice : κ → Type
  guard : (c : κ) → Choice c → τ → Prop
  next : (c : κ) → Choice c → τ → τ → Prop

namespace Spec

variable {σ τ κ ρ ε : Type*} {S : Spec τ κ} {M : Machine σ κ ρ ε}

inductive Run (S : Spec τ κ) (t₀ : τ) : List κ → τ → Prop
  | start : Run S t₀ [] t₀
  | step {cs : List κ} {t t' : τ} {c : κ} (p : S.Choice c) (run : Run S t₀ cs t)
      (enabled : S.guard c p t) (moves : S.next c p t t') : Run S t₀ (cs ++ [c]) t'

/-- A machine agrees with the abstract system on a command: it accepts exactly when some parameters
    are enabled, and enabled parameters are the recorded ones and lead to the state it moves to. -/
structure Agrees (S : Spec τ κ) (M : Machine σ κ ρ ε) (abs : σ → τ)
    (records : (c : κ) → S.Choice c → ρ → Prop) (s : σ) (c : κ) : Prop where
  accepts : (∃ s' r, M.step s c = .ok (s', r)) ↔ ∃ p, S.guard c p (abs s)
  commits : ∀ s' r p, M.step s c = .ok (s', r) → S.guard c p (abs s) →
    records c p r ∧ S.next c p (abs s) (abs s')

variable {abs : σ → τ} {records : (c : κ) → S.Choice c → ρ → Prop}

theorem Agrees.intro {s : σ} {c : κ}
    (complete : ∀ p, S.guard c p (abs s) → ∃ s' r, M.step s c = .ok (s', r) ∧ records c p r ∧
      S.next c p (abs s) (abs s'))
    (sound : ∀ s' r, M.step s c = .ok (s', r) → ∃ p, S.guard c p (abs s)) :
    S.Agrees M abs records s c where
  accepts := by
    constructor
    · intro ⟨s', r, accepted⟩
      exact sound s' r accepted
    · intro ⟨p, enabled⟩
      obtain ⟨s', r, accepted, -⟩ := complete p enabled
      exact ⟨s', r, accepted⟩
  commits := by
    intro s' r p accepted enabled
    obtain ⟨s'', r'', same, recorded, moves⟩ := complete p enabled
    cases accepted.symm.trans same
    exact ⟨recorded, moves⟩

theorem run_of_machine (agrees : ∀ s, M.Reachable s → ∀ c, S.Agrees M abs records s c)
    {history : List (κ × ρ)} {s : σ} (run : M.Run history s) :
    S.Run (abs M.start) (history.map Prod.fst) (abs s) := by
  induction run with
  | start => exact .start
  | @step _ _ _ c _ run accepted ih =>
    have agree := agrees _ run.reachable c
    obtain ⟨p, enabled⟩ := agree.accepts.mp ⟨_, _, accepted⟩
    rw [List.map_append]
    exact .step p ih enabled (agree.commits _ _ p accepted enabled).2

theorem machine_of_run (agrees : ∀ s, M.Reachable s → ∀ c, S.Agrees M abs records s c)
    (functional : ∀ c p t t₁ t₂, S.next c p t t₁ → S.next c p t t₂ → t₁ = t₂) {cs : List κ} {t : τ}
    (run : S.Run (abs M.start) cs t) :
    ∃ history s, M.Run history s ∧ history.map Prod.fst = cs ∧ abs s = t := by
  induction run with
  | start => exact ⟨[], _, .start, rfl, rfl⟩
  | @step _ _ _ c p run enabled moves ih =>
    rcases ih with ⟨history, s, earlier, same, rfl⟩
    have agree := agrees s earlier.reachable c
    obtain ⟨s', r, accepted⟩ := agree.accepts.mpr ⟨p, enabled⟩
    refine ⟨_, s', earlier.step accepted, ?_, ?_⟩
    · rw [List.map_append, same, List.map_singleton]
    · exact functional _ p _ _ _ (agree.commits _ _ p accepted enabled).2 moves

/-- A machine that agrees throughout has exactly the abstract system's traces. -/
theorem traces_iff (agrees : ∀ s, M.Reachable s → ∀ c, S.Agrees M abs records s c)
    (functional : ∀ c p t t₁ t₂, S.next c p t t₁ → S.next c p t t₂ → t₁ = t₂) (cs : List κ) (t : τ) :
    S.Run (abs M.start) cs t ↔ ∃ history s, M.Run history s ∧ history.map Prod.fst = cs ∧ abs s = t := by
  constructor
  · exact machine_of_run agrees functional
  · intro ⟨history, s, run, same, last⟩
    subst same last
    exact run_of_machine agrees run

end Spec
