import Mathlib.Data.List.Nodup
import Mathlib.Data.List.Pairwise
import Einsof.Base.Machine

namespace Machine

variable {σ κ ρ ε α : Type*} {M : Machine σ κ ρ ε}

/-- A machine that spends every token at most once: each accepted step spends fresh tokens, and the
    state remembers exactly what was spent. -/
structure Ledger (M : Machine σ κ ρ ε) (spent : σ → α → Prop) (spends : κ × ρ → List α) : Prop where
  initial : ∀ x, ¬ spent M.start x
  once : ∀ {s c s' r}, M.step s c = .ok (s', r) → (spends (c, r)).Nodup
  fresh : ∀ {s c s' r}, M.step s c = .ok (s', r) → ∀ x ∈ spends (c, r), ¬ spent s x
  remember : ∀ {s c s' r}, M.step s c = .ok (s', r) → ∀ x, spent s' x ↔ spent s x ∨ x ∈ spends (c, r)

variable {spent : σ → α → Prop} {spends : κ × ρ → List α}

theorem Ledger.spent_iff (ledger : M.Ledger spent spends) {history : List (κ × ρ)} {s : σ}
    (run : M.Run history s) (x : α) : spent s x ↔ x ∈ history.flatMap spends := by
  induction run with
  | start => simp [ledger.initial]
  | step run accepted ih =>
    rw [ledger.remember accepted, ih, List.flatMap_append, List.mem_append, List.flatMap_singleton]

theorem Ledger.nodup (ledger : M.Ledger spent spends) {history : List (κ × ρ)} {s : σ}
    (run : M.Run history s) : (history.flatMap spends).Nodup := by
  induction run with
  | start => exact List.nodup_nil
  | @step history s s' c r run accepted ih =>
    rw [List.flatMap_append, List.flatMap_singleton, List.nodup_append]
    refine ⟨ih, ledger.once accepted, ?_⟩
    intro x earlier y now same
    subst same
    have before : spent s x := (ledger.spent_iff run x).mpr earlier
    exact ledger.fresh accepted x now before

/-- One entry of the history spent a token. -/
theorem Ledger.unique (ledger : M.Ledger spent spends) {history : List (κ × ρ)} {s : σ}
    (run : M.Run history s) {x : α} {e e' : κ × ρ} (member : e ∈ history) (member' : e' ∈ history)
    (spender : x ∈ spends e) (spender' : x ∈ spends e') : e = e' := by
  by_contra differ
  obtain ⟨-, disjoint⟩ := List.nodup_flatMap.mp (ledger.nodup run)
  have symm : Std.Symm (Function.onFun List.Disjoint spends) := ⟨fun _ _ apart x here there => apart there here⟩
  exact disjoint.forall member member' differ spender spender'

end Machine
