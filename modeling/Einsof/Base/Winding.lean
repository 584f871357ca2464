import Einsof.Base.Machine

namespace Machine

variable {σ κ ρ ε : Type*}

/-- Accepted commands of one kind lead from a state to another in a number of steps. -/
inductive Winding (M : Machine σ κ ρ ε) (kind : κ → Prop) (s : σ) : Nat → σ → Prop
  | start : Winding M kind s 0 s
  | step {n : Nat} {u u' : σ} {c : κ} {r : ρ} (before : Winding M kind s n u) (of : kind c)
      (accepted : M.step u c = .ok (u', r)) : Winding M kind s (n + 1) u'

def Wound (M : Machine σ κ ρ ε) (kind : κ → Prop) (u : σ) : Prop :=
  ∀ c, kind c → ∀ u' r, M.step u c ≠ .ok (u', r)

/-- Under an invariant every accepted command of the kind does one of the things left to do, and as
    long as any is left some command of the kind is accepted. -/
structure Winds (M : Machine σ κ ρ ε) (kind : κ → Prop) (inv : σ → Prop) (left : σ → Nat) : Prop where
  keep : ∀ u c u' r, inv u → kind c → M.step u c = .ok (u', r) → inv u' ∧ left u' + 1 = left u
  next : ∀ u, inv u → left u ≠ 0 → ∃ c u' r, kind c ∧ M.step u c = .ok (u', r)

variable {M : Machine σ κ ρ ε} {kind : κ → Prop} {inv : σ → Prop} {left : σ → Nat} {s u : σ} {n : Nat}

theorem Winding.keep (winds : M.Winds kind inv left) (initial : inv s) (winding : M.Winding kind s n u) :
    inv u ∧ left u + n = left s := by
  induction winding with
  | start => exact ⟨initial, rfl⟩
  | step before of accepted ih =>
    obtain ⟨holds, count⟩ := ih
    obtain ⟨holds', less⟩ := winds.keep _ _ _ _ holds of accepted
    exact ⟨holds', by omega⟩

theorem Winding.wound_iff (winds : M.Winds kind inv left) (initial : inv s)
    (winding : M.Winding kind s n u) : M.Wound kind u ↔ n = left s := by
  obtain ⟨holds, count⟩ := winding.keep winds initial
  constructor
  · intro wound
    by_contra more
    obtain ⟨c, u', r, of, accepted⟩ := winds.next u holds (by omega)
    exact wound c of u' r accepted
  · intro all c of u' r accepted
    obtain ⟨-, less⟩ := winds.keep _ _ _ _ holds of accepted
    omega

theorem Winding.complete {n : Nat} {u : σ} (winds : M.Winds kind inv left) (initial : inv s)
    (winding : M.Winding kind s n u) : ∃ final, M.Winding kind s (left s) final := by
  obtain ⟨holds, count⟩ := winding.keep winds initial
  by_cases none : left u = 0
  · have all : n = left s := by omega
    exact ⟨u, all ▸ winding⟩
  · obtain ⟨c, u', r, of, accepted⟩ := winds.next u holds none
    have less := (winds.keep _ _ _ _ holds of accepted).2
    exact (winding.step of accepted).complete winds initial
termination_by left u
decreasing_by omega

end Machine
