import Mathlib.Data.Set.Basic
import Mathlib.Tactic.Common

/-- One label dimension of a set of work items: who owns an item, which items claim that their gate
    passed, the levels an item adds to its owner when it finishes, and the levels an item tolerates. -/
structure Dimension (Agent Item Level : Type*) where
  owner : Item → Agent
  contained : Item → Prop
  outputs : Item → Level → Prop
  admits : Item → Level → Prop

namespace Dimension

variable {Agent Id Item Level : Type*} {D : Dimension Agent Item Level}
  {held held' : Agent → Level → Prop} {pending pending' : Id → Option Item}

/-- The levels an agent holds, or will hold once its contained items finish. -/
def Exposed (D : Dimension Agent Item Level) (held : Agent → Level → Prop)
    (pending : Id → Option Item) (a : Agent) (l : Level) : Prop :=
  held a l ∨ ∃ i J, pending i = some J ∧ D.owner J = a ∧ D.contained J ∧ D.outputs J l

/-- Every contained item tolerates every level its owner is exposed to. -/
def Confined (D : Dimension Agent Item Level) (held : Agent → Level → Prop)
    (pending : Id → Option Item) : Prop :=
  ∀ i J, pending i = some J → D.contained J → ∀ l, D.Exposed held pending (D.owner J) l → D.admits J l

theorem Confined.initial (none : ∀ i, pending i = none) : D.Confined held pending := by
  intro i J present
  simp [none i] at present

/-- Confinement passes to a state whose contained items all descend from earlier ones and whose
    owners of contained items are exposed to nothing new. -/
theorem Confined.descend (before : D.Confined held pending)
    (items : ∀ i J', pending' i = some J' → D.contained J' →
      ∃ j J, pending j = some J ∧ D.contained J ∧ D.owner J = D.owner J' ∧
        ∀ l, D.admits J l → D.admits J' l)
    (levels : ∀ i J', pending' i = some J' → D.contained J' → ∀ l,
      D.Exposed held' pending' (D.owner J') l → D.Exposed held pending (D.owner J') l) :
    D.Confined held' pending' := by
  intro i J' present contained l exposed
  obtain ⟨j, J, earlier, was, same, weaker⟩ := items i J' present contained
  apply weaker
  apply before j J earlier was l
  rw [same]
  exact levels i J' present contained l exposed

theorem Confined.restrict (before : D.Confined held pending)
    (items : ∀ i J', pending' i = some J' → D.contained J' →
      ∃ J, pending i = some J ∧ D.contained J ∧ D.owner J = D.owner J' ∧
        (∀ l, D.outputs J' l → D.outputs J l) ∧ ∀ l, D.admits J l → D.admits J' l)
    (labels : ∀ a l, held' a l → held a l) : D.Confined held' pending' := by
  refine before.descend ?_ ?_
  · intro i J' present contained
    obtain ⟨J, earlier, was, same, -, weaker⟩ := items i J' present contained
    exact ⟨i, J, earlier, was, same, weaker⟩
  · intro i J' present contained l exposed
    rcases exposed with label | ⟨k, K, other, owned, claims, level⟩
    · exact .inl (labels _ _ label)
    · obtain ⟨J, earlier, was, same, out, -⟩ := items k K other claims
      exact .inr ⟨k, J, earlier, same.trans owned, was, out l level⟩

theorem Confined.absorb (before : D.Confined held pending)
    (hold : ∀ i J, pending i = some J → D.contained J → ∀ l, held' (D.owner J) l →
      held (D.owner J) l ∨ D.admits J l) : D.Confined held' pending := by
  intro i J present contained l exposed
  rcases exposed with label | speculative
  · rcases hold i J present contained l label with old | ok
    · exact before i J present contained l (.inl old)
    · exact ok
  · exact before i J present contained l (.inr speculative)

theorem Confined.demote {a : Agent} (before : D.Confined held pending)
    (items : ∀ i J', pending' i = some J' → D.contained J' →
      D.owner J' ≠ a ∧ pending i = some J')
    (labels : ∀ b l, b ≠ a → held' b l → held b l) : D.Confined held' pending' := by
  refine before.descend ?_ ?_
  · intro i J' present contained
    exact ⟨i, J', (items i J' present contained).2, contained, rfl, fun _ h => h⟩
  · intro i J' present contained l exposed
    rcases exposed with label | ⟨k, K, other, owned, claims, level⟩
    · exact .inl (labels _ _ (items i J' present contained).1 label)
    · exact .inr ⟨k, K, (items k K other claims).2, owned, claims, level⟩

theorem Confined.enter {i₀ : Id} {J₀ : Item} (before : D.Confined held pending)
    (items : ∀ i J, pending' i = some J → (i = i₀ ∧ J = J₀) ∨ pending i = some J)
    (others : ∀ i J, pending i = some J → D.contained J → D.owner J = D.owner J₀ →
      ∀ l, D.outputs J₀ l → D.admits J l)
    (exposed : ∀ l, D.Exposed held pending (D.owner J₀) l → D.admits J₀ l)
    (self : ∀ l, D.outputs J₀ l → D.admits J₀ l) : D.Confined held pending' := by
  have widen : ∀ a l, D.Exposed held pending' a l →
      D.Exposed held pending a l ∨ (a = D.owner J₀ ∧ D.outputs J₀ l) := by
    intro a l exposed
    rcases exposed with label | ⟨k, K, other, owned, claims, level⟩
    · exact .inl (.inl label)
    · rcases items k K other with ⟨-, rfl⟩ | earlier
      · exact .inr ⟨owned.symm, level⟩
      · exact .inl (.inr ⟨k, K, earlier, owned, claims, level⟩)
  intro i J present contained l exposure
  rcases items i J present with ⟨-, rfl⟩ | earlier
  · rcases widen _ _ exposure with old | ⟨-, level⟩
    · exact exposed l old
    · exact self l level
  · rcases widen _ _ exposure with old | ⟨same, level⟩
    · exact before i J earlier contained l old
    · exact others i J earlier contained same l level

/-- Finishing a contained item turns its outputs into held labels without exposing its owner to
    anything new. -/
theorem Confined.settle {i₀ : Id} {J₀ : Item} (before : D.Confined held pending)
    (present : pending i₀ = some J₀) (claims : D.contained J₀)
    (items : ∀ i J, pending' i = some J → pending i = some J)
    (labels : ∀ a l, held' a l → held a l ∨ (a = D.owner J₀ ∧ D.outputs J₀ l)) :
    D.Confined held' pending' := by
  refine before.descend ?_ ?_
  · intro i J' still contained
    exact ⟨i, J', items i J' still, contained, rfl, fun _ h => h⟩
  · intro i J' still contained l exposed
    rcases exposed with label | ⟨k, K, other, owned, contained, level⟩
    · rcases labels _ _ label with old | ⟨same, level⟩
      · exact .inl old
      · exact .inr ⟨i₀, J₀, present, same.symm, claims, level⟩
    · exact .inr ⟨k, K, items k K other, owned, contained, level⟩

/-- The moves that keep confinement: forgetting, absorbing under the holds, giving up an agent's
    claims, admitting a newcomer through its gate, finishing a contained item. -/
inductive Step (D : Dimension Agent Item Level) (held : Agent → Level → Prop)
    (pending : Id → Option Item) (held' : Agent → Level → Prop) (pending' : Id → Option Item) : Prop
  | restrict
      (items : ∀ i J', pending' i = some J' → D.contained J' →
        ∃ J, pending i = some J ∧ D.contained J ∧ D.owner J = D.owner J' ∧
          (∀ l, D.outputs J' l → D.outputs J l) ∧ ∀ l, D.admits J l → D.admits J' l)
      (labels : ∀ a l, held' a l → held a l)
  | absorb (same : pending' = pending)
      (hold : ∀ i J, pending i = some J → D.contained J → ∀ l, held' (D.owner J) l →
        held (D.owner J) l ∨ D.admits J l)
  | demote (a : Agent)
      (items : ∀ i J', pending' i = some J' → D.contained J' → D.owner J' ≠ a ∧ pending i = some J')
      (labels : ∀ b l, b ≠ a → held' b l → held b l)
  | enter (i₀ : Id) (J₀ : Item) (same : held' = held)
      (items : ∀ i J, pending' i = some J → (i = i₀ ∧ J = J₀) ∨ pending i = some J)
      (others : ∀ i J, pending i = some J → D.contained J → D.owner J = D.owner J₀ →
        ∀ l, D.outputs J₀ l → D.admits J l)
      (exposed : ∀ l, D.Exposed held pending (D.owner J₀) l → D.admits J₀ l)
      (self : ∀ l, D.outputs J₀ l → D.admits J₀ l)
  | settle (i₀ : Id) (J₀ : Item) (present : pending i₀ = some J₀) (claims : D.contained J₀)
      (items : ∀ i J, pending' i = some J → pending i = some J)
      (labels : ∀ a l, held' a l → held a l ∨ (a = D.owner J₀ ∧ D.outputs J₀ l))

theorem Step.confined (step : D.Step held pending held' pending') (before : D.Confined held pending) :
    D.Confined held' pending' := by
  cases step with
  | restrict items labels => exact before.restrict items labels
  | absorb same hold =>
    rw [same]
    exact before.absorb hold
  | demote a items labels => exact before.demote items labels
  | enter i₀ J₀ same items others exposed self =>
    rw [same]
    exact before.enter items others exposed self
  | settle i₀ J₀ present claims items labels => exact before.settle present claims items labels

end Dimension
