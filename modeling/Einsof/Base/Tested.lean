import Mathlib.Data.Set.Basic
import Mathlib.Order.Defs.Unbundled
import Mathlib.Tactic.Common

/-! Sets read only through tests of a given family, each asking whether all members pass. -/

variable {α : Type*}

/-- Every test of the family passes on one set exactly when it passes on the other. -/
def TestedAlike (tests : Set (α → Prop)) (s t : Set α) : Prop :=
  ∀ p ∈ tests, (∀ x ∈ s, p x) ↔ ∀ x ∈ t, p x

namespace TestedAlike

variable {tests : Set (α → Prop)} {s s' t t' u : Set α}

theorem refl (tests : Set (α → Prop)) (s : Set α) : TestedAlike tests s s := fun _ _ => Iff.rfl

theorem symm (alike : TestedAlike tests s t) : TestedAlike tests t s :=
  fun p test => (alike p test).symm

theorem trans (alike : TestedAlike tests s t) (next : TestedAlike tests t u) : TestedAlike tests s u :=
  fun p test => (alike p test).trans (next p test)

theorem union (left : TestedAlike tests s t) (right : TestedAlike tests s' t') :
    TestedAlike tests (s ∪ s') (t ∪ t') := by
  intro p test
  simp only [Set.mem_union, or_imp, forall_and]
  exact and_congr (left p test) (right p test)

theorem restrict (alike : TestedAlike tests s t) (q : Prop) :
    TestedAlike tests {x | x ∈ s ∧ q} {x | x ∈ t ∧ q} := by
  intro p test
  by_cases holds : q
  · simp only [holds, and_true, Set.mem_ofPred_eq]
    exact alike p test
  · simp [holds]

/-- Tests that pass downwards tell two sets apart exactly by what lies below some member. -/
theorem lower_iff [LE α] (refl : ∀ x : α, x ≤ x) (trans : ∀ {x y z : α}, x ≤ y → y ≤ z → x ≤ z) :
    TestedAlike {p | IsLowerSet {x | p x}} s t ↔ ∀ k, (∃ x ∈ s, k ≤ x) ↔ ∃ x ∈ t, k ≤ x := by
  constructor
  · intro alike k
    have lower : IsLowerSet {x | ¬ k ≤ x} := fun x y below out up => out (trans up below)
    simpa using not_congr (alike _ lower)
  · intro alike p lower
    constructor
    · intro all y member
      obtain ⟨x, held, above⟩ := (alike y).mpr ⟨y, member, refl y⟩
      exact lower above (all x held)
    · intro all x member
      obtain ⟨y, held, above⟩ := (alike x).mp ⟨x, member, refl x⟩
      exact lower above (all y held)

theorem upper_iff [LE α] (refl : ∀ x : α, x ≤ x) (trans : ∀ {x y z : α}, x ≤ y → y ≤ z → x ≤ z) :
    TestedAlike {p | IsUpperSet {x | p x}} s t ↔ ∀ k, (∃ x ∈ s, x ≤ k) ↔ ∃ x ∈ t, x ≤ k := by
  constructor
  · intro alike k
    have upper : IsUpperSet {x | ¬ x ≤ k} := fun x y above out down => out (trans above down)
    simpa using not_congr (alike _ upper)
  · intro alike p upper
    constructor
    · intro all y member
      obtain ⟨x, held, below⟩ := (alike y).mpr ⟨y, member, refl y⟩
      exact upper below (all x held)
    · intro all x member
      obtain ⟨y, held, below⟩ := (alike x).mp ⟨x, member, refl x⟩
      exact upper below (all y held)

end TestedAlike
