import Mathlib.Data.List.Basic
import Mathlib.Tactic.Common

namespace Scan

variable {α β : Type*}

/-- A loop that can only lower its flag holds exactly when no element lowers it. -/
theorem foldl_all {body : Bool → α → Bool} (good : α → Prop)
    (step : ∀ ok x, body ok x = true ↔ ok = true ∧ good x) (xs : List α) (ok : Bool) :
    xs.foldl body ok = true ↔ ok = true ∧ ∀ x ∈ xs, good x := by
  induction xs generalizing ok with
  | nil => simp
  | cons x xs ih =>
    rw [List.foldl_cons, ih, step]
    simp only [List.mem_cons, forall_eq_or_imp, and_assoc]

theorem foldl_any {body : Bool → α → Bool} (hit : α → Prop)
    (step : ∀ found x, body found x = true ↔ found = true ∨ hit x) (xs : List α) (found : Bool) :
    xs.foldl body found = true ↔ found = true ∨ ∃ x ∈ xs, hit x := by
  induction xs generalizing found with
  | nil => simp
  | cons x xs ih =>
    rw [List.foldl_cons, ih, step]
    simp only [List.mem_cons, exists_eq_or_imp, or_assoc]

theorem foldl_latch_false (bad : α → Prop) [DecidablePred bad] (xs : List α) (ok : Bool) :
    xs.foldl (fun ok x => if bad x then false else ok) ok = true ↔ ok = true ∧ ∀ x ∈ xs, ¬ bad x := by
  apply foldl_all
  intro ok x
  by_cases h : bad x <;> simp [h]

theorem foldl_latch_true (hit : α → Prop) [DecidablePred hit] (xs : List α) (found : Bool) :
    xs.foldl (fun found x => if hit x then true else found) found = true ↔
      found = true ∨ ∃ x ∈ xs, hit x := by
  apply foldl_any
  intro found x
  by_cases h : hit x <;> simp [h]

/-- The rebuild loop `kept.push(..)` under a condition is a filter. -/
theorem foldl_keep (keep : α → Prop) [DecidablePred keep] (xs kept : List α) :
    xs.foldl (fun kept x => if keep x then kept ++ [x] else kept) kept =
      kept ++ xs.filter (fun x => keep x) := by
  induction xs generalizing kept with
  | nil => simp
  | cons x xs ih =>
    rw [List.foldl_cons, ih]
    by_cases h : keep x <;> simp [h]

end Scan
