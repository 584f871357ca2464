import Mathlib.Tactic.Common

namespace Fallible

variable {ε ε' α β γ δ : Type}

theorem bind_ok {x : Except ε α} {f : α → Except ε β} {b : β} :
    (x >>= f) = .ok b ↔ ∃ a, x = .ok a ∧ f a = .ok b := by
  cases x <;> simp [bind, Except.bind]

theorem pure_ok {a b : α} : (pure a : Except ε α) = .ok b ↔ a = b := by
  simp [pure, Except.pure]

theorem map_ok {x : Except ε α} {f : α → β} {b : β} : x.map f = .ok b ↔ ∃ a, x = .ok a ∧ f a = b := by
  cases x <;> simp [Except.map]

theorem mapError_ok {x : Except ε α} {f : ε → ε'} {a : α} : x.mapError f = .ok a ↔ x = .ok a := by
  cases x <;> simp [Except.mapError]

theorem check_ok {p : Prop} [Decidable p] {e : ε} {u : Unit} :
    (if p then .error e else .ok () : Except ε Unit) = .ok u ↔ ¬ p := by
  by_cases h : p <;> simp [h]

theorem refuse_ok {p : Prop} [Decidable p] {e : ε} {f : Unit → Except ε β} {b : β} :
    (if p then (.error e : Except ε Unit) >>= f else .ok () >>= f) = .ok b ↔ ¬ p ∧ f () = .ok b := by
  by_cases h : p <;> simp [h, bind, Except.bind]

theorem forM_ok {xs : List α} {f : α → Except ε Unit} {u : Unit} :
    xs.forM f = .ok u ↔ ∀ x ∈ xs, f x = .ok () := by
  induction xs with
  | nil => simp [pure_ok]
  | cons x xs ih =>
    have first : (x :: xs).forM f = f x >>= fun _ => xs.forM f := rfl
    rw [first, bind_ok]
    simp only [ih, List.mem_cons, forall_eq_or_imp]
    exact ⟨fun ⟨_, done⟩ => done, fun done => ⟨(), done⟩⟩

/-- Both computations fail with the same error, or both succeed with related results. -/
inductive Alike (R : α → β → Prop) : Except ε α → Except ε β → Prop
  | ok {a : α} {b : β} (related : R a b) : Alike R (.ok a) (.ok b)
  | error (e : ε) : Alike R (.error e) (.error e)

variable {R : α → β → Prop} {x : Except ε α} {y : Except ε β}

theorem Alike.of_eq {x y : Except ε α} (same : x = y) : Alike Eq x y := by
  subst same
  cases x with
  | error e => exact .error e
  | ok a => exact .ok rfl

theorem Alike.refuse {p q : Prop} [Decidable p] [Decidable q] {e : ε} (same : p ↔ q)
    (alike : ¬ p → Alike R x y) :
    Alike R (if p then .error e else x) (if q then .error e else y) := by
  by_cases h : p
  · rw [if_pos h, if_pos (same.mp h)]
    exact .error e
  · rw [if_neg h, if_neg (fun here => h (same.mpr here))]
    exact alike h

theorem Alike.bind {S : γ → δ → Prop} {f : α → Except ε γ} {g : β → Except ε δ} (first : Alike R x y)
    (second : ∀ a b, R a b → Alike S (f a) (g b)) : Alike S (x >>= f) (y >>= g) := by
  cases first with
  | error e => exact .error e
  | ok related => exact second _ _ related

theorem Alike.map {S : γ → δ → Prop} {f : α → γ} {g : β → δ} (first : Alike R x y)
    (second : ∀ a b, R a b → S (f a) (g b)) : Alike S (x.map f) (y.map g) := by
  cases first with
  | error e => exact .error e
  | ok related => exact .ok (second _ _ related)

theorem Alike.mapError {f : ε → ε'} (first : Alike R x y) : Alike R (x.mapError f) (y.mapError f) := by
  cases first with
  | error e => exact .error (f e)
  | ok related => exact .ok related

end Fallible
