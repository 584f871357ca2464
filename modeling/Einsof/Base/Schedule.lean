import Einsof.Base.Machine

/-! Lists of commands whose order does not matter, on a machine that leaves the state as it is when it
    refuses a command. -/

namespace Machine

variable {σ κ ρ ε : Type*}

/-- One command, accepted or refused: the state afterwards and the error of a refusal. -/
def attempt (M : Machine σ κ ρ ε) (s : σ) (c : κ) : σ × Option ε :=
  match M.step s c with
  | .ok (s', _) => (s', none)
  | .error e => (s, some e)

/-- The state after a list of commands, with how each of them was answered. -/
def attempts (M : Machine σ κ ρ ε) : σ → List κ → σ × List (κ × Option ε)
  | s, [] => (s, [])
  | s, c :: cs =>
    ((M.attempts (M.attempt s c).1 cs).1, (c, (M.attempt s c).2) :: (M.attempts (M.attempt s c).1 cs).2)

variable {M : Machine σ κ ρ ε} {s s' t : σ} {c d : κ}

theorem attempt_ok {r : ρ} (accepted : M.step s c = .ok (s', r)) : M.attempt s c = (s', none) := by
  rw [attempt, accepted]

theorem attempt_error {e : ε} (refused : M.step s c = .error e) : M.attempt s c = (s, some e) := by
  rw [attempt, refused]

theorem attempt_refused {e : ε} (refused : (M.attempt s c).2 = some e) : (M.attempt s c).1 = s := by
  cases answer : M.step s c with
  | error e' => rw [attempt_error answer]
  | ok next =>
    rw [attempt_ok answer] at refused
    cases refused

theorem attempt_accepted (accepted : (M.attempt s c).2 = none) :
    ∃ r, M.step s c = .ok ((M.attempt s c).1, r) := by
  cases answer : M.step s c with
  | error e =>
    rw [attempt_error answer] at accepted
    cases accepted
  | ok next =>
    rw [attempt_ok answer]
    exact ⟨next.2, rfl⟩

theorem Reachable.attempt (reach : M.Reachable s) (c : κ) : M.Reachable (M.attempt s c).1 := by
  cases answer : M.step s c with
  | error e =>
    rw [attempt_error answer]
    exact reach
  | ok next =>
    rw [attempt_ok answer]
    exact reach.step answer

/-- The two commands are answered alike in either order and leave related states. -/
structure Commute (M : Machine σ κ ρ ε) (R : σ → σ → Prop) (c d : κ) (s : σ) : Prop where
  first : (M.attempt (M.attempt s d).1 c).2 = (M.attempt s c).2
  second : (M.attempt (M.attempt s c).1 d).2 = (M.attempt s d).2
  meet : R (M.attempt (M.attempt s c).1 d).1 (M.attempt (M.attempt s d).1 c).1

/-- Related states answer every command alike and stay related. -/
def Respects (M : Machine σ κ ρ ε) (R : σ → σ → Prop) : Prop :=
  ∀ s t c, R s t → (M.attempt s c).2 = (M.attempt t c).2 ∧ R (M.attempt s c).1 (M.attempt t c).1

variable {R : σ → σ → Prop}

/-- Once neither command changes the answer to the other, only two accepted commands have to meet. -/
theorem Commute.of_accepted (refl : ∀ s, R s s)
    (first : (M.attempt (M.attempt s d).1 c).2 = (M.attempt s c).2)
    (second : (M.attempt (M.attempt s c).1 d).2 = (M.attempt s d).2)
    (meet : ∀ {s₁ r₁ s₂ r₂}, M.step s c = .ok (s₁, r₁) → M.step s d = .ok (s₂, r₂) →
      R (M.attempt s₁ d).1 (M.attempt s₂ c).1) : M.Commute R c d s := by
  refine ⟨first, second, ?_⟩
  cases here : M.step s c with
  | error e =>
    have refused := attempt_error here
    rw [refused] at first ⊢
    rw [attempt_refused first]
    exact refl _
  | ok next =>
    cases there : M.step s d with
    | error e =>
      have refused := attempt_error there
      rw [refused] at second ⊢
      rw [attempt_refused second]
      exact refl _
    | ok next' =>
      rw [attempt_ok here, attempt_ok there]
      exact meet here there

theorem Respects.attempts (respects : M.Respects R) (related : R s t) (cs : List κ) :
    (M.attempts s cs).2 = (M.attempts t cs).2 ∧ R (M.attempts s cs).1 (M.attempts t cs).1 := by
  induction cs generalizing s t with
  | nil => exact ⟨rfl, related⟩
  | cons c cs ih =>
    obtain ⟨answer, next⟩ := respects s t c related
    obtain ⟨answers, last⟩ := ih next
    exact ⟨by rw [Machine.attempts, Machine.attempts, answer, answers], last⟩

/-- Commands that commute wherever an invariant holds may be given in any order. -/
theorem attempts_perm {inv : σ → Prop} (keep : ∀ s c, inv s → inv (M.attempt s c).1)
    (refl : ∀ s, R s s) (trans : ∀ {s t u}, R s t → R t u → R s u) (respects : M.Respects R)
    {apart : κ → κ → Prop} (symm : ∀ {c d}, apart c d → apart d c)
    (commute : ∀ s c d, inv s → apart c d → M.Commute R c d s) {cs ds : List κ} (perm : cs.Perm ds)
    (pairwise : cs.Pairwise apart) (holds : inv s) :
    R (M.attempts s cs).1 (M.attempts s ds).1 ∧ (M.attempts s cs).2.Perm (M.attempts s ds).2 := by
  induction perm generalizing s with
  | nil => exact ⟨refl _, .rfl⟩
  | cons c _ ih =>
    obtain ⟨states, answers⟩ := ih (List.pairwise_cons.mp pairwise).2 (keep s c holds)
    exact ⟨states, answers.cons _⟩
  | swap c d cs =>
    have apart := (List.pairwise_cons.mp pairwise).1 c List.mem_cons_self
    obtain ⟨first, second, meet⟩ := commute s d c holds apart
    obtain ⟨answers, states⟩ := respects.attempts meet cs
    refine ⟨states, ?_⟩
    simp only [Machine.attempts, first, second, answers]
    exact .swap _ _ _
  | trans perm _ ih ih' =>
    obtain ⟨states, answers⟩ := ih pairwise holds
    obtain ⟨states', answers'⟩ := ih' ((perm.pairwise_iff symm).mp pairwise) holds
    exact ⟨trans states states', answers.trans answers'⟩

end Machine
