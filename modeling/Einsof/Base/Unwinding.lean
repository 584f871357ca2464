import Einsof.Base.Fallible
import Einsof.Base.Machine

/-! What one party can tell of the commands of another from the answers to its own. -/

namespace Machine

open Fallible (Alike)

variable {σ κ ρ ε : Type}

/-- One command with its answer in full; a refused command leaves the state as it is. -/
def respond (M : Machine σ κ ρ ε) (s : σ) (c : κ) : σ × Except ε ρ :=
  match M.step s c with
  | .ok (s', r) => (s', .ok r)
  | .error e => (s, .error e)

/-- The state after a list of commands, with the answer to each of them. -/
def responds (M : Machine σ κ ρ ε) : σ → List κ → σ × List (κ × Except ε ρ)
  | s, [] => (s, [])
  | s, c :: cs =>
    ((M.responds (M.respond s c).1 cs).1,
      (c, (M.respond s c).2) :: (M.responds (M.respond s c).1 cs).2)

variable {M : Machine σ κ ρ ε} {s s' t : σ} {c : κ} {inv : σ → Prop} {seen : σ → σ → Prop}
  {foreign : κ → Prop}

theorem respond_ok {r : ρ} (accepted : M.step s c = .ok (s', r)) : M.respond s c = (s', .ok r) := by
  rw [respond, accepted]

theorem respond_error {e : ε} (refused : M.step s c = .error e) : M.respond s c = (s, .error e) := by
  rw [respond, refused]

theorem respond_keep (keep : ∀ {s' r}, M.step s c = .ok (s', r) → inv s') (holds : inv s) :
    inv (M.respond s c).1 := by
  cases answer : M.step s c with
  | error e =>
    rw [respond_error answer]
    exact holds
  | ok next =>
    rw [respond_ok answer]
    exact keep answer

theorem respond_alike
    (alike : Alike (fun x y : σ × ρ => seen x.1 y.1 ∧ x.2 = y.2) (M.step s c) (M.step t c))
    (related : seen s t) :
    (M.respond s c).2 = (M.respond t c).2 ∧ seen (M.respond s c).1 (M.respond t c).1 := by
  unfold Machine.respond
  generalize M.step s c = here, M.step t c = there at alike
  cases alike with
  | error e => exact ⟨rfl, related⟩
  | ok next => exact ⟨congrArg Except.ok next.2, next.1⟩

/-- A view that related states answer alike on a party's own commands, and that no foreign command
    changes. -/
structure Unwinding (M : Machine σ κ ρ ε) (inv : σ → Prop) (seen : σ → σ → Prop) (own foreign : κ → Prop) :
    Prop where
  keep : ∀ {s c s' r}, inv s → own c ∨ foreign c → M.step s c = .ok (s', r) → inv s'
  agree : ∀ {s t c}, inv s → inv t → seen s t → own c →
    Alike (fun x y => seen x.1 y.1 ∧ x.2 = y.2) (M.step s c) (M.step t c)
  hide : ∀ {s t c s' r}, inv s → seen s t → foreign c → M.step s c = .ok (s', r) → seen s' t

variable {own : κ → Bool} {cs ds : List κ}

theorem responds_own (mine : own c = true) : (M.responds s (c :: cs)).2.filter (own ·.1) =
    (c, (M.respond s c).2) :: (M.responds (M.respond s c).1 cs).2.filter (own ·.1) := by
  simp [responds, mine]

theorem responds_foreign (other : own c = false) : (M.responds s (c :: cs)).2.filter (own ·.1) =
    (M.responds (M.respond s c).1 cs).2.filter (own ·.1) := by
  simp [responds, other]

/-- Foreign commands can be struck from a list: the party is answered as before and sees as before. -/
theorem Unwinding.purge (unwinding : M.Unwinding inv seen (own · = true) foreign)
    (sorted : ∀ c ∈ cs, own c = true ∨ foreign c) (here : inv s) (there : inv t) (related : seen s t) :
    (M.responds s cs).2.filter (own ·.1) = (M.responds t (cs.filter own)).2 ∧
      seen (M.responds s cs).1 (M.responds t (cs.filter own)).1 := by
  induction cs generalizing s t with
  | nil => exact ⟨rfl, related⟩
  | cons c cs ih =>
    have later : ∀ d ∈ cs, own d = true ∨ foreign d := fun d member => sorted d (.tail _ member)
    have kept := respond_keep (unwinding.keep here (sorted c List.mem_cons_self)) here
    cases mine : own c with
    | true =>
      obtain ⟨answer, next⟩ := respond_alike (unwinding.agree here there related mine) related
      have kept' := respond_keep (unwinding.keep there (.inl mine)) there
      obtain ⟨answers, last⟩ := ih later kept kept' next
      rw [responds_own mine, List.filter_cons_of_pos mine, answer, answers]
      exact ⟨rfl, last⟩
    | false =>
      have other := (sorted c List.mem_cons_self).resolve_left (by simp [mine])
      have next : seen (M.respond s c).1 t := by
        cases answer : M.step s c with
        | error e =>
          rw [respond_error answer]
          exact related
        | ok moved =>
          rw [respond_ok answer]
          exact unwinding.hide here related other answer
      obtain ⟨answers, last⟩ := ih later kept there next
      rw [responds_foreign mine, List.filter_cons_of_neg (by simp [mine])]
      exact ⟨answers, last⟩

/-- Two interleavings of the same own commands with any foreign ones are told apart by no answer. -/
theorem Unwinding.interleave (unwinding : M.Unwinding inv seen (own · = true) foreign)
    (symm : ∀ {s t}, seen s t → seen t s) (trans : ∀ {s t u}, seen s t → seen t u → seen s u)
    (sorted : ∀ c ∈ cs, own c = true ∨ foreign c) (sorted' : ∀ d ∈ ds, own d = true ∨ foreign d)
    (same : cs.filter own = ds.filter own) (here : inv s) (there : inv t) (related : seen s t) :
    (M.responds s cs).2.filter (own ·.1) = (M.responds t ds).2.filter (own ·.1) ∧
      seen (M.responds s cs).1 (M.responds t ds).1 := by
  obtain ⟨answers, view⟩ := unwinding.purge sorted here there related
  obtain ⟨answers', view'⟩ := unwinding.purge sorted' there there (trans (symm related) related)
  rw [same] at answers view
  exact ⟨answers.trans answers'.symm, trans view (symm view')⟩

end Machine
