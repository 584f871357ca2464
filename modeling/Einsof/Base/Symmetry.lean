import Einsof.Base.Schedule

/-! Machines that look the same under a translation of their states, commands and records. -/

namespace Machine

variable {σ σ' κ κ' ρ ρ' ε : Type*} {M : Machine σ κ ρ ε} {M' : Machine σ' κ' ρ' ε} {state : σ → σ'}
  {command : κ → κ'} {record : ρ → ρ'}

/-- Translated commands take translated states where the commands take the states, with translated
    records and the same refusals. -/
structure Carries (M : Machine σ κ ρ ε) (M' : Machine σ' κ' ρ' ε) (state : σ → σ') (command : κ → κ')
    (record : ρ → ρ') : Prop where
  start : M'.start = state M.start
  step : ∀ s c, M'.step (state s) (command c) =
    (M.step s c).map fun next => (state next.1, record next.2)

theorem Carries.attempt (carries : M.Carries M' state command record) (s : σ) (c : κ) :
    M'.attempt (state s) (command c) =
      (state (M.attempt s c).1, (M.attempt s c).2) := by
  have step := carries.step s c
  cases answer : M.step s c with
  | error e =>
    rw [answer] at step
    rw [attempt_error answer, attempt_error step]
  | ok next =>
    rw [answer] at step
    rw [attempt_ok answer, attempt_ok step]

theorem Carries.attempts (carries : M.Carries M' state command record) (s : σ) (cs : List κ) :
    M'.attempts (state s) (cs.map command) =
      (state (M.attempts s cs).1, (M.attempts s cs).2.map fun answer => (command answer.1, answer.2)) := by
  induction cs generalizing s with
  | nil => rfl
  | cons c cs ih =>
    rw [List.map_cons, Machine.attempts, carries.attempt, ih]
    rfl

theorem Carries.run (carries : M.Carries M' state command record) {history : List (κ × ρ)} {s : σ}
    (run : M.Run history s) :
    M'.Run (history.map fun entry => (command entry.1, record entry.2)) (state s) := by
  induction run with
  | start => exact carries.start ▸ .start
  | step run accepted ih =>
    rw [List.map_append]
    refine ih.step ?_
    rw [carries.step, accepted]
    rfl

/-- Symmetries of a machine, with the names that its states, commands and records hold. A name that is
    not fixed can be moved away from any given names while the rest of them stay. -/
structure Naming (M : Machine σ κ ρ ε) (ι ν : Type*) where
  onState : ι → σ → σ
  onCommand : ι → κ → κ
  onRecord : ι → ρ → ρ
  onName : ι → ν → ν
  stateNames : σ → List ν
  commandNames : κ → List ν
  fixed : List ν
  carries : ∀ i, (∀ n ∈ fixed, onName i n = n) → M.Carries M (onState i) (onCommand i) (onRecord i)
  still : ∀ i c, (∀ n ∈ commandNames c, onName i n = n) → onCommand i c = c
  stateNames_on : ∀ i s, stateNames (onState i s) = (stateNames s).map (onName i)
  free : ∀ n ∉ fixed, ∀ used : List ν, ∃ i, onName i n ∉ used ∧ ∀ m ∈ used, m ≠ n → onName i m = m

namespace Naming

variable {ι ν : Type*} (N : M.Naming ι ν) {history : List (κ × ρ)} {s : σ}

/-- Fixed, or in a command of the history. -/
def Given (history : List (κ × ρ)) (n : ν) : Prop :=
  n ∈ N.fixed ∨ ∃ entry ∈ history, n ∈ N.commandNames entry.1

/-- A symmetry that keeps the given names keeps the state a run leads to. -/
theorem unmoved {i : ι} (kept : ∀ n, N.Given history n → N.onName i n = n) (run : M.Run history s) :
    N.onState i s = s := by
  have carries := N.carries i fun n fixed => kept n (.inl fixed)
  induction run with
  | start => exact carries.start.symm
  | @step history s s' c r run accepted ih =>
    have same := ih fun n given => kept n
      (given.imp_right fun found => found.imp fun _ facts => ⟨List.mem_append_left _ facts.1, facts.2⟩)
    have command : N.onCommand i c = c :=
      N.still i c fun n named => kept n (.inr ⟨(c, r), by simp, named⟩)
    have step := carries.step s c
    rw [command, same, accepted] at step
    obtain ⟨state, -⟩ := Prod.mk.injEq _ _ _ _ ▸ Except.ok.inj step
    exact state.symm

/-- What no symmetry that keeps the given names can move holds given names only: another one could be
    moved away. -/
theorem given_of_unmoved {held : List ν}
    (unmoved : ∀ i, (∀ n, N.Given history n → N.onName i n = n) → held.map (N.onName i) = held) {n : ν}
    (member : n ∈ held) : N.Given history n := by
  by_contra unnamed
  obtain ⟨i, away, rest⟩ := N.free n (fun fixed => unnamed (.inl fixed))
    (N.fixed ++ history.flatMap (fun entry => N.commandNames entry.1) ++ held)
  have kept : ∀ m, N.Given history m → N.onName i m = m := by
    intro m given
    refine rest m ?_ fun same => unnamed (same ▸ given)
    rcases given with fixed | ⟨entry, found, named⟩
    · simp [fixed]
    · exact List.mem_append_left _ (List.mem_append_right _ (List.mem_flatMap.mpr ⟨entry, found, named⟩))
  have moved : N.onName i n ∈ held := unmoved i kept ▸ List.mem_map_of_mem member
  exact away (List.mem_append_right _ moved)

theorem state_given (run : M.Run history s) {n : ν} (member : n ∈ N.stateNames s) : N.Given history n := by
  refine N.given_of_unmoved ?_ member
  intro i kept
  rw [← N.stateNames_on, N.unmoved kept run]

end Naming

end Machine
