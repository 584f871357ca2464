import Einsof.Base.Machine

namespace Machine

variable {σ κ ρ ε β : Type*}

/-- Each accepted record moves the view, whatever the command and the rest of the state. -/
def Sourced (M : Machine σ κ ρ ε) (view : σ → β) (record : β → ρ → β) : Prop :=
  ∀ s c s' r, M.step s c = .ok (s', r) → view s' = record (view s) r

variable {M M' : Machine σ κ ρ ε} {view : σ → β} {record : β → ρ → β} {history history' : List (κ × ρ)}
  {s s' : σ}

theorem Sourced.run (sourced : M.Sourced view record) (run : M.Run history s) :
    view s = (history.map Prod.snd).foldl record (view M.start) := by
  induction run with
  | start => rfl
  | step run accepted ih =>
    rw [sourced _ _ _ _ accepted, ih, List.map_append, List.foldl_append]
    rfl

theorem Sourced.alike (sourced : M.Sourced view record) (sourced' : M'.Sourced view record)
    (start : view M.start = view M'.start) (run : M.Run history s) (run' : M'.Run history' s')
    (records : history.map Prod.snd = history'.map Prod.snd) : view s = view s' := by
  rw [sourced.run run, sourced'.run run', records, start]

end Machine
