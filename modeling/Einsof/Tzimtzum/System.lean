import Einsof.Tzimtzum.Actions

namespace Kav

open Tzimtzum (Action)

variable {σ : Type}

structure TransitionSystem (σ : Type) where
  init : σ → Prop
  actions : List (String × Action σ)

inductive Reachable (ts : TransitionSystem σ) : σ → Prop
  | init {s : σ} (start : ts.init s) : Reachable ts s
  | step {s s' : σ} {name : String} {act : Action σ} (registered : (name, act) ∈ ts.actions)
      (reach : Reachable ts s) (enabled : act.guard s) (moves : act.next s s') : Reachable ts s'

/-- What every initial state satisfies and every registered action keeps holds throughout. -/
theorem Reachable.sound {ts : TransitionSystem σ} (inv : σ → Prop) (initial : ∀ s, ts.init s → inv s)
    (keep : ∀ na ∈ ts.actions, ∀ s s', inv s → na.2.guard s → na.2.next s s' → inv s') {s : σ}
    (reach : Reachable ts s) : inv s := by
  induction reach with
  | init start => exact initial _ start
  | step registered _ enabled moves ih => exact keep _ registered _ _ ih enabled moves

/-- An action whose parameters are closed existentially. -/
def close1 {α : Type} (f : α → Action σ) : Action σ where
  guard s := ∃ a, (f a).guard s
  next s s' := ∃ a, (f a).guard s ∧ (f a).next s s'

def close2 {α β : Type} (f : α → β → Action σ) : Action σ where
  guard s := ∃ a b, (f a b).guard s
  next s s' := ∃ a b, (f a b).guard s ∧ (f a b).next s s'

def close3 {α β γ : Type} (f : α → β → γ → Action σ) : Action σ where
  guard s := ∃ a b c, (f a b c).guard s
  next s s' := ∃ a b c, (f a b c).guard s ∧ (f a b c).next s s'

def close4 {α β γ δ : Type} (f : α → β → γ → δ → Action σ) : Action σ where
  guard s := ∃ a b c d, (f a b c d).guard s
  next s s' := ∃ a b c d, (f a b c d).guard s ∧ (f a b c d).next s s'

def close5 {α β γ δ ε : Type} (f : α → β → γ → δ → ε → Action σ) : Action σ where
  guard s := ∃ a b c d e, (f a b c d e).guard s
  next s s' := ∃ a b c d e, (f a b c d e).guard s ∧ (f a b c d e).next s s'

def close7 {α β γ δ ε ζ η : Type} (f : α → β → γ → δ → ε → ζ → η → Action σ) : Action σ where
  guard s := ∃ a b c d e f' g, (f a b c d e f' g).guard s
  next s s' := ∃ a b c d e f' g, (f a b c d e f' g).guard s ∧ (f a b c d e f' g).next s s'

def close8 {α β γ δ ε ζ η θ : Type} (f : α → β → γ → δ → ε → ζ → η → θ → Action σ) : Action σ where
  guard s := ∃ a b c d e f' g h, (f a b c d e f' g h).guard s
  next s s' := ∃ a b c d e f' g h, (f a b c d e f' g h).guard s ∧ (f a b c d e f' g h).next s s'

end Kav

namespace Tzimtzum

open Kav

variable (AgentId ToolId InvocationId CapKind EgressKind ChallengeId AttestationId CrossingId
  AssignmentDigest PolicyDigest ContentHash : Type)

/-- The protocol: the twelve actions, their parameters closed. -/
noncomputable def system : TransitionSystem (St AgentId ToolId InvocationId CapKind EgressKind ChallengeId
    AttestationId CrossingId AssignmentDigest PolicyDigest ContentHash) where
  init := initial
  actions := [
    ("register_tool", close1 registerTool),
    ("unregister_tool", close1 unregisterTool),
    ("delegate", close2 delegate),
    ("grant_capability", close3 grantCapability),
    ("grant_crossing", close4 grantCrossing),
    ("revoke", close2 revoke),
    ("cascade_revoke", close2 cascadeRevoke),
    ("ingest", close5 ingest),
    ("begin_invocation", close8 beginInvocation),
    ("authorize_inspected", close4 authorizeInspected),
    ("settle_invocation", close7 settleInvocation),
    ("cross_output", close3 crossOutput)]

end Tzimtzum
