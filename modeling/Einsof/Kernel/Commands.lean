import Einsof.Base.Machine
import Einsof.Kernel.Gates

namespace Argus

/-- One of the twelve transitions with its inputs. -/
inductive KernelCommand
  | registerTool (tool : ToolId)
  | unregisterTool (tool : ToolId)
  | delegate (grantor grantee : AgentId)
  | grantCapability (parent child : AgentId) (cap : CapKind)
  | grantCrossing (grantor agent : AgentId) (assignment : AssignmentDigest) (n : UInt32)
  | revoke (parent target : AgentId)
  | cascadeRevoke (child parent : AgentId)
  | ingest (a : AgentId) (src : Option AgentId) (pconf : ConfLevel) (pinteg : IntegLevel)
  | settleInvocation (inv : InvocationId) (outcome : Outcome) (att : Option ResolutionAttestation)
  | beginInvocation (a : AgentId) (inv : InvocationId) (chal : ChallengeId)
      (snap : ActionPolicySnapshot) (egr : VecSet EgressKind) (ah : ContentHash) (authorized : Bool)
  | authorizeInspected (inv : InvocationId) (att : InspectionAttestation)
  | crossOutput (q : CrossInput)
  deriving DecidableEq

def KernelCommand.apply (bg : BackgroundTheory) (s : KernelState) :
    KernelCommand → Except KernelError (KernelState × KernelAction)
  | .registerTool tool => Argus.registerTool s tool
  | .unregisterTool tool => Argus.unregisterTool s tool
  | .delegate grantor grantee => Argus.delegate s bg grantor grantee
  | .grantCapability parent child cap => Argus.grantCapability s parent child cap
  | .grantCrossing grantor agent assignment n => Argus.grantCrossing s bg grantor agent assignment n
  | .revoke parent target => Argus.revoke s bg parent target
  | .cascadeRevoke child parent => Argus.cascadeRevoke s bg child parent
  | .ingest a src pconf pinteg => Argus.ingest s bg a src pconf pinteg
  | .settleInvocation inv outcome att => Argus.settleInvocation s inv outcome att
  | .beginInvocation a inv chal snap egr ah authorized =>
    Argus.beginInvocation s bg a inv chal snap egr ah authorized
  | .authorizeInspected inv att => Argus.authorizeInspected s bg inv att
  | .crossOutput q => Argus.crossOutput s bg q

/-- The kernel under a fixed background, started from its initial state. -/
def kernel (bg : BackgroundTheory) : Machine KernelState KernelCommand KernelAction KernelError where
  start := KernelState.initial
  step := KernelCommand.apply bg

theorem guard_ok {α : Type*} {c : Prop} [Decidable c] {e : KernelError} {x : Except KernelError α}
    {r : α} : (if c then .error e else x) = .ok r ↔ ¬ c ∧ x = .ok r := by
  by_cases h : c <;> simp [h]

theorem commit_ok {s s' : KernelState} {r r' : KernelAction} :
    (Except.ok (s, r) : Except KernelError _) = .ok (s', r') ↔ s' = s ∧ r' = r := by
  rw [Except.ok.injEq, Prod.mk.injEq, eq_comm, eq_comm (a := r)]

variable {s s' : KernelState} {bg : BackgroundTheory} {r : KernelAction}

theorem registerTool_ok {tool : ToolId} : registerTool s tool = .ok (s', r) ↔
    tool ∉ s.toolRegistered ∧
    s' = { s with toolRegistered := s.toolRegistered.insert tool } ∧ r = .registerTool tool := by
  simp only [registerTool, guard_ok, commit_ok, VecSet.contains_iff]

theorem unregisterTool_ok {tool : ToolId} : unregisterTool s tool = .ok (s', r) ↔
    tool ∈ s.toolRegistered ∧
    (∀ i j, s.pending.get i = some j → j.policy.tool ≠ tool) ∧
    (∀ i sc, s.challenges.get i = some sc → sc.policy.tool ≠ tool) ∧
    s' = { s with toolRegistered := s.toolRegistered.remove tool } ∧ r = .unregisterTool tool := by
  simp only [unregisterTool, guard_ok, commit_ok, VecSet.contains_iff, not_not, toolInUse_iff, not_or,
    not_exists, not_and, and_assoc, ne_eq]

theorem delegate_ok {grantor grantee : AgentId} : delegate s bg grantor grantee = .ok (s', r) ↔
    grantor ∈ s.agentActive ∧ grantee ∉ s.agentActive ∧ grantee ≠ bg.rootAgent ∧
    (∀ child, s.agentParent.get child ≠ some grantee) ∧
    s' = enroll s grantor grantee ∧ r = .delegate grantor grantee := by
  simp only [delegate, guard_ok, commit_ok, VecSet.contains_iff, not_not, isParent_iff, not_exists, ne_eq]

theorem grantCapability_ok {parent child : AgentId} {cap : CapKind} :
    grantCapability s parent child cap = .ok (s', r) ↔
      parent ∈ s.agentActive ∧ child ∈ s.agentActive ∧ s.agentParent.get child = some parent ∧
      s.HasCap parent cap ∧ s' = { s with agentCap := s.agentCap.insertInto child cap } ∧
      r = .grantCapability parent child cap := by
  simp only [grantCapability, guard_ok, commit_ok, VecSet.contains_iff, not_not, parentOk_iff,
    VecMap.setContains_iff, KernelState.HasCap]

theorem grantCrossing_ok {grantor agent : AgentId} {assignment : AssignmentDigest} {n : UInt32} :
    grantCrossing s bg grantor agent assignment n = .ok (s', r) ↔
      grantor = bg.rootAgent ∧ grantor ∈ s.agentActive ∧ agent ∈ s.agentActive ∧
      s' = { s with crossingGrants := s.crossingGrants.insert ⟨agent, assignment⟩ ⟨n, n⟩ } ∧
      r = .grantCrossing grantor agent assignment n := by
  simp only [grantCrossing, guard_ok, commit_ok, VecSet.contains_iff, not_not, ne_eq]

theorem revoke_ok {parent target : AgentId} : revoke s bg parent target = .ok (s', r) ↔
    s.agentParent.get target = some parent ∧ parent ∈ s.agentActive ∧ target ∈ s.agentActive ∧
    target ≠ bg.rootAgent ∧ s' = clearAgent s target ∧ r = .revoke parent target := by
  simp only [revoke, guard_ok, commit_ok, VecSet.contains_iff, not_not, parentOk_iff, ne_eq]

theorem cascadeRevoke_ok {child parent : AgentId} : cascadeRevoke s bg child parent = .ok (s', r) ↔
    s.agentParent.get child = some parent ∧ parent ∉ s.agentActive ∧ child ∈ s.agentActive ∧
    child ≠ bg.rootAgent ∧ s' = clearAgent s child ∧ r = .cascadeRevoke child parent := by
  simp only [cascadeRevoke, guard_ok, commit_ok, VecSet.contains_iff, not_not, parentOk_iff, ne_eq]

theorem ingest_ok {a : AgentId} {src : Option AgentId} {l : ConfLevel} {li : IntegLevel} :
    ingest s bg a src l li = .ok (s', r) ↔
      a ∈ s.agentActive ∧
      (∀ b, src = some b → (∀ k, s.Taints b k → k ≤ l) ∧ ∀ k, s.Integs b k → li ≤ k) ∧
      ∃ d, HoldDecides bg (s.PendingOf a (bg.FlowHolds · l) ∧ s.PendingOf a (·.ClearHolds l) ∧
          s.PendingOf a (·.IntegHolds li)) d ∧
        s' = absorb s a l li d ∧ r = .ingest a src l li d := by
  simp only [ingest, guard_ok, VecSet.contains_iff, not_not, dominated_iff, ← ingestHolds_iff,
    ← holdDisposition_eq_some]
  cases holdDisposition bg (ingestHolds s bg a l li) <;>
    simp only [commit_ok, Option.some.injEq, exists_eq_left', reduceCtorEq, false_and, exists_false,
      and_false]

theorem resolutionValid_iff {inv : InvocationId} {outcome : Outcome} {att : Option ResolutionAttestation} :
    resolutionValid s inv outcome att = true ↔
      ∃ x, att = some x ∧ x.inv = inv ∧ x.outcome = outcome ∧ x.id ∉ s.consumedAttestations := by
  cases att <;> simp [resolutionValid, and_assoc]

theorem settleRefusal_eq_none {inv : InvocationId} {outcome : Outcome}
    {att : Option ResolutionAttestation} {j : PendingInvocation} :
    settleRefusal s inv outcome att j = none ↔
      (j.quarantined = true ∧ outcome ≠ .ambiguous ∧ ∃ x, att = some x ∧ x.inv = inv ∧
        x.outcome = outcome ∧ x.id ∉ s.consumedAttestations) ∨
      (j.quarantined = false ∧ att = none) := by
  unfold settleRefusal
  rw [← resolutionValid_iff]
  cases j.quarantined <;> by_cases ambiguous : outcome = .ambiguous <;> simp [ambiguous]

theorem settleInvocation_ok {inv : InvocationId} {outcome : Outcome}
    {att : Option ResolutionAttestation} : settleInvocation s inv outcome att = .ok (s', r) ↔
      ∃ j, s.pending.get inv = some j ∧ j.agent ∈ s.agentActive ∧ j.disposition ≠ .blocked ∧
        ((j.quarantined = true ∧ outcome ≠ .ambiguous ∧ ∃ x, att = some x ∧ x.inv = inv ∧
          x.outcome = outcome ∧ x.id ∉ s.consumedAttestations) ∨
        (j.quarantined = false ∧ att = none)) ∧
        s' = settled s inv outcome att j ∧
        r = .settleInvocation inv j.agent j.disposition outcome j.policy.outputConf j.policy.outputInteg
          (att.map (·.id)) := by
  simp only [settleInvocation, VecMap.getCloned_eq_get, ← settleRefusal_eq_none]
  cases s.pending.get inv with
  | none => simp
  | some j =>
    simp only [guard_ok, VecSet.contains_iff, not_not, Option.some.injEq, exists_eq_left']
    cases settleRefusal s inv outcome att j <;> simp only [commit_ok, reduceCtorEq, true_and, false_and,
      and_false]

structure BeginGuards (s : KernelState) (bg : BackgroundTheory) (a : AgentId) (inv : InvocationId)
    (snap : ActionPolicySnapshot) (egr : VecSet EgressKind) : Prop where
  active : a ∈ s.agentActive
  notRoot : a ≠ bg.rootAgent
  registered : snap.tool ∈ s.toolRegistered
  coherent : snap.integInspect ≤ snap.integFloor
  notPending : s.pending.get inv = none
  fresh : inv ∉ s.consumedIds
  notOpen : s.challenges.get inv = none
  narrows : ∀ e ∈ egr, e ∈ snap.declaredEgress
  covers : (∃ e, e ∈ snap.declaredEgress) → ∃ e, e ∈ egr

theorem refuse_eq_none {c : Prop} [Decidable c] {e : KernelError} {x : Option KernelError} :
    (if c then some e else x) = none ↔ ¬ c ∧ x = none := by
  by_cases h : c <;> simp [h]

theorem beginRefusal_eq_none {a : AgentId} {inv : InvocationId} {snap : ActionPolicySnapshot}
    {egr : VecSet EgressKind} :
    beginRefusal s bg a inv snap egr = none ↔ BeginGuards s bg a inv snap egr := by
  simp only [beginRefusal, refuse_eq_none, VecSet.contains_iff, not_not, VecMap.containsKey_eq,
    egressNarrows_iff, egressCovers_iff, IntegLevel.le_iff, Bool.not_eq_true, Option.isSome_eq_false_iff,
    Option.isNone_iff_eq_none, and_true]
  constructor
  · intro facts
    rcases facts with ⟨h₁, h₂, h₃, h₄, h₅, h₆, h₇, h₈, h₉⟩
    exact ⟨h₁, h₂, h₃, h₄, h₅, h₆, h₇, h₈, h₉⟩
  · intro facts
    rcases facts with ⟨h₁, h₂, h₃, h₄, h₅, h₆, h₇, h₈, h₉⟩
    exact ⟨h₁, h₂, h₃, h₄, h₅, h₆, h₇, h₈, h₉⟩

/-- The effect that a verdict and the mode select. -/
inductive BeginEffect (s : KernelState) (a : AgentId) (inv : InvocationId) (chal : ChallengeId)
    (snap : ActionPolicySnapshot) (egr : VecSet EgressKind) (ah : ContentHash) (authorized : Bool) :
    Verdict → Mode → KernelState → Prop
  | permit (mode : Mode) : BeginEffect s a inv chal snap egr ah authorized .allow mode
      (s.pend inv ⟨a, snap, egr, .plain, .permitted, authorized, false⟩)
  | inspect : BeginEffect s a inv chal snap egr ah authorized .inspectionRequired .enforce
      (s.challenge inv ⟨chal, a, snap, egr, ah, authorized⟩)
  | bypass (verdict : Verdict) (gated : verdict ≠ .allow) :
      BeginEffect s a inv chal snap egr ah authorized verdict .monitor
        (s.pend inv ⟨a, snap, egr, .bypassed, .monitorBypassed, authorized, false⟩)

theorem beginInvocation_ok {a : AgentId} {inv : InvocationId} {chal : ChallengeId}
    {snap : ActionPolicySnapshot} {egr : VecSet EgressKind} {ah : ContentHash} {authorized : Bool} :
    beginInvocation s bg a inv chal snap egr ah authorized = .ok (s', r) ↔
      BeginGuards s bg a inv snap egr ∧
      BeginEffect s a inv chal snap egr ah authorized (beginVerdict s bg a snap egr authorized) bg.mode s' ∧
      r = .beginInvocation a inv snap.tool (beginVerdict s bg a snap egr authorized) authorized := by
  rw [beginInvocation, ← beginRefusal_eq_none]
  cases beginRefusal s bg a inv snap egr with
  | some e => simp
  | none =>
    generalize beginVerdict s bg a snap egr authorized = verdict
    simp only [true_and]
    constructor
    · intro committed
      cases verdict <;> cases mode : bg.mode <;> simp only [mode, commit_ok, reduceCtorEq] at committed
      all_goals rcases committed with ⟨rfl, rfl⟩
      · exact ⟨.permit _, rfl⟩
      · exact ⟨.permit _, rfl⟩
      · exact ⟨.inspect, rfl⟩
      · exact ⟨.bypass _ (by decide), rfl⟩
      · exact ⟨.bypass _ (by decide), rfl⟩
    · intro facts
      rcases facts with ⟨effect, rfl⟩
      generalize bg.mode = mode at effect
      cases effect with
      | permit => rfl
      | inspect => rfl
      | bypass _ gated => cases verdict <;> first | rfl | exact absurd rfl gated

/-- What is checked again of a challenged invocation before the live gate, in any mode. -/
structure AuthorizeGuards (s : KernelState) (bg : BackgroundTheory) (inv : InvocationId)
    (sc : ChallengeScope) : Prop where
  active : sc.agent ∈ s.agentActive
  notRoot : sc.agent ≠ bg.rootAgent
  registered : sc.policy.tool ∈ s.toolRegistered
  coherent : sc.policy.integInspect ≤ sc.policy.integFloor
  notPending : s.pending.get inv = none
  narrows : ∀ e ∈ sc.egress, e ∈ sc.policy.declaredEgress
  covers : (∃ e, e ∈ sc.policy.declaredEgress) → ∃ e, e ∈ sc.egress

theorem authorizeAdmits_iff {inv : InvocationId} {sc : ChallengeScope} :
    authorizeAdmits s bg inv sc = true ↔
      AuthorizeGuards s bg inv sc ∧
      beginAdmissible s bg sc.agent sc.policy sc.egress sc.authorized = true := by
  simp only [authorizeAdmits, Bool.and_eq_true, VecSet.contains_iff, decide_eq_true_eq, ne_eq,
    IntegLevel.le_iff, VecMap.containsKey_eq, Bool.not_eq_true', Option.isSome_eq_false_iff,
    Option.isNone_iff_eq_none, egressNarrows_iff, egressCovers_iff]
  apply and_congr_left'
  constructor
  · intro facts
    rcases facts with ⟨⟨⟨⟨⟨⟨h₁, h₂⟩, h₃⟩, h₄⟩, h₅⟩, h₆⟩, h₇⟩
    exact ⟨h₁, h₂, h₃, h₄, h₅, h₆, h₇⟩
  · intro facts
    rcases facts with ⟨h₁, h₂, h₃, h₄, h₅, h₆, h₇⟩
    exact ⟨⟨⟨⟨⟨⟨h₁, h₂⟩, h₃⟩, h₄⟩, h₅⟩, h₆⟩, h₇⟩

theorem authorizeInspected_ok {inv : InvocationId} {att : InspectionAttestation} :
    authorizeInspected s bg inv att = .ok (s', r) ↔
      ∃ sc, s.challenges.get inv = some sc ∧ scopeMatches inv sc att = true ∧
        att.id ∉ s.consumedAttestations ∧
        s' = resolve s inv sc att.id (att.positive && authorizeAdmits s bg inv sc) ∧
        r = .authorizeInspected inv att.id (att.positive && authorizeAdmits s bg inv sc) := by
  simp only [authorizeInspected, VecMap.getCloned_eq_get]
  cases s.challenges.get inv with
  | none => simp
  | some sc =>
    simp only [guard_ok, commit_ok, VecSet.contains_iff, not_not, Option.some.injEq, exists_eq_left']

theorem crossOutput_ok {q : CrossInput} : crossOutput s bg q = .ok (s', r) ↔
    q.src ∈ s.agentActive ∧ q.rcv ∈ s.agentActive ∧
    (∀ i j, s.pending.get i = some j → j.agent ≠ q.src) ∧ q.crossing ∉ s.consumedCrossings ∧
    (crossBranch s q = .endorsed → crossBound s q = true) ∧
    ∃ d, HoldDecides bg (crossHolds s bg q (crossBranch s q) = true) d ∧
      s' = crossed s q (crossBranch s q) d ∧
      r = .crossOutput q.src q.rcv q.crossing (crossBranch s q) d := by
  simp only [crossOutput, guard_ok, VecSet.contains_iff, not_not, srcInFlight_iff, not_exists, not_and,
    ← holdDisposition_eq_some, ne_eq]
  cases holdDisposition bg (crossHolds s bg q (crossBranch s q)) <;>
    simp only [commit_ok, Option.some.injEq, exists_eq_left', reduceCtorEq, false_and, exists_false,
      and_false]

end Argus
