import Einsof.Tzimtzum.State

namespace Tzimtzum

variable {AgentId ToolId InvocationId CapKind EgressKind ChallengeId AttestationId CrossingId
  AssignmentDigest PolicyDigest ContentHash : Type}

/-- A permitted record. A bypassed one still counts in the speculative labels, but claims no gate. -/
def contained (J : PendingInvocation AgentId ToolId CapKind EgressKind AttestationId PolicyDigest) : Prop :=
  J.disposition = .permitted

section Invariants

variable (s : St AgentId ToolId InvocationId CapKind EgressKind ChallengeId AttestationId CrossingId
  AssignmentDigest PolicyDigest ContentHash)

/-- Clearance confinement reads this filtered set, while admission reads all pending records. -/
def speculativeTaintContained (a : AgentId) (l : ConfLevel) : Prop :=
  s.taintLevels a l ∨ ∃ I J, s.pending I = some J ∧ J.agent = a ∧ contained J ∧ J.policy.outputConf = l

def rootAlwaysActive : Prop :=
  s.agentActive s.rootAgent

def parentImpliesActive : Prop :=
  ∀ C P, s.agentParent C P → s.agentActive C

def singleParent : Prop :=
  ∀ C P₁ P₂, s.agentParent C P₁ → s.agentParent C P₂ → s.agentActive C → P₁ = P₂

def noSelfParent : Prop :=
  ∀ A, ¬ s.agentParent A A

def rootNoParent : Prop :=
  ∀ P, ¬ s.agentParent s.rootAgent P

/-- The active parent excludes revoked parents, whose capabilities are gone. -/
def capabilitySubsumption : Prop :=
  ∀ C P, s.agentParent C P → s.agentActive C → s.agentActive P → ∀ cap, s.agentCap C cap → s.agentCap P cap

def rootAllCaps : Prop :=
  ∀ C, s.agentCap s.rootAgent C

/-- The consumed histories are not owned by agents and stay. -/
def revocationClean : Prop :=
  ∀ A, ¬ s.agentActive A →
    (∀ L, ¬ s.taintLevels A L) ∧ (∀ Li, ¬ s.integLevels A Li) ∧
    (∀ I J, s.pending I = some J → J.agent ≠ A) ∧ (∀ I sc, s.challenges I = some sc → sc.agent ≠ A) ∧
    ∀ D, s.crossingGrants A D = none

def pendingActive : Prop :=
  ∀ I J, s.pending I = some J → s.agentActive J.agent

def pendingUnique : Prop :=
  ∀ I J₁ J₂, s.pending I = some J₁ → s.pending I = some J₂ → J₁ = J₂

def pendingRegistered : Prop :=
  ∀ I J, s.pending I = some J → s.toolRegistered J.policy.tool

def rootNoPending : Prop :=
  ∀ I J, s.pending I = some J → J.agent ≠ s.rootAgent

def pendingIdsConsumed : Prop :=
  ∀ I J, s.pending I = some J → s.consumedIds I

def pendingEgressAttested : Prop :=
  ∀ I J, s.pending I = some J →
    (∀ E, J.egress E → J.policy.declaredEgress E) ∧
      ((∃ E, J.policy.declaredEgress E) → ∃ E, J.egress E)

def pendingSnapshotCoherent : Prop :=
  ∀ I J, s.pending I = some J → leInteg J.policy.integInspect J.policy.integFloor

def defaultDeny : Prop :=
  ∀ I J, s.pending I = some J → contained J →
    J.authorized ∧ ∀ C, J.policy.requiredCaps C → s.agentCap J.agent C

def flowConfinement : Prop :=
  ∀ L I J E, s.taintLevels J.agent L → s.pending I = some J → contained J → J.egress E →
    s.flowAllows L E ∨ (s.flowInspects L E ∧ vouched J)

def flowConfinementWeak : Prop :=
  ∀ L I J E, s.taintLevels J.agent L → s.pending I = some J → contained J → J.egress E →
    s.flowAllows L E ∨ s.flowInspects L E

def integrityConfinement : Prop :=
  ∀ L I J, s.integLevels J.agent L → s.pending I = some J → contained J →
    integAllows L J.policy ∨ (integInspects L J.policy ∧ vouched J)

def integrityConfinementWeak : Prop :=
  ∀ L I J, s.integLevels J.agent L → s.pending I = some J → contained J →
    integAllows L J.policy ∨ integInspects L J.policy

def clearanceConfinement : Prop :=
  ∀ L I J, s.pending I = some J → contained J → speculativeTaintContained s J.agent L →
    clearanceAdmits L J.policy

def pendingFlowCompat : Prop :=
  ∀ I₁ I₂ J₁ J₂ E, s.pending I₁ = some J₁ → s.pending I₂ = some J₂ → J₁.agent = J₂.agent →
    contained J₁ → contained J₂ → J₂.egress E →
    s.flowAllows J₁.policy.outputConf E ∨ (s.flowInspects J₁.policy.outputConf E ∧ vouched J₂)

def pendingIntegCompat : Prop :=
  ∀ I₁ I₂ J₁ J₂, s.pending I₁ = some J₁ → s.pending I₂ = some J₂ → J₁.agent = J₂.agent →
    contained J₁ → contained J₂ →
    integAllows J₁.policy.outputInteg J₂.policy ∨
      (integInspects J₁.policy.outputInteg J₂.policy ∧ vouched J₂)

def challengeScoped : Prop :=
  ∀ I sc, s.challenges I = some sc →
    s.pending I = none ∧ s.consumedIds I ∧ s.agentActive sc.agent ∧ sc.agent ≠ s.rootAgent ∧
    s.toolRegistered sc.policy.tool ∧ leInteg sc.policy.integInspect sc.policy.integFloor ∧
    (∀ E, sc.egress E → sc.policy.declaredEgress E) ∧
    ((∃ E, sc.policy.declaredEgress E) → ∃ E, sc.egress E)

def challengesEnforceOnly : Prop :=
  ∀ I sc, s.challenges I = some sc → s.mode = .enforce

def challengeUnique : Prop :=
  ∀ I sc₁ sc₂, s.challenges I = some sc₁ → s.challenges I = some sc₂ → sc₁ = sc₂

def inspectedEvidenceConsumed : Prop :=
  ∀ I J att, s.pending I = some J → J.admission = .inspected att → s.consumedAttestations att

def bypassModeSound : Prop :=
  ∀ I J, s.pending I = some J →
    (¬ contained J → s.mode = .monitor) ∧ (J.admission = .bypassed → s.mode = .monitor)

def quarantinePending : Prop :=
  ∀ I J, s.pending I = some J → J.quarantined → ∃ K, s.pending I = some K ∧ K.quarantined

def grantBounded : Prop :=
  ∀ A D g, s.crossingGrants A D = some g → g.remaining ≤ g.provisioned

def grantActive : Prop :=
  ∀ A D g, s.crossingGrants A D = some g → s.agentActive A

def grantPinned : Prop :=
  ∀ A D g₁ g₂, s.crossingGrants A D = some g₁ → s.crossingGrants A D = some g₂ → g₁ = g₂

/-- The agent tree. -/
structure InvS : Prop where
  rootAlwaysActive : rootAlwaysActive s
  parentImpliesActive : parentImpliesActive s
  singleParent : singleParent s
  noSelfParent : noSelfParent s
  rootNoParent : rootNoParent s
  capabilitySubsumption : capabilitySubsumption s
  rootAllCaps : rootAllCaps s
  revocationClean : revocationClean s
  pendingActive : pendingActive s

/-- Pending records and their gates. -/
structure InvP : Prop where
  pendingUnique : pendingUnique s
  pendingRegistered : pendingRegistered s
  rootNoPending : rootNoPending s
  pendingIdsConsumed : pendingIdsConsumed s
  pendingEgressAttested : pendingEgressAttested s
  pendingSnapshotCoherent : pendingSnapshotCoherent s
  defaultDeny : defaultDeny s
  flowConfinement : flowConfinement s
  flowConfinementWeak : flowConfinementWeak s
  integrityConfinement : integrityConfinement s
  integrityConfinementWeak : integrityConfinementWeak s
  clearanceConfinement : clearanceConfinement s

structure InvPP : Prop where
  pendingFlowCompat : pendingFlowCompat s
  pendingIntegCompat : pendingIntegCompat s

structure InvE : Prop where
  challengeScoped : challengeScoped s
  challengesEnforceOnly : challengesEnforceOnly s
  challengeUnique : challengeUnique s
  inspectedEvidenceConsumed : inspectedEvidenceConsumed s
  bypassModeSound : bypassModeSound s
  quarantinePending : quarantinePending s

structure InvC : Prop where
  grantBounded : grantBounded s
  grantActive : grantActive s
  grantPinned : grantPinned s

structure AllInv : Prop where
  toInvS : InvS s
  toInvP : InvP s
  toInvPP : InvPP s
  toInvE : InvE s
  toInvC : InvC s

end Invariants

end Tzimtzum
