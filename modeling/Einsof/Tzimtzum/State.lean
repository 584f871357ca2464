import Mathlib.Logic.Basic

namespace Tzimtzum

inductive ConfLevel
  | «public»
  | «internal»
  | sensitive
  | restricted
  deriving DecidableEq, Repr

def confRank : ConfLevel → Nat
  | .«public» => 0
  | .«internal» => 1
  | .sensitive => 2
  | .restricted => 3

def leConf (a b : ConfLevel) : Prop := confRank a ≤ confRank b

inductive IntegLevel
  | untrusted
  | standard
  | trusted
  | attested
  deriving DecidableEq, Repr

def integRank : IntegLevel → Nat
  | .untrusted => 0
  | .standard => 1
  | .trusted => 2
  | .attested => 3

def leInteg (a b : IntegLevel) : Prop := integRank a ≤ integRank b

inductive Verdict
  | allow
  | inspectionRequired
  | deny
  deriving DecidableEq, Repr

inductive Disposition
  | permitted
  | blocked
  | monitorBypassed
  deriving DecidableEq, Repr

inductive Mode
  | enforce
  | monitor
  deriving DecidableEq, Repr

inductive Outcome
  | success
  | failure
  | ambiguous
  deriving DecidableEq, Repr

inductive Fallback
  | fail
  | releaseUnendorsed
  deriving DecidableEq, Repr

inductive Admission (AttestationId : Type)
  | plain
  | inspected (att : AttestationId)
  | bypassed

structure CrossingGrant where
  remaining : Nat
  provisioned : Nat

structure ActionPolicySnapshot (ToolId CapKind EgressKind PolicyDigest : Type) where
  tool : ToolId
  requiredCaps : CapKind → Prop
  confClearance : ConfLevel
  integFloor : IntegLevel
  integInspect : IntegLevel
  outputConf : ConfLevel
  outputInteg : IntegLevel
  declaredEgress : EgressKind → Prop
  policyDigest : PolicyDigest

structure PendingInvocation (AgentId ToolId CapKind EgressKind AttestationId PolicyDigest : Type) where
  agent : AgentId
  policy : ActionPolicySnapshot ToolId CapKind EgressKind PolicyDigest
  egress : EgressKind → Prop
  admission : Admission AttestationId
  disposition : Disposition
  authorized : Prop
  quarantined : Prop

structure ChallengeScope
    (AgentId ToolId CapKind EgressKind ChallengeId PolicyDigest ContentHash : Type) where
  challenge : ChallengeId
  agent : AgentId
  policy : ActionPolicySnapshot ToolId CapKind EgressKind PolicyDigest
  egress : EgressKind → Prop
  argsHash : ContentHash
  authorized : Prop

/-- The specification state. Every set is a predicate; the ceilings, the mode and the root are
    immutable background. -/
@[ext] structure St (AgentId ToolId InvocationId CapKind EgressKind ChallengeId AttestationId CrossingId
    AssignmentDigest PolicyDigest ContentHash : Type) where
  agentActive : AgentId → Prop
  agentParent : AgentId → AgentId → Prop
  agentCap : AgentId → CapKind → Prop
  taintLevels : AgentId → ConfLevel → Prop
  integLevels : AgentId → IntegLevel → Prop
  pending : InvocationId →
    Option (PendingInvocation AgentId ToolId CapKind EgressKind AttestationId PolicyDigest)
  challenges : InvocationId →
    Option (ChallengeScope AgentId ToolId CapKind EgressKind ChallengeId PolicyDigest ContentHash)
  consumedIds : InvocationId → Prop
  consumedAttestations : AttestationId → Prop
  consumedCrossings : CrossingId → Prop
  crossingGrants : AgentId → AssignmentDigest → Option CrossingGrant
  toolRegistered : ToolId → Prop
  egressAllowCeiling : EgressKind → Option ConfLevel
  egressInspectCeiling : EgressKind → Option ConfLevel
  mode : Mode
  rootAgent : AgentId

variable {AgentId ToolId InvocationId CapKind EgressKind ChallengeId AttestationId CrossingId
  AssignmentDigest PolicyDigest ContentHash : Type}

/-- A level is at or below the ceiling of an egress kind; no ceiling admits nothing. -/
def ceilingAdmits (f : EgressKind → Option ConfLevel) (l : ConfLevel) (e : EgressKind) : Prop :=
  ∃ c, f e = some c ∧ leConf l c

def St.flowAllows (s : St AgentId ToolId InvocationId CapKind EgressKind ChallengeId AttestationId
    CrossingId AssignmentDigest PolicyDigest ContentHash) (l : ConfLevel) (e : EgressKind) : Prop :=
  ceilingAdmits s.egressAllowCeiling l e

def St.flowInspects (s : St AgentId ToolId InvocationId CapKind EgressKind ChallengeId AttestationId
    CrossingId AssignmentDigest PolicyDigest ContentHash) (l : ConfLevel) (e : EgressKind) : Prop :=
  ceilingAdmits s.egressInspectCeiling l e

def integAllows (l : IntegLevel) (p : ActionPolicySnapshot ToolId CapKind EgressKind PolicyDigest) : Prop :=
  leInteg p.integFloor l

def integInspects (l : IntegLevel) (p : ActionPolicySnapshot ToolId CapKind EgressKind PolicyDigest) :
    Prop :=
  leInteg p.integInspect l

def clearanceAdmits (l : ConfLevel) (p : ActionPolicySnapshot ToolId CapKind EgressKind PolicyDigest) :
    Prop :=
  leConf l p.confClearance

def vouched (J : PendingInvocation AgentId ToolId CapKind EgressKind AttestationId PolicyDigest) : Prop :=
  ∃ att, J.admission = .inspected att

def speculativeTaint (s : St AgentId ToolId InvocationId CapKind EgressKind ChallengeId AttestationId
    CrossingId AssignmentDigest PolicyDigest ContentHash) (a : AgentId) (l : ConfLevel) : Prop :=
  s.taintLevels a l ∨ ∃ I J, s.pending I = some J ∧ J.agent = a ∧ J.policy.outputConf = l

def speculativeInteg (s : St AgentId ToolId InvocationId CapKind EgressKind ChallengeId AttestationId
    CrossingId AssignmentDigest PolicyDigest ContentHash) (a : AgentId) (l : IntegLevel) : Prop :=
  s.integLevels a l ∨ ∃ I J, s.pending I = some J ∧ J.agent = a ∧ J.policy.outputInteg = l

def initial (s : St AgentId ToolId InvocationId CapKind EgressKind ChallengeId AttestationId
    CrossingId AssignmentDigest PolicyDigest ContentHash) : Prop :=
  (∀ A, s.agentActive A ↔ A = s.rootAgent) ∧
  (∀ A B, ¬ s.agentParent A B) ∧
  (∀ A C, s.agentCap A C ↔ A = s.rootAgent) ∧
  (∀ A L, ¬ s.taintLevels A L) ∧
  (∀ A L, ¬ s.integLevels A L) ∧
  (∀ I, s.pending I = none) ∧
  (∀ I, s.challenges I = none) ∧
  (∀ I, ¬ s.consumedIds I) ∧
  (∀ Att, ¬ s.consumedAttestations Att) ∧
  (∀ X, ¬ s.consumedCrossings X) ∧
  (∀ A D, s.crossingGrants A D = none) ∧
  ∀ T, ¬ s.toolRegistered T

section Updates

open Classical

noncomputable def dropPendingOf (p : InvocationId →
      Option (PendingInvocation AgentId ToolId CapKind EgressKind AttestationId PolicyDigest))
    (a : AgentId) : InvocationId →
      Option (PendingInvocation AgentId ToolId CapKind EgressKind AttestationId PolicyDigest) :=
  fun I => match p I with
    | some J => if J.agent = a then none else some J
    | none => none

noncomputable def dropChallengesOf (c : InvocationId →
      Option (ChallengeScope AgentId ToolId CapKind EgressKind ChallengeId PolicyDigest ContentHash))
    (a : AgentId) : InvocationId →
      Option (ChallengeScope AgentId ToolId CapKind EgressKind ChallengeId PolicyDigest ContentHash) :=
  fun I => match c I with
    | some sc => if sc.agent = a then none else some sc
    | none => none

noncomputable def dropGrantsOf (g : AgentId → AssignmentDigest → Option CrossingGrant) (a : AgentId) :
    AgentId → AssignmentDigest → Option CrossingGrant :=
  fun A D => if A = a then none else g A D

/-- Demote every pending record owned by `a`; the admission stays, it is history. -/
noncomputable def demoteAllOf (p : InvocationId →
      Option (PendingInvocation AgentId ToolId CapKind EgressKind AttestationId PolicyDigest))
    (a : AgentId) : InvocationId →
      Option (PendingInvocation AgentId ToolId CapKind EgressKind AttestationId PolicyDigest) :=
  fun I => match p I with
    | some J => if J.agent = a then some { J with disposition := .monitorBypassed } else some J
    | none => none

noncomputable def settleAt (p : InvocationId →
      Option (PendingInvocation AgentId ToolId CapKind EgressKind AttestationId PolicyDigest))
    (inv : InvocationId) (outcome : Outcome) : InvocationId →
      Option (PendingInvocation AgentId ToolId CapKind EgressKind AttestationId PolicyDigest) :=
  fun I =>
    if I = inv then
      match p I with
      | some J => if outcome = .ambiguous then some { J with quarantined := True } else none
      | none => none
    else p I

noncomputable def decrementGrantAt (g : AgentId → AssignmentDigest → Option CrossingGrant) (a : AgentId)
    (d : AssignmentDigest) : AgentId → AssignmentDigest → Option CrossingGrant :=
  fun A D =>
    if A = a ∧ D = d then
      match g A D with
      | some cg => some { cg with remaining := cg.remaining - 1 }
      | none => none
    else g A D

end Updates

end Tzimtzum
