import Einsof.Native.Chain

namespace Argus

inductive AdmissionN
  | plain
  | inspected (attestation : String)
  | bypassed
  deriving DecidableEq

def AdmissionN.fromKernel : Admission → AdmissionN
  | .plain => .plain
  | .inspected attestation => .inspected attestation.val
  | .bypassed => .bypassed

structure PendingInvocationN where
  agent : String
  policy : ActionPolicySnapshotN
  egress : List EgressKind
  admission : AdmissionN
  disposition : Disposition
  authorized : Bool
  quarantined : Bool
  deriving DecidableEq

structure ChallengeScopeN where
  challenge : String
  agent : String
  policy : ActionPolicySnapshotN
  egress : List EgressKind
  argsHash : String
  authorized : Bool
  deriving DecidableEq

/-- The observed state: every collection as a list in canonical order. -/
structure StateN where
  agentActive : List String
  agentParent : List (String × String)
  agentCap : List (String × List CapKind)
  taintLevels : List (String × List ConfLevel)
  integLevels : List (String × List IntegLevel)
  pending : List (String × PendingInvocationN)
  challenges : List (String × ChallengeScopeN)
  consumedIds : List String
  consumedAttestations : List String
  consumedCrossings : List String
  crossingGrants : List ((String × String) × CrossingGrant)
  toolRegistered : List String
  deriving DecidableEq

def bytesLe (left right : String) : Prop :=
  left.toByteArray.data.toList ≤ right.toByteArray.data.toList

instance : DecidableRel bytesLe := fun left right =>
  inferInstanceAs (Decidable (left.toByteArray.data.toList ≤ right.toByteArray.data.toList))

def sortStrings (values : List String) : List String := values.insertionSort bytesLe

def sortStringMap {V : Type} (values : List (String × V)) : List (String × V) :=
  values.insertionSort fun left right => bytesLe left.1 right.1

def sortByTag {T : Type} [CanonicalTag T] (values : List T) : List T :=
  values.insertionSort fun left right => canonicalTag left ≤ canonicalTag right

def policyFromKernel (policy : ActionPolicySnapshot) : ActionPolicySnapshotN where
  tool := policy.tool.val
  requiredCaps := sortByTag policy.requiredCaps.items
  confClearance := policy.confClearance
  integFloor := policy.integFloor
  integInspect := policy.integInspect
  outputConf := policy.outputConf
  outputInteg := policy.outputInteg
  declaredEgress := sortByTag policy.declaredEgress.items
  policyDigest := policy.policyDigest.val

def pendingFromKernel (pending : PendingInvocation) : PendingInvocationN where
  agent := pending.agent.val
  policy := policyFromKernel pending.policy
  egress := sortByTag pending.egress.items
  admission := AdmissionN.fromKernel pending.admission
  disposition := pending.disposition
  authorized := pending.authorized
  quarantined := pending.quarantined

def challengeFromKernel (challenge : ChallengeScope) : ChallengeScopeN where
  challenge := challenge.challenge.val
  agent := challenge.agent.val
  policy := policyFromKernel challenge.policy
  egress := sortByTag challenge.egress.items
  argsHash := challenge.argsHash.val
  authorized := challenge.authorized

def StateN.fromKernel (state : KernelState) : StateN where
  agentActive := sortStrings (state.agentActive.items.map (·.val))
  agentParent := sortStringMap (state.agentParent.entries.map fun (child, parent) => (child.val, parent.val))
  agentCap := sortStringMap (state.agentCap.entries.map fun (agent, caps) =>
    (agent.val, sortByTag caps.items))
  taintLevels := sortStringMap (state.taintLevels.entries.map fun (agent, levels) =>
    (agent.val, sortByTag levels.items))
  integLevels := sortStringMap (state.integLevels.entries.map fun (agent, levels) =>
    (agent.val, sortByTag levels.items))
  pending := sortStringMap (state.pending.entries.map fun (inv, pending) =>
    (inv.val, pendingFromKernel pending))
  challenges := sortStringMap (state.challenges.entries.map fun (inv, challenge) =>
    (inv.val, challengeFromKernel challenge))
  consumedIds := sortStrings (state.consumedIds.items.map (·.val))
  consumedAttestations := sortStrings (state.consumedAttestations.items.map (·.val))
  consumedCrossings := sortStrings (state.consumedCrossings.items.map (·.val))
  crossingGrants := (state.crossingGrants.entries.map fun (key, grant) =>
      ((key.agent.val, key.assignment.val), grant)).insertionSort fun left right =>
    left.1.1 ≠ right.1.1 ∧ bytesLe left.1.1 right.1.1 ∨
      left.1.1 = right.1.1 ∧ bytesLe left.1.2 right.1.2
  toolRegistered := sortStrings (state.toolRegistered.items.map (·.val))

end Argus
