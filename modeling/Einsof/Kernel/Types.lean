import Einsof.Kernel.Collections

namespace Argus

/-- Agent identity. `root` is the distinguished operator-plane agent. -/
structure AgentId where
  val : String
  deriving DecidableEq, Repr

/-- Composite exact tool identity (entry id, version and code hash together). -/
structure ToolId where
  val : String
  deriving DecidableEq, Repr

structure InvocationId where
  val : String
  deriving DecidableEq, Repr

structure ChallengeId where
  val : String
  deriving DecidableEq, Repr

structure AttestationId where
  val : String
  deriving DecidableEq, Repr

structure CrossingId where
  val : String
  deriving DecidableEq, Repr

structure AssignmentDigest where
  val : String
  deriving DecidableEq, Repr

structure PolicyDigest where
  val : String
  deriving DecidableEq, Repr

structure ContentHash where
  val : String
  deriving DecidableEq, Repr

def AgentId.root : AgentId := ⟨"root"⟩

inductive ConfLevel
  | «public»
  | «internal»
  | sensitive
  | restricted
  deriving DecidableEq, Repr

namespace ConfLevel

def rank : ConfLevel → Nat
  | .«public» => 0
  | .«internal» => 1
  | .sensitive => 2
  | .restricted => 3

def le (a b : ConfLevel) : Bool := a.rank ≤ b.rank

instance : LE ConfLevel := ⟨fun a b => a.le b = true⟩

instance (a b : ConfLevel) : Decidable (a ≤ b) := inferInstanceAs (Decidable (a.le b = true))

@[simp] theorem le_iff {a b : ConfLevel} : a.le b = true ↔ a ≤ b := Iff.rfl

theorem le_iff_rank {a b : ConfLevel} : a ≤ b ↔ a.rank ≤ b.rank := by
  rw [← le_iff, le, decide_eq_true_eq]

theorem rank_injective {a b : ConfLevel} (same : a.rank = b.rank) : a = b := by
  cases a <;> cases b <;> first | rfl | cases same

theorem le_antisymm {a b : ConfLevel} (up : a ≤ b) (down : b ≤ a) : a = b :=
  rank_injective (Nat.le_antisymm (le_iff_rank.mp up) (le_iff_rank.mp down))

theorem le_refl (a : ConfLevel) : a ≤ a := le_iff_rank.mpr (Nat.le_refl _)

end ConfLevel

/-- The dual label dimension: it falls as an agent ingests untrusted content. -/
inductive IntegLevel
  | untrusted
  | standard
  | trusted
  | attested
  deriving DecidableEq, Repr

namespace IntegLevel

def rank : IntegLevel → Nat
  | .untrusted => 0
  | .standard => 1
  | .trusted => 2
  | .attested => 3

def le (a b : IntegLevel) : Bool := a.rank ≤ b.rank

instance : LE IntegLevel := ⟨fun a b => a.le b = true⟩

instance (a b : IntegLevel) : Decidable (a ≤ b) := inferInstanceAs (Decidable (a.le b = true))

@[simp] theorem le_iff {a b : IntegLevel} : a.le b = true ↔ a ≤ b := Iff.rfl

theorem le_iff_rank {a b : IntegLevel} : a ≤ b ↔ a.rank ≤ b.rank := by
  rw [← le_iff, le, decide_eq_true_eq]

end IntegLevel

inductive EgressKind
  | networkExternal
  | networkInternal
  | filesystemWrite
  | ipc
  deriving DecidableEq, Repr

inductive CapKind
  | filesystemRead
  | filesystemWrite
  | filesystemDelete
  | networkEgress
  | networkIngress
  | executionShell
  | executionCode
  | credentials
  | systemInfo
  | systemModify
  | clipboard
  | browserNavigate
  | databaseRead
  | databaseWrite
  | ipc
  deriving DecidableEq, Repr

def CapKind.all : List CapKind :=
  [.filesystemRead, .filesystemWrite, .filesystemDelete, .networkEgress, .networkIngress,
    .executionShell, .executionCode, .credentials, .systemInfo, .systemModify, .clipboard,
    .browserNavigate, .databaseRead, .databaseWrite, .ipc]

theorem CapKind.mem_all (c : CapKind) : c ∈ CapKind.all := by
  cases c <;> decide

inductive Verdict
  | allow
  | inspectionRequired
  | deny
  deriving DecidableEq, Repr

inductive Disposition
  | permitted
  | blocked
  | monitorBypassed
  deriving DecidableEq, Repr

inductive Mode
  | enforce
  | monitor
  deriving DecidableEq, Repr

inductive Outcome
  | success
  | failure
  | ambiguous
  deriving DecidableEq, Repr

inductive Fallback
  | fail
  | releaseUnendorsed
  deriving DecidableEq, Repr

/-- How a pending invocation was admitted: evidence, never authority. -/
inductive Admission
  | plain
  | inspected (attestation : AttestationId)
  | bypassed
  deriving DecidableEq, Repr

inductive CrossBranch
  | endorsed
  | unendorsed
  | fail
  deriving DecidableEq, Repr

structure CrossingGrant where
  remaining : UInt32
  provisioned : UInt32
  deriving DecidableEq, Repr

structure CrossingKey where
  agent : AgentId
  assignment : AssignmentDigest
  deriving DecidableEq, Repr

structure ActionPolicySnapshot where
  tool : ToolId
  requiredCaps : VecSet CapKind
  confClearance : ConfLevel
  integFloor : IntegLevel
  integInspect : IntegLevel
  outputConf : ConfLevel
  outputInteg : IntegLevel
  declaredEgress : VecSet EgressKind
  policyDigest : PolicyDigest
  deriving DecidableEq

structure PendingInvocation where
  agent : AgentId
  policy : ActionPolicySnapshot
  egress : VecSet EgressKind
  admission : Admission
  disposition : Disposition
  authorized : Bool
  quarantined : Bool
  deriving DecidableEq

namespace PendingInvocation

/-- A record is vouched exactly when its admission stores an inspection attestation. -/
def vouched (j : PendingInvocation) : Bool :=
  match j.admission with
  | .inspected _ => true
  | _ => false

theorem vouched_iff {j : PendingInvocation} :
    j.vouched = true ↔ ∃ attestation, j.admission = .inspected attestation := by
  unfold vouched
  cases j.admission <;> simp

end PendingInvocation

structure ChallengeScope where
  challenge : ChallengeId
  agent : AgentId
  policy : ActionPolicySnapshot
  egress : VecSet EgressKind
  argsHash : ContentHash
  authorized : Bool
  deriving DecidableEq

structure ResolutionAttestation where
  id : AttestationId
  inv : InvocationId
  outcome : Outcome
  deriving DecidableEq

structure InspectionAttestation where
  id : AttestationId
  inv : InvocationId
  challenge : ChallengeId
  argsHash : ContentHash
  policyDigest : PolicyDigest
  positive : Bool
  deriving DecidableEq

structure ConformanceAttestation where
  id : AttestationId
  output : ContentHash
  src : AgentId
  rcv : AgentId
  descriptor : ContentHash
  assignment : AssignmentDigest
  positive : Bool
  deriving DecidableEq

structure CrossInput where
  src : AgentId
  rcv : AgentId
  crossing : CrossingId
  outputHash : ContentHash
  descriptor : ContentHash
  fallback : Fallback
  /-- Assignment: max target integrity. -/
  tInteg : IntegLevel
  /-- Assignment: most-public target confidentiality; `some` iff the contract declassifies. -/
  tConf : Option ConfLevel
  assignment : AssignmentDigest
  evidence : Option ConformanceAttestation
  releasedConf : ConfLevel
  releasedInteg : IntegLevel
  deriving DecidableEq

inductive KernelError
  | toolAlreadyRegistered
  | toolNotRegistered
  | toolInUse
  | agentInactive
  | agentAlreadyActive
  | rootNotAllowed
  | notDirectChild
  | parentStillActive
  | agentHasChildren
  | capabilityMissing
  | notRoot
  | invocationExists
  | invocationReplayed
  | notPending
  | egressNotNarrowing
  | egressNotCovering
  | incoherentPolicy
  | challengeAlreadyOpen
  | clearanceDenied
  | flowGateBlocked
  | authorizerDenied
  | integrityFloorDenied
  | pairwiseConflict
  | challengeNotOpen
  | challengeScopeMismatch
  | attestationConsumed
  | inspectionNegative
  | blockedPending
  | notQuarantined
  | quarantineResolutionRequired
  | resolutionAttestationInvalid
  | ingestHoldFailed
  | provenanceNotDominated
  | crossingReplayed
  | grantMissing
  | grantExhausted
  | sourceInFlight
  | crossingBoundViolated
  | crossingHoldFailed
  | eventStore
  deriving DecidableEq, Repr

inductive KernelAction
  | registerTool (tool : ToolId)
  | unregisterTool (tool : ToolId)
  | delegate (grantor grantee : AgentId)
  | grantCapability (parent child : AgentId) (cap : CapKind)
  | grantCrossing (grantor agent : AgentId) (assignment : AssignmentDigest) (n : UInt32)
  | revoke (parent target : AgentId)
  | cascadeRevoke (child parent : AgentId)
  | ingest (agent : AgentId) (src : Option AgentId) (pconf : ConfLevel) (pinteg : IntegLevel)
      (disposition : Disposition)
  | settleInvocation (inv : InvocationId) (agent : AgentId) (disposition : Disposition)
      (outcome : Outcome) (clvl : ConfLevel) (ilvl : IntegLevel) (resolution : Option AttestationId)
  | beginInvocation (agent : AgentId) (inv : InvocationId) (tool : ToolId) (verdict : Verdict)
      (authorized : Bool)
  | authorizeInspected (inv : InvocationId) (attestation : AttestationId) (admitted : Bool)
  | crossOutput (src rcv : AgentId) (crossing : CrossingId) (branch : CrossBranch)
      (disposition : Disposition)
  deriving DecidableEq, Repr

end Argus
