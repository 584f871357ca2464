import Einsof.Kernel.Commands

namespace Argus

/-- The wire background; a ceiling map answers `none` for a missing key. -/
structure BackgroundN where
  mode : Mode
  allowCeiling : EgressKind → Option (Option ConfLevel)
  inspectCeiling : EgressKind → Option (Option ConfLevel)

def EgressKind.all : List EgressKind := [.networkExternal, .networkInternal, .filesystemWrite, .ipc]

theorem EgressKind.mem_all (e : EgressKind) : e ∈ EgressKind.all := by
  cases e <;> decide

def BackgroundN.intoKernel (bg : BackgroundN) : BackgroundTheory :=
  EgressKind.all.foldl (fun builder e => builder.setEgressCeilings e (bg.allowCeiling e).join
    (bg.inspectCeiling e).join) (BackgroundTheory.builder.setMode bg.mode)

structure ActionPolicySnapshotN where
  tool : String
  requiredCaps : List CapKind
  confClearance : ConfLevel
  integFloor : IntegLevel
  integInspect : IntegLevel
  outputConf : ConfLevel
  outputInteg : IntegLevel
  declaredEgress : List EgressKind
  policyDigest : String
  deriving DecidableEq

def ActionPolicySnapshotN.intoKernel (policy : ActionPolicySnapshotN) : ActionPolicySnapshot where
  tool := ⟨policy.tool⟩
  requiredCaps := VecSet.fromIter policy.requiredCaps
  confClearance := policy.confClearance
  integFloor := policy.integFloor
  integInspect := policy.integInspect
  outputConf := policy.outputConf
  outputInteg := policy.outputInteg
  declaredEgress := VecSet.fromIter policy.declaredEgress
  policyDigest := ⟨policy.policyDigest⟩

structure InspectionAttestationN where
  id : String
  inv : String
  challenge : String
  argsHash : String
  policyDigest : String
  positive : Bool
  deriving DecidableEq

def InspectionAttestationN.intoKernel (x : InspectionAttestationN) : InspectionAttestation :=
  ⟨⟨x.id⟩, ⟨x.inv⟩, ⟨x.challenge⟩, ⟨x.argsHash⟩, ⟨x.policyDigest⟩, x.positive⟩

structure ResolutionAttestationN where
  id : String
  inv : String
  outcome : Outcome
  deriving DecidableEq

def ResolutionAttestationN.intoKernel (x : ResolutionAttestationN) : ResolutionAttestation :=
  ⟨⟨x.id⟩, ⟨x.inv⟩, x.outcome⟩

structure ConformanceAttestationN where
  id : String
  output : String
  src : String
  rcv : String
  descriptor : String
  assignment : String
  positive : Bool
  deriving DecidableEq

def ConformanceAttestationN.intoKernel (x : ConformanceAttestationN) : ConformanceAttestation :=
  ⟨⟨x.id⟩, ⟨x.output⟩, ⟨x.src⟩, ⟨x.rcv⟩, ⟨x.descriptor⟩, ⟨x.assignment⟩, x.positive⟩

structure CrossInputN where
  src : String
  rcv : String
  crossing : String
  outputHash : String
  descriptor : String
  fallback : Fallback
  tInteg : IntegLevel
  tConf : Option ConfLevel
  assignment : String
  evidence : Option ConformanceAttestationN
  releasedConf : ConfLevel
  releasedInteg : IntegLevel
  deriving DecidableEq

def CrossInputN.intoKernel (q : CrossInputN) : CrossInput where
  src := ⟨q.src⟩
  rcv := ⟨q.rcv⟩
  crossing := ⟨q.crossing⟩
  outputHash := ⟨q.outputHash⟩
  descriptor := ⟨q.descriptor⟩
  fallback := q.fallback
  tInteg := q.tInteg
  tConf := q.tConf
  assignment := ⟨q.assignment⟩
  evidence := q.evidence.map ConformanceAttestationN.intoKernel
  releasedConf := q.releasedConf
  releasedInteg := q.releasedInteg

/-- A command as it crosses the wire: ids are strings, sets are lists in the caller's order. -/
inductive CommandN
  | registerTool (tool : String)
  | unregisterTool (tool : String)
  | delegate (grantor grantee : String)
  | grantCapability (parent child : String) (cap : CapKind)
  | grantCrossing (grantor agent assignment : String) (n : UInt32)
  | revoke (parent target : String)
  | cascadeRevoke (child parent : String)
  | ingest (agent : String) (src : Option String) (pconf : ConfLevel) (pinteg : IntegLevel)
  | beginInvocation (agent inv challenge : String) (policy : ActionPolicySnapshotN)
      (egress : List EgressKind) (argsHash : String) (authorized : Bool)
  | authorizeInspected (inv : String) (attestation : InspectionAttestationN)
  | settleInvocation (inv : String) (outcome : Outcome) (resolution : Option ResolutionAttestationN)
  | crossOutput (input : CrossInputN)
  deriving DecidableEq

inductive ActionN
  | registerTool (tool : String)
  | unregisterTool (tool : String)
  | delegate (grantor grantee : String)
  | grantCapability (parent child : String) (cap : CapKind)
  | grantCrossing (grantor agent assignment : String) (n : UInt32)
  | revoke (parent target : String)
  | cascadeRevoke (child parent : String)
  | ingest (agent : String) (src : Option String) (pconf : ConfLevel) (pinteg : IntegLevel)
      (disposition : Disposition)
  | beginInvocation (agent inv tool : String) (verdict : Verdict) (authorized : Bool)
  | authorizeInspected (inv attestation : String) (admitted : Bool)
  | settleInvocation (inv agent : String) (disposition : Disposition) (outcome : Outcome)
      (clvl : ConfLevel) (ilvl : IntegLevel) (resolution : Option String)
  | crossOutput (src rcv crossing : String) (branch : CrossBranch) (disposition : Disposition)
  deriving DecidableEq

def ActionN.fromKernel : KernelAction → ActionN
  | .registerTool tool => .registerTool tool.val
  | .unregisterTool tool => .unregisterTool tool.val
  | .delegate grantor grantee => .delegate grantor.val grantee.val
  | .grantCapability parent child cap => .grantCapability parent.val child.val cap
  | .grantCrossing grantor agent assignment n => .grantCrossing grantor.val agent.val assignment.val n
  | .revoke parent target => .revoke parent.val target.val
  | .cascadeRevoke child parent => .cascadeRevoke child.val parent.val
  | .ingest agent src pconf pinteg disposition =>
    .ingest agent.val (src.map (·.val)) pconf pinteg disposition
  | .beginInvocation agent inv tool verdict authorized =>
    .beginInvocation agent.val inv.val tool.val verdict authorized
  | .authorizeInspected inv attestation admitted => .authorizeInspected inv.val attestation.val admitted
  | .settleInvocation inv agent disposition outcome clvl ilvl resolution =>
    .settleInvocation inv.val agent.val disposition outcome clvl ilvl (resolution.map (·.val))
  | .crossOutput src rcv crossing branch disposition =>
    .crossOutput src.val rcv.val crossing.val branch disposition

def CommandN.intoKernel : CommandN → KernelCommand
  | .registerTool tool => .registerTool ⟨tool⟩
  | .unregisterTool tool => .unregisterTool ⟨tool⟩
  | .delegate grantor grantee => .delegate ⟨grantor⟩ ⟨grantee⟩
  | .grantCapability parent child cap => .grantCapability ⟨parent⟩ ⟨child⟩ cap
  | .grantCrossing grantor agent assignment n => .grantCrossing ⟨grantor⟩ ⟨agent⟩ ⟨assignment⟩ n
  | .revoke parent target => .revoke ⟨parent⟩ ⟨target⟩
  | .cascadeRevoke child parent => .cascadeRevoke ⟨child⟩ ⟨parent⟩
  | .ingest agent src pconf pinteg => .ingest ⟨agent⟩ (src.map AgentId.mk) pconf pinteg
  | .beginInvocation agent inv challenge policy egress argsHash authorized =>
    .beginInvocation ⟨agent⟩ ⟨inv⟩ ⟨challenge⟩ policy.intoKernel (VecSet.fromIter egress) ⟨argsHash⟩
      authorized
  | .authorizeInspected inv attestation => .authorizeInspected ⟨inv⟩ attestation.intoKernel
  | .settleInvocation inv outcome resolution =>
    .settleInvocation ⟨inv⟩ outcome (resolution.map ResolutionAttestationN.intoKernel)
  | .crossOutput input => .crossOutput input.intoKernel

/-- Decode the arguments, run the transition, encode the recorded action. -/
def CommandN.apply (command : CommandN) (state : KernelState) (background : BackgroundTheory) :
    Except KernelError (KernelState × ActionN) :=
  (command.intoKernel.apply background state).map fun (next, action) => (next, ActionN.fromKernel action)

structure DigestN where
  bytes : Vector UInt8 32
  deriving DecidableEq

structure EnvelopeN where
  version : UInt32
  sequence : UInt64
  previousDigest : DigestN
  digest : DigestN
  command : CommandN
  action : ActionN
  deriving DecidableEq

structure ChainN where
  version : UInt32
  sequence : UInt64
  head : DigestN
  deriving DecidableEq

inductive ErrorN
  | kernel (cause : KernelError)
  | instanceBusy
  | resourcePoisoned
  | capacityExceeded
  | sequenceExhausted
  | invalidVersion
  | sequenceMismatch
  | previousDigestMismatch
  | actionMismatch
  | digestMismatch
  | replayRefused (cause : KernelError)
  | recoveryConsumed
  | finalAnchorMismatch
  deriving DecidableEq, Repr

theorem CommandN.apply_ok {command : CommandN} {state next : KernelState} {background : BackgroundTheory}
    {action : ActionN} : command.apply state background = .ok (next, action) ↔
      ∃ r, command.intoKernel.apply background state = .ok (next, r) ∧ ActionN.fromKernel r = action := by
  unfold CommandN.apply
  cases command.intoKernel.apply background state with
  | error e => simp [Except.map]
  | ok result =>
    rcases result with ⟨s', r⟩
    simp [Except.map, and_assoc]

end Argus
