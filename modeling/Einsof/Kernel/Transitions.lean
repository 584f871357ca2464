import Einsof.Kernel.Background
import Einsof.Kernel.State

namespace Argus

def registerTool (s : KernelState) (tool : ToolId) : Except KernelError (KernelState × KernelAction) :=
  if s.toolRegistered.contains tool then .error .toolAlreadyRegistered else
  .ok ({ s with toolRegistered := s.toolRegistered.insert tool }, .registerTool tool)

def toolInUse (s : KernelState) (tool : ToolId) : Bool :=
  let inUse := s.pending.forEntries false fun inUse _ j => if j.policy.tool = tool then true else inUse
  s.challenges.forEntries inUse fun inUse _ sc => if sc.policy.tool = tool then true else inUse

def unregisterTool (s : KernelState) (tool : ToolId) : Except KernelError (KernelState × KernelAction) :=
  if ¬ s.toolRegistered.contains tool then .error .toolNotRegistered else
  if toolInUse s tool then .error .toolInUse else
  .ok ({ s with toolRegistered := s.toolRegistered.remove tool }, .unregisterTool tool)

def isParent (s : KernelState) (agent : AgentId) : Bool :=
  s.agentParent.forEntries false fun found _ p => if p = agent then true else found

/-- The grantee becomes an active child of the grantor with an empty compartment: every edge not
    touching it is kept, the new edge is added, everything it owned before is dropped. -/
def enroll (s : KernelState) (grantor grantee : AgentId) : KernelState :=
  let kept := s.agentParent.forEntries VecMap.new fun kept child p =>
    if child ≠ grantee ∧ p ≠ grantee then kept.insert child p else kept
  let s := { s with
    agentActive := s.agentActive.insert grantee
    agentParent := kept.insert grantee grantor
    agentCap := s.agentCap.remove grantee
    taintLevels := s.taintLevels.remove grantee
    integLevels := s.integLevels.remove grantee }
  ((s.dropPendingOf grantee).dropChallengesOf grantee).dropGrantsOf grantee

def delegate (s : KernelState) (bg : BackgroundTheory) (grantor grantee : AgentId) :
    Except KernelError (KernelState × KernelAction) :=
  if ¬ s.agentActive.contains grantor then .error .agentInactive else
  if s.agentActive.contains grantee then .error .agentAlreadyActive else
  if grantee = bg.rootAgent then .error .rootNotAllowed else
  if isParent s grantee then .error .agentHasChildren else
  .ok (enroll s grantor grantee, .delegate grantor grantee)

def parentOk (s : KernelState) (child parent : AgentId) : Bool :=
  match s.agentParent.getCloned child with
  | some p => p = parent
  | none => false

def grantCapability (s : KernelState) (parent child : AgentId) (cap : CapKind) :
    Except KernelError (KernelState × KernelAction) :=
  if ¬ s.agentActive.contains parent then .error .agentInactive else
  if ¬ s.agentActive.contains child then .error .agentInactive else
  if ¬ parentOk s child parent then .error .notDirectChild else
  if ¬ s.agentCap.setContains parent cap then .error .capabilityMissing else
  .ok ({ s with agentCap := s.agentCap.insertInto child cap }, .grantCapability parent child cap)

/-- The root-only operator faucet: the grant is set to `n` remaining and provisioned uses. -/
def grantCrossing (s : KernelState) (bg : BackgroundTheory) (grantor agent : AgentId)
    (assignment : AssignmentDigest) (n : UInt32) : Except KernelError (KernelState × KernelAction) :=
  if grantor ≠ bg.rootAgent then .error .notRoot else
  if ¬ s.agentActive.contains grantor then .error .agentInactive else
  if ¬ s.agentActive.contains agent then .error .agentInactive else
  .ok ({ s with crossingGrants := s.crossingGrants.insert ⟨agent, assignment⟩ ⟨n, n⟩ },
    .grantCrossing grantor agent assignment n)

/-- Remove all agent-owned authority and state; `revoke` and `cascadeRevoke` share it. -/
def clearAgent (s : KernelState) (agent : AgentId) : KernelState :=
  let s := { s with
    agentActive := s.agentActive.remove agent
    agentParent := s.agentParent.remove agent
    agentCap := s.agentCap.remove agent
    taintLevels := s.taintLevels.remove agent
    integLevels := s.integLevels.remove agent }
  ((s.dropPendingOf agent).dropChallengesOf agent).dropGrantsOf agent

def revoke (s : KernelState) (bg : BackgroundTheory) (parent target : AgentId) :
    Except KernelError (KernelState × KernelAction) :=
  if ¬ parentOk s target parent then .error .notDirectChild else
  if ¬ s.agentActive.contains parent then .error .agentInactive else
  if ¬ s.agentActive.contains target then .error .agentInactive else
  if target = bg.rootAgent then .error .rootNotAllowed else
  .ok (clearAgent s target, .revoke parent target)

def cascadeRevoke (s : KernelState) (bg : BackgroundTheory) (child parent : AgentId) :
    Except KernelError (KernelState × KernelAction) :=
  if ¬ parentOk s child parent then .error .notDirectChild else
  if s.agentActive.contains parent then .error .parentStillActive else
  if ¬ s.agentActive.contains child then .error .agentInactive else
  if child = bg.rootAgent then .error .rootNotAllowed else
  .ok (clearAgent s child, .cascadeRevoke child parent)

/-- Flow hold for one incoming level against every pending record of `a`: each attested egress channel
    is ALLOW, or INSPECT with the pending party vouched. -/
def ingestConfHold (s : KernelState) (bg : BackgroundTheory) (a : AgentId) (pconf : ConfLevel) : Bool :=
  s.pending.forEntries true fun ok _ j =>
    if j.agent = a then
      j.egress.items.foldl (fun ok eg =>
        if ¬ (bg.flowAllows pconf eg || (bg.flowInspects pconf eg && j.vouched)) then false else ok) ok
    else ok

def ingestClearHold (s : KernelState) (a : AgentId) (pconf : ConfLevel) : Bool :=
  s.pending.forEntries true fun ok _ j =>
    if j.agent = a ∧ ¬ pconf.le j.policy.confClearance then false else ok

def ingestIntegHold (s : KernelState) (a : AgentId) (pinteg : IntegLevel) : Bool :=
  s.pending.forEntries true fun ok _ j =>
    if j.agent = a then
      let allows := j.policy.integFloor.le pinteg
      let inspects := j.policy.integInspect.le pinteg
      if ¬ (allows || (inspects && j.vouched)) then false else ok
    else ok

def ingestHolds (s : KernelState) (bg : BackgroundTheory) (a : AgentId) (pconf : ConfLevel)
    (pinteg : IntegLevel) : Bool :=
  ingestConfHold s bg a pconf && ingestClearHold s a pconf && ingestIntegHold s a pinteg

/-- The declared pair dominates a source agent's held labels in both dimensions. -/
def dominated (s : KernelState) (src : Option AgentId) (pconf : ConfLevel) (pinteg : IntegLevel) : Bool :=
  match src with
  | some srcAgent =>
    let dominated := (s.taintLevels.getSetOrEmpty srcAgent).items.foldl
      (fun ok l => if ¬ l.le pconf then false else ok) true
    (s.integLevels.getSetOrEmpty srcAgent).items.foldl
      (fun ok l => if ¬ pinteg.le l then false else ok) dominated
  | none => true

/-- The enforcement disposition is computed: permitted when the holds pass, monitor-bypassed when they
    fail under monitor mode, otherwise refused. -/
def holdDisposition (bg : BackgroundTheory) (holds : Bool) : Option Disposition :=
  if holds then some .permitted else
  if bg.mode = .monitor then some .monitorBypassed else
  none

def absorb (s : KernelState) (a : AgentId) (pconf : ConfLevel) (pinteg : IntegLevel)
    (disposition : Disposition) : KernelState :=
  let s := { s with
    taintLevels := s.taintLevels.insertInto a pconf
    integLevels := s.integLevels.insertInto a pinteg }
  if disposition = .monitorBypassed then s.demoteAllOf a else s

def ingest (s : KernelState) (bg : BackgroundTheory) (a : AgentId) (src : Option AgentId)
    (pconf : ConfLevel) (pinteg : IntegLevel) : Except KernelError (KernelState × KernelAction) :=
  if ¬ s.agentActive.contains a then .error .agentInactive else
  if ¬ dominated s src pconf pinteg then .error .provenanceNotDominated else
  match holdDisposition bg (ingestHolds s bg a pconf pinteg) with
  | none => .error .ingestHoldFailed
  | some disposition =>
    .ok (absorb s a pconf pinteg disposition, .ingest a src pconf pinteg disposition)

def resolutionValid (s : KernelState) (inv : InvocationId) (outcome : Outcome)
    (att : Option ResolutionAttestation) : Bool :=
  match att with
  | some r => decide (r.inv = inv) && decide (r.outcome = outcome) && !s.consumedAttestations.contains r.id
  | none => false

/-- The attestation rule of a settlement: a quarantined record settles only through a scoped one-use
    resolution and an ordinary outcome, any other record forbids an attestation. -/
def settleRefusal (s : KernelState) (inv : InvocationId) (outcome : Outcome)
    (att : Option ResolutionAttestation) (j : PendingInvocation) : Option KernelError :=
  if j.quarantined then
    if outcome = .ambiguous then some .quarantineResolutionRequired else
    if ¬ resolutionValid s inv outcome att then some .resolutionAttestationInvalid else
    none
  else if att.isSome then some .notQuarantined else none

def settleAt (s : KernelState) (inv : InvocationId) (outcome : Outcome) (j : PendingInvocation) :
    KernelState :=
  { s with pending :=
      if outcome = .ambiguous then s.pending.insert inv { j with quarantined := true }
      else s.pending.remove inv }

def settleAbsorb (s : KernelState) (outcome : Outcome) (j : PendingInvocation) : KernelState :=
  { s with
    taintLevels := if outcome ≠ .ambiguous then s.taintLevels.insertInto j.agent j.policy.outputConf
      else s.taintLevels
    integLevels := if outcome ≠ .ambiguous then s.integLevels.insertInto j.agent j.policy.outputInteg
      else s.integLevels }

/-- The whole effect of a settlement. Settling a record that is not contained demotes the owner's
    remaining permits. -/
def settled (s : KernelState) (inv : InvocationId) (outcome : Outcome)
    (att : Option ResolutionAttestation) (j : PendingInvocation) : KernelState :=
  let s := settleAt s inv outcome j
  let s := if j.disposition ≠ .permitted then s.demoteAllOf j.agent else s
  let s := settleAbsorb s outcome j
  { s with consumedAttestations :=
      match att with
      | some r => s.consumedAttestations.insert r.id
      | none => s.consumedAttestations }

def settleInvocation (s : KernelState) (inv : InvocationId) (outcome : Outcome)
    (att : Option ResolutionAttestation) : Except KernelError (KernelState × KernelAction) :=
  match s.pending.getCloned inv with
  | none => .error .notPending
  | some j =>
    if ¬ s.agentActive.contains j.agent then .error .agentInactive else
    if j.disposition = .blocked then .error .blockedPending else
    match settleRefusal s inv outcome att j with
    | some e => .error e
    | none =>
      .ok (settled s inv outcome att j, .settleInvocation inv j.agent j.disposition outcome
        j.policy.outputConf j.policy.outputInteg (att.map (·.id)))

def checkCapability (s : KernelState) (a : AgentId) (snap : ActionPolicySnapshot) : Bool :=
  snap.requiredCaps.items.foldl (fun ok c => if ¬ s.agentCap.setContains a c then false else ok) true

/-- Speculative taint clears the snapshot clearance, and the new output clears every pending record's
    clearance and its own. -/
def checkClearance (s : KernelState) (a : AgentId) (snap : ActionPolicySnapshot) : Bool :=
  let ok := (s.speculativeTaint a).items.foldl
    (fun ok l => if ¬ l.le snap.confClearance then false else ok) true
  let ok := s.pending.forEntries ok fun ok _ j =>
    if j.agent = a ∧ ¬ snap.outputConf.le j.policy.confClearance then false else ok
  if ¬ snap.outputConf.le snap.confClearance then false else ok

/-- Flow on its ALLOW arm (strict) or its ALLOW-or-INSPECT arm. A pending party's inspect band requires
    that it was vouched. -/
def checkFlow (s : KernelState) (bg : BackgroundTheory) (a : AgentId) (snap : ActionPolicySnapshot)
    (egr : VecSet EgressKind) (strict : Bool) : Bool :=
  let ok := (s.speculativeTaint a).items.foldl (fun ok l =>
    egr.items.foldl (fun ok eg =>
      let pass := if strict then bg.flowAllows l eg else bg.flowAllows l eg || bg.flowInspects l eg
      if ¬ pass then false else ok) ok) true
  let ok := s.pending.forEntries ok fun ok _ j =>
    if j.agent = a then
      j.egress.items.foldl (fun ok eg =>
        let pass := if strict then bg.flowAllows snap.outputConf eg
          else bg.flowAllows snap.outputConf eg || (bg.flowInspects snap.outputConf eg && j.vouched)
        if ¬ pass then false else ok) ok
    else ok
  egr.items.foldl (fun ok eg =>
    let pass := if strict then bg.flowAllows snap.outputConf eg
      else bg.flowAllows snap.outputConf eg || bg.flowInspects snap.outputConf eg
    if ¬ pass then false else ok) ok

def checkInteg (s : KernelState) (a : AgentId) (snap : ActionPolicySnapshot) (strict : Bool) : Bool :=
  let ok := (s.speculativeInteg a).items.foldl (fun ok l =>
    let pass := if strict then snap.integFloor.le l else snap.integFloor.le l || snap.integInspect.le l
    if ¬ pass then false else ok) true
  let ok := s.pending.forEntries ok fun ok _ j =>
    if j.agent = a then
      let pass := if strict then j.policy.integFloor.le snap.outputInteg
        else j.policy.integFloor.le snap.outputInteg ||
          (j.policy.integInspect.le snap.outputInteg && j.vouched)
      if ¬ pass then false else ok
    else ok
  let selfPass := if strict then snap.integFloor.le snap.outputInteg
    else snap.integFloor.le snap.outputInteg || snap.integInspect.le snap.outputInteg
  if ¬ selfPass then false else ok

def egressNarrows (egr declared : VecSet EgressKind) : Bool :=
  egr.items.foldl (fun ok e => if ¬ declared.contains e then false else ok) true

/-- An egress-bearing action may not be admitted on an empty attestation. -/
def egressCovers (declared egr : VecSet EgressKind) : Bool :=
  if declared.isEmpty then true else !egr.isEmpty

def beginAdmissible (s : KernelState) (bg : BackgroundTheory) (a : AgentId) (snap : ActionPolicySnapshot)
    (egr : VecSet EgressKind) (authorized : Bool) : Bool :=
  checkCapability s a snap && authorized && checkClearance s a snap && checkFlow s bg a snap egr false &&
    checkInteg s a snap false

def beginStrict (s : KernelState) (bg : BackgroundTheory) (a : AgentId) (snap : ActionPolicySnapshot)
    (egr : VecSet EgressKind) (authorized : Bool) : Bool :=
  checkCapability s a snap && authorized && checkClearance s a snap && checkFlow s bg a snap egr true &&
    checkInteg s a snap true

def beginVerdict (s : KernelState) (bg : BackgroundTheory) (a : AgentId) (snap : ActionPolicySnapshot)
    (egr : VecSet EgressKind) (authorized : Bool) : Verdict :=
  if beginStrict s bg a snap egr authorized then .allow else
  if beginAdmissible s bg a snap egr authorized then .inspectionRequired else
  .deny

/-- The structural guards of `beginInvocation`, boundary rejections in any mode. -/
def beginRefusal (s : KernelState) (bg : BackgroundTheory) (a : AgentId) (inv : InvocationId)
    (snap : ActionPolicySnapshot) (egr : VecSet EgressKind) : Option KernelError :=
  if ¬ s.agentActive.contains a then some .agentInactive else
  if a = bg.rootAgent then some .rootNotAllowed else
  if ¬ s.toolRegistered.contains snap.tool then some .toolNotRegistered else
  if ¬ snap.integInspect.le snap.integFloor then some .incoherentPolicy else
  if s.pending.containsKey inv then some .invocationExists else
  if s.consumedIds.contains inv then some .invocationReplayed else
  if s.challenges.containsKey inv then some .challengeAlreadyOpen else
  if ¬ egressNarrows egr snap.declaredEgress then some .egressNotNarrowing else
  if ¬ egressCovers snap.declaredEgress egr then some .egressNotCovering else
  none

/-- The most specific admissible sub-check that failed. -/
def denyReason (s : KernelState) (bg : BackgroundTheory) (a : AgentId) (snap : ActionPolicySnapshot)
    (egr : VecSet EgressKind) (authorized : Bool) : KernelError :=
  if ¬ checkCapability s a snap then .capabilityMissing else
  if ¬ authorized then .authorizerDenied else
  if ¬ checkClearance s a snap then .clearanceDenied else
  if ¬ checkFlow s bg a snap egr false then .flowGateBlocked else
  .integrityFloorDenied

def KernelState.pend (s : KernelState) (inv : InvocationId) (j : PendingInvocation) : KernelState :=
  { s with
    pending := s.pending.insert inv j
    consumedIds := s.consumedIds.insert inv }

def KernelState.challenge (s : KernelState) (inv : InvocationId) (sc : ChallengeScope) : KernelState :=
  { s with
    challenges := s.challenges.insert inv sc
    consumedIds := s.consumedIds.insert inv }

def beginInvocation (s : KernelState) (bg : BackgroundTheory) (a : AgentId) (inv : InvocationId)
    (chal : ChallengeId) (snap : ActionPolicySnapshot) (egr : VecSet EgressKind) (ah : ContentHash)
    (authorized : Bool) : Except KernelError (KernelState × KernelAction) :=
  match beginRefusal s bg a inv snap egr with
  | some e => .error e
  | none =>
    let verdict := beginVerdict s bg a snap egr authorized
    let action := KernelAction.beginInvocation a inv snap.tool verdict authorized
    match verdict, bg.mode with
    | .allow, _ => .ok (s.pend inv ⟨a, snap, egr, .plain, .permitted, authorized, false⟩, action)
    | .inspectionRequired, .enforce => .ok (s.challenge inv ⟨chal, a, snap, egr, ah, authorized⟩, action)
    | .inspectionRequired, .monitor | .deny, .monitor =>
      .ok (s.pend inv ⟨a, snap, egr, .bypassed, .monitorBypassed, authorized, false⟩, action)
    | .deny, .enforce => .error (denyReason s bg a snap egr authorized)

/-- The structural conditions and the live admissible gate, re-evaluated against the current state. -/
def authorizeAdmits (s : KernelState) (bg : BackgroundTheory) (inv : InvocationId)
    (sc : ChallengeScope) : Bool :=
  s.agentActive.contains sc.agent && decide (sc.agent ≠ bg.rootAgent) &&
    s.toolRegistered.contains sc.policy.tool && sc.policy.integInspect.le sc.policy.integFloor &&
    !s.pending.containsKey inv && egressNarrows sc.egress sc.policy.declaredEgress &&
    egressCovers sc.policy.declaredEgress sc.egress &&
    beginAdmissible s bg sc.agent sc.policy sc.egress sc.authorized

def scopeMatches (inv : InvocationId) (sc : ChallengeScope) (att : InspectionAttestation) : Bool :=
  att.inv = inv ∧ att.challenge = sc.challenge ∧ att.argsHash = sc.argsHash ∧
    att.policyDigest = sc.policy.policyDigest

/-- The challenge closes and the attestation is consumed, whether or not the record is admitted. -/
def resolve (s : KernelState) (inv : InvocationId) (sc : ChallengeScope) (att : AttestationId)
    (admitted : Bool) : KernelState :=
  { s with
    pending := if admitted then s.pending.insert inv
        ⟨sc.agent, sc.policy, sc.egress, .inspected att, .permitted, sc.authorized, false⟩
      else s.pending
    challenges := s.challenges.remove inv
    consumedAttestations := s.consumedAttestations.insert att }

/-- Scope mismatch and reuse are boundary rejections that leave the challenge open. -/
def authorizeInspected (s : KernelState) (bg : BackgroundTheory) (inv : InvocationId)
    (att : InspectionAttestation) : Except KernelError (KernelState × KernelAction) :=
  match s.challenges.getCloned inv with
  | none => .error .challengeNotOpen
  | some sc =>
    if ¬ scopeMatches inv sc att then .error .challengeScopeMismatch else
    if s.consumedAttestations.contains att.id then .error .attestationConsumed else
    let admitted := att.positive && authorizeAdmits s bg inv sc
    .ok (resolve s inv sc att.id admitted, .authorizeInspected inv att.id admitted)

def evidenceOk (s : KernelState) (q : CrossInput) : Bool :=
  match q.evidence with
  | some e => e.positive && !s.consumedAttestations.contains e.id && decide (e.output = q.outputHash) &&
      decide (e.src = q.src) && decide (e.rcv = q.rcv) && decide (e.descriptor = q.descriptor) &&
      decide (e.assignment = q.assignment)
  | none => false

def endorsedOk (s : KernelState) (q : CrossInput) : Bool :=
  if ¬ evidenceOk s q then false else
  match s.crossingGrants.getCloned ⟨q.rcv, q.assignment⟩ with
  | some g => g.remaining > 0
  | none => false

/-- Receiver-protecting holds: endorsed releases one pair, unendorsed every source label, fail nothing. -/
def crossHolds (s : KernelState) (bg : BackgroundTheory) (q : CrossInput) (branch : CrossBranch) : Bool :=
  match branch with
  | .endorsed => ingestHolds s bg q.rcv q.releasedConf q.releasedInteg
  | .unendorsed =>
    let ok := (s.taintLevels.getSetOrEmpty q.src).items.foldl (fun ok l =>
      if ¬ ingestConfHold s bg q.rcv l ∨ ¬ ingestClearHold s q.rcv l then false else ok) true
    (s.integLevels.getSetOrEmpty q.src).items.foldl (fun ok li =>
      if ¬ ingestIntegHold s q.rcv li then false else ok) ok
  | .fail => true

/-- A source with pending work has speculative labels, so it cannot cross output. -/
def srcInFlight (s : KernelState) (src : AgentId) : Bool :=
  s.pending.forEntries false fun inFlight _ j => if j.agent = src then true else inFlight

def crossBranch (s : KernelState) (q : CrossInput) : CrossBranch :=
  if endorsedOk s q then .endorsed else
  match q.fallback with
  | .releaseUnendorsed => .unendorsed
  | .fail => .fail

def crossBound (s : KernelState) (q : CrossInput) : Bool :=
  if ¬ q.releasedInteg.le q.tInteg then false else
  match q.tConf with
  | some c => q.releasedConf.le c
  | none =>
    -- Non-declassifying: the released level must dominate the source's held taint.
    (s.taintLevels.getSetOrEmpty q.src).items.foldl
      (fun ok l => if ¬ l.le q.releasedConf then false else ok) true

def crossRelease (s : KernelState) (q : CrossInput) (branch : CrossBranch) : KernelState :=
  match branch with
  | .endorsed => { s with
      taintLevels := s.taintLevels.insertInto q.rcv q.releasedConf
      integLevels := s.integLevels.insertInto q.rcv q.releasedInteg }
  | .unendorsed => { s with
      taintLevels := (s.taintLevels.getSetOrEmpty q.src).items.foldl
        (fun m l => m.insertInto q.rcv l) s.taintLevels
      integLevels := (s.integLevels.getSetOrEmpty q.src).items.foldl
        (fun m li => m.insertInto q.rcv li) s.integLevels }
  | .fail => s

/-- The crossing id is consumed on every branch, the evidence id on endorsement. -/
def crossConsume (s : KernelState) (q : CrossInput) (branch : CrossBranch) : KernelState :=
  { s with
    consumedCrossings := s.consumedCrossings.insert q.crossing
    consumedAttestations :=
      if branch = .endorsed then
        match q.evidence with
        | some e => s.consumedAttestations.insert e.id
        | none => s.consumedAttestations
      else s.consumedAttestations }

/-- The whole effect of a crossing: release, consume, spend one grant use, demote. -/
def crossed (s : KernelState) (q : CrossInput) (branch : CrossBranch) (disposition : Disposition) :
    KernelState :=
  let s := crossConsume (crossRelease s q branch) q branch
  let s := if branch = .endorsed then s.decrementGrantAt q.rcv q.assignment else s
  if disposition = .monitorBypassed then s.demoteAllOf q.rcv else s

def crossOutput (s : KernelState) (bg : BackgroundTheory) (q : CrossInput) :
    Except KernelError (KernelState × KernelAction) :=
  if ¬ s.agentActive.contains q.src then .error .agentInactive else
  if ¬ s.agentActive.contains q.rcv then .error .agentInactive else
  if srcInFlight s q.src then .error .sourceInFlight else
  if s.consumedCrossings.contains q.crossing then .error .crossingReplayed else
  let branch := crossBranch s q
  if branch = .endorsed ∧ ¬ crossBound s q then .error .crossingBoundViolated else
  match holdDisposition bg (crossHolds s bg q branch) with
  | none => .error .crossingHoldFailed
  | some disposition =>
    .ok (crossed s q branch disposition, .crossOutput q.src q.rcv q.crossing branch disposition)

end Argus
