import Einsof.Tzimtzum.State

namespace Tzimtzum

structure Action (σ : Type) where
  guard : σ → Prop
  next : σ → σ → Prop

structure ResolutionAttestation (InvocationId AttestationId : Type) where
  id : AttestationId
  inv : InvocationId
  outcome : Outcome

structure InspectionAttestation (InvocationId ChallengeId AttestationId PolicyDigest ContentHash : Type)
    where
  id : AttestationId
  inv : InvocationId
  challenge : ChallengeId
  argsHash : ContentHash
  policyDigest : PolicyDigest
  positive : Prop

structure ConformanceAttestation (AgentId AttestationId AssignmentDigest ContentHash : Type) where
  id : AttestationId
  output : ContentHash
  src : AgentId
  rcv : AgentId
  descriptor : ContentHash
  assignment : AssignmentDigest
  positive : Prop

inductive CrossBranch
  | endorsed
  | unendorsed
  | fail
  deriving DecidableEq, Repr

structure CrossInput (AgentId AttestationId CrossingId AssignmentDigest ContentHash : Type) where
  src : AgentId
  rcv : AgentId
  crossing : CrossingId
  outputHash : ContentHash
  descriptor : ContentHash
  fallback : Fallback
  tInteg : IntegLevel
  tConf : Option ConfLevel
  assignment : AssignmentDigest
  evidence : Option (ConformanceAttestation AgentId AttestationId AssignmentDigest ContentHash)
  releasedConf : ConfLevel
  releasedInteg : IntegLevel

variable {AgentId ToolId InvocationId CapKind EgressKind ChallengeId AttestationId CrossingId
  AssignmentDigest PolicyDigest ContentHash : Type}

section Structural

open Classical

def registerTool (tool : ToolId) : Action (St AgentId ToolId InvocationId CapKind EgressKind ChallengeId
    AttestationId CrossingId AssignmentDigest PolicyDigest ContentHash) where
  guard s := ¬ s.toolRegistered tool
  next s s' := s' = { s with toolRegistered := fun T => s.toolRegistered T ∨ T = tool }

def unregisterTool (tool : ToolId) : Action (St AgentId ToolId InvocationId CapKind EgressKind ChallengeId
    AttestationId CrossingId AssignmentDigest PolicyDigest ContentHash) where
  guard s := s.toolRegistered tool ∧
    (∀ I J, s.pending I = some J → J.policy.tool ≠ tool) ∧
    ∀ I sc, s.challenges I = some sc → sc.policy.tool ≠ tool
  next s s' := s' = { s with toolRegistered := fun T => s.toolRegistered T ∧ T ≠ tool }

/-- The grantee cannot already be a parent: reusing such an identifier would remove parent edges from
    active children. -/
noncomputable def delegate (grantor grantee : AgentId) : Action (St AgentId ToolId InvocationId CapKind
    EgressKind ChallengeId AttestationId CrossingId AssignmentDigest PolicyDigest ContentHash) where
  guard s := s.agentActive grantor ∧ ¬ s.agentActive grantee ∧ grantee ≠ s.rootAgent ∧
    ∀ C, ¬ s.agentParent C grantee
  next s s' := s' = { s with
    agentActive := fun A => s.agentActive A ∨ A = grantee
    agentParent := fun C P =>
      (C = grantee ∧ P = grantor) ∨ (s.agentParent C P ∧ C ≠ grantee ∧ P ≠ grantee)
    agentCap := fun N C => s.agentCap N C ∧ N ≠ grantee
    taintLevels := fun A L => s.taintLevels A L ∧ A ≠ grantee
    integLevels := fun A L => s.integLevels A L ∧ A ≠ grantee
    pending := dropPendingOf s.pending grantee
    challenges := dropChallengesOf s.challenges grantee
    crossingGrants := dropGrantsOf s.crossingGrants grantee }

def grantCapability (prnt child : AgentId) (cap : CapKind) : Action (St AgentId ToolId InvocationId CapKind
    EgressKind ChallengeId AttestationId CrossingId AssignmentDigest PolicyDigest ContentHash) where
  guard s := s.agentActive prnt ∧ s.agentActive child ∧ s.agentParent child prnt ∧ s.agentCap prnt cap
  next s s' := s' = { s with agentCap := fun N C => (N = child ∧ C = cap) ∨ s.agentCap N C }

noncomputable def grantCrossing (grantor agent : AgentId) (d : AssignmentDigest) (n : Nat) :
    Action (St AgentId ToolId InvocationId CapKind EgressKind ChallengeId AttestationId CrossingId
      AssignmentDigest PolicyDigest ContentHash) where
  guard s := grantor = s.rootAgent ∧ s.agentActive grantor ∧ s.agentActive agent
  next s s' := s' = { s with
    crossingGrants := fun A D => if A = agent ∧ D = d then some ⟨n, n⟩ else s.crossingGrants A D }

noncomputable def revoke (prnt target : AgentId) : Action (St AgentId ToolId InvocationId CapKind
    EgressKind ChallengeId AttestationId CrossingId AssignmentDigest PolicyDigest ContentHash) where
  guard s := s.agentParent target prnt ∧ s.agentActive prnt ∧ s.agentActive target ∧ target ≠ s.rootAgent
  next s s' := s' = { s with
    agentActive := fun A => s.agentActive A ∧ A ≠ target
    agentParent := fun C P => s.agentParent C P ∧ C ≠ target
    agentCap := fun A C => s.agentCap A C ∧ A ≠ target
    taintLevels := fun A L => s.taintLevels A L ∧ A ≠ target
    integLevels := fun A L => s.integLevels A L ∧ A ≠ target
    pending := dropPendingOf s.pending target
    challenges := dropChallengesOf s.challenges target
    crossingGrants := dropGrantsOf s.crossingGrants target }

noncomputable def cascadeRevoke (child prnt : AgentId) : Action (St AgentId ToolId InvocationId CapKind
    EgressKind ChallengeId AttestationId CrossingId AssignmentDigest PolicyDigest ContentHash) where
  guard s := s.agentParent child prnt ∧ ¬ s.agentActive prnt ∧ s.agentActive child ∧ child ≠ s.rootAgent
  next s s' := s' = { s with
    agentActive := fun A => s.agentActive A ∧ A ≠ child
    agentParent := fun C P => s.agentParent C P ∧ C ≠ child
    agentCap := fun A C => s.agentCap A C ∧ A ≠ child
    taintLevels := fun A L => s.taintLevels A L ∧ A ≠ child
    integLevels := fun A L => s.integLevels A L ∧ A ≠ child
    pending := dropPendingOf s.pending child
    challenges := dropChallengesOf s.challenges child
    crossingGrants := dropGrantsOf s.crossingGrants child }

end Structural

section Holds

variable (s : St AgentId ToolId InvocationId CapKind EgressKind ChallengeId AttestationId CrossingId
  AssignmentDigest PolicyDigest ContentHash)

def ingestConfHold (a : AgentId) (pconf : ConfLevel) : Prop :=
  ∀ I J E, s.pending I = some J → J.agent = a → J.egress E →
    s.flowAllows pconf E ∨ (s.flowInspects pconf E ∧ vouched J)

def ingestIntegHold (a : AgentId) (pinteg : IntegLevel) : Prop :=
  ∀ I J, s.pending I = some J → J.agent = a →
    integAllows pinteg J.policy ∨ (integInspects pinteg J.policy ∧ vouched J)

def ingestClearHold (a : AgentId) (pconf : ConfLevel) : Prop :=
  ∀ I J, s.pending I = some J → J.agent = a → clearanceAdmits pconf J.policy

def ingestHolds (a : AgentId) (pconf : ConfLevel) (pinteg : IntegLevel) : Prop :=
  ingestConfHold s a pconf ∧ ingestClearHold s a pconf ∧ ingestIntegHold s a pinteg

end Holds

section Ingest

open Classical

noncomputable def ingest (a : AgentId) (src : Option AgentId) (pconf : ConfLevel) (pinteg : IntegLevel)
    (d : Disposition) : Action (St AgentId ToolId InvocationId CapKind EgressKind ChallengeId
      AttestationId CrossingId AssignmentDigest PolicyDigest ContentHash) where
  guard s := s.agentActive a ∧
    (∀ src', src = some src' →
      (∀ L, s.taintLevels src' L → leConf L pconf) ∧ ∀ L, s.integLevels src' L → leInteg pinteg L) ∧
    d ≠ .blocked ∧
    (d = .permitted → ingestHolds s a pconf pinteg) ∧
    (d = .monitorBypassed → ¬ ingestHolds s a pconf pinteg) ∧
    (d = .monitorBypassed → s.mode = .monitor)
  next s s' := s' = { s with
    taintLevels := fun A L => s.taintLevels A L ∨ (A = a ∧ L = pconf)
    integLevels := fun A L => s.integLevels A L ∨ (A = a ∧ L = pinteg)
    pending := if d = .monitorBypassed then demoteAllOf s.pending a else s.pending }

/-- The owner, the disposition and the absorbed pair are inputs that the guard pins to the record. -/
noncomputable def settleInvocation (inv : InvocationId) (a : AgentId) (dispo : Disposition)
    (outcome : Outcome) (clvl : ConfLevel) (ilvl : IntegLevel)
    (att : Option (ResolutionAttestation InvocationId AttestationId)) :
    Action (St AgentId ToolId InvocationId CapKind EgressKind ChallengeId AttestationId CrossingId
      AssignmentDigest PolicyDigest ContentHash) where
  guard s := (∃ J, s.pending inv = some J) ∧ s.agentActive a ∧ dispo ≠ .blocked ∧
    (∀ J, s.pending inv = some J → a = J.agent ∧ dispo = J.disposition ∧ clvl = J.policy.outputConf ∧
      ilvl = J.policy.outputInteg) ∧
    (∀ J, s.pending inv = some J → J.quarantined → outcome ≠ .ambiguous ∧
      ∃ r, att = some r ∧ r.inv = inv ∧ r.outcome = outcome ∧ ¬ s.consumedAttestations r.id) ∧
    ∀ J, s.pending inv = some J → ¬ J.quarantined → att = none
  next s s' := s' = { s with
    pending := if dispo = .permitted then settleAt s.pending inv outcome
      else demoteAllOf (settleAt s.pending inv outcome) a
    taintLevels := fun A L => s.taintLevels A L ∨ (outcome ≠ .ambiguous ∧ A = a ∧ L = clvl)
    integLevels := fun A L => s.integLevels A L ∨ (outcome ≠ .ambiguous ∧ A = a ∧ L = ilvl)
    consumedAttestations := fun X => s.consumedAttestations X ∨ ∃ r, att = some r ∧ X = r.id }

end Ingest

section Checks

variable (s : St AgentId ToolId InvocationId CapKind EgressKind ChallengeId AttestationId CrossingId
  AssignmentDigest PolicyDigest ContentHash)

def checkCapability (a : AgentId) (snap : ActionPolicySnapshot ToolId CapKind EgressKind PolicyDigest) :
    Prop :=
  ∀ C, snap.requiredCaps C → s.agentCap a C

def checkClearance (a : AgentId) (snap : ActionPolicySnapshot ToolId CapKind EgressKind PolicyDigest) :
    Prop :=
  (∀ L, speculativeTaint s a L → clearanceAdmits L snap) ∧
  (∀ I J, s.pending I = some J → J.agent = a → clearanceAdmits snap.outputConf J.policy) ∧
  clearanceAdmits snap.outputConf snap

def checkFlowStrict (a : AgentId) (snap : ActionPolicySnapshot ToolId CapKind EgressKind PolicyDigest)
    (egr : EgressKind → Prop) : Prop :=
  (∀ L E, speculativeTaint s a L → egr E → s.flowAllows L E) ∧
  (∀ I J E, s.pending I = some J → J.agent = a → J.egress E → s.flowAllows snap.outputConf E) ∧
  ∀ E, egr E → s.flowAllows snap.outputConf E

def checkFlowAdmissible (a : AgentId)
    (snap : ActionPolicySnapshot ToolId CapKind EgressKind PolicyDigest) (egr : EgressKind → Prop) : Prop :=
  (∀ L E, speculativeTaint s a L → egr E → s.flowAllows L E ∨ s.flowInspects L E) ∧
  (∀ I J E, s.pending I = some J → J.agent = a → J.egress E →
    s.flowAllows snap.outputConf E ∨ (s.flowInspects snap.outputConf E ∧ vouched J)) ∧
  ∀ E, egr E → s.flowAllows snap.outputConf E ∨ s.flowInspects snap.outputConf E

def checkIntegStrict (a : AgentId) (snap : ActionPolicySnapshot ToolId CapKind EgressKind PolicyDigest) :
    Prop :=
  (∀ L, speculativeInteg s a L → integAllows L snap) ∧
  (∀ I J, s.pending I = some J → J.agent = a → integAllows snap.outputInteg J.policy) ∧
  integAllows snap.outputInteg snap

def checkIntegAdmissible (a : AgentId)
    (snap : ActionPolicySnapshot ToolId CapKind EgressKind PolicyDigest) : Prop :=
  (∀ L, speculativeInteg s a L → integAllows L snap ∨ integInspects L snap) ∧
  (∀ I J, s.pending I = some J → J.agent = a →
    integAllows snap.outputInteg J.policy ∨ (integInspects snap.outputInteg J.policy ∧ vouched J)) ∧
  (integAllows snap.outputInteg snap ∨ integInspects snap.outputInteg snap)

def beginAllow (a : AgentId) (snap : ActionPolicySnapshot ToolId CapKind EgressKind PolicyDigest)
    (egr : EgressKind → Prop) (authorized : Prop) : Prop :=
  checkCapability s a snap ∧ authorized ∧ checkClearance s a snap ∧ checkFlowStrict s a snap egr ∧
    checkIntegStrict s a snap

def beginAdmissible (a : AgentId) (snap : ActionPolicySnapshot ToolId CapKind EgressKind PolicyDigest)
    (egr : EgressKind → Prop) (authorized : Prop) : Prop :=
  checkCapability s a snap ∧ authorized ∧ checkClearance s a snap ∧ checkFlowAdmissible s a snap egr ∧
    checkIntegAdmissible s a snap

def authorizeAdmits (inv : InvocationId)
    (sc : ChallengeScope AgentId ToolId CapKind EgressKind ChallengeId PolicyDigest ContentHash) : Prop :=
  s.agentActive sc.agent ∧ sc.agent ≠ s.rootAgent ∧ s.toolRegistered sc.policy.tool ∧
    leInteg sc.policy.integInspect sc.policy.integFloor ∧ s.pending inv = none ∧
    (∀ E, sc.egress E → sc.policy.declaredEgress E) ∧
    ((∃ E, sc.policy.declaredEgress E) → ∃ E, sc.egress E) ∧
    beginAdmissible s sc.agent sc.policy sc.egress sc.authorized

def endorsedOK (q : CrossInput AgentId AttestationId CrossingId AssignmentDigest ContentHash) : Prop :=
  (∃ e, q.evidence = some e ∧ e.positive ∧ ¬ s.consumedAttestations e.id ∧ e.output = q.outputHash ∧
    e.src = q.src ∧ e.rcv = q.rcv ∧ e.descriptor = q.descriptor ∧ e.assignment = q.assignment) ∧
  ∃ g, s.crossingGrants q.rcv q.assignment = some g ∧ 0 < g.remaining

def crossHolds (q : CrossInput AgentId AttestationId CrossingId AssignmentDigest ContentHash)
    (branch : CrossBranch) : Prop :=
  (branch = .endorsed → ingestHolds s q.rcv q.releasedConf q.releasedInteg) ∧
  (branch = .unendorsed →
    (∀ L, s.taintLevels q.src L → ingestConfHold s q.rcv L ∧ ingestClearHold s q.rcv L) ∧
    ∀ Li, s.integLevels q.src Li → ingestIntegHold s q.rcv Li)

end Checks

section Invoke

open Classical

/-- The record that a verdict and the mode select; an enforced inspection makes none. -/
def beginRecord (a : AgentId) (snap : ActionPolicySnapshot ToolId CapKind EgressKind PolicyDigest)
    (egr : EgressKind → Prop) (authorized : Prop) : Verdict → Mode →
    Option (PendingInvocation AgentId ToolId CapKind EgressKind AttestationId PolicyDigest)
  | .allow, _ => some ⟨a, snap, egr, .plain, .permitted, authorized, False⟩
  | .inspectionRequired, .enforce => none
  | .inspectionRequired, .monitor => some ⟨a, snap, egr, .bypassed, .monitorBypassed, authorized, False⟩
  | .deny, _ => some ⟨a, snap, egr, .bypassed, .monitorBypassed, authorized, False⟩

/-- The verdict is an input that the guard ties to the checks. -/
noncomputable def beginInvocation (a : AgentId) (inv : InvocationId) (chal : ChallengeId)
    (snap : ActionPolicySnapshot ToolId CapKind EgressKind PolicyDigest) (egr : EgressKind → Prop)
    (ah : ContentHash) (authorized : Prop) (v : Verdict) : Action (St AgentId ToolId InvocationId CapKind
      EgressKind ChallengeId AttestationId CrossingId AssignmentDigest PolicyDigest ContentHash) where
  guard s := s.agentActive a ∧ a ≠ s.rootAgent ∧ s.toolRegistered snap.tool ∧
    leInteg snap.integInspect snap.integFloor ∧ s.pending inv = none ∧ ¬ s.consumedIds inv ∧
    s.challenges inv = none ∧
    (∀ E, egr E → snap.declaredEgress E) ∧ ((∃ E, snap.declaredEgress E) → ∃ E, egr E) ∧
    (v = .allow → beginAllow s a snap egr authorized) ∧
    (v = .inspectionRequired →
      beginAdmissible s a snap egr authorized ∧ ¬ beginAllow s a snap egr authorized) ∧
    (v = .deny → ¬ beginAdmissible s a snap egr authorized) ∧
    (v = .deny → s.mode = .monitor)
  next s s' := s' = { s with
    pending := fun I => if I = inv then beginRecord a snap egr authorized v s.mode else s.pending I
    challenges := fun I =>
      if I = inv then
        match v, s.mode with
        | .inspectionRequired, .enforce => some ⟨chal, a, snap, egr, ah, authorized⟩
        | _, _ => s.challenges I
      else s.challenges I
    consumedIds := fun I => s.consumedIds I ∨ I = inv }

/-- The stored scope is an input that the guard reads off the challenge map. -/
noncomputable def authorizeInspected (inv : InvocationId)
    (sc : ChallengeScope AgentId ToolId CapKind EgressKind ChallengeId PolicyDigest ContentHash)
    (att : InspectionAttestation InvocationId ChallengeId AttestationId PolicyDigest ContentHash)
    (permit : Bool) : Action (St AgentId ToolId InvocationId CapKind EgressKind ChallengeId AttestationId
      CrossingId AssignmentDigest PolicyDigest ContentHash) where
  guard s := s.challenges inv = some sc ∧ att.inv = inv ∧ att.challenge = sc.challenge ∧
    att.argsHash = sc.argsHash ∧ att.policyDigest = sc.policy.policyDigest ∧
    ¬ s.consumedAttestations att.id ∧ s.consumedIds inv ∧
    (permit = true → att.positive ∧ authorizeAdmits s inv sc) ∧
    (permit = false → ¬ att.positive ∨ ¬ authorizeAdmits s inv sc)
  next s s' := s' = { s with
    pending := fun I =>
      if I = inv ∧ permit = true then
        some ⟨sc.agent, sc.policy, sc.egress, .inspected att.id, .permitted, sc.authorized, False⟩
      else s.pending I
    challenges := fun I => if I = inv then none else s.challenges I
    consumedAttestations := fun X => s.consumedAttestations X ∨ X = att.id }

/-- The branch and the disposition are inputs that the guard makes canonical. -/
noncomputable def crossOutput
    (q : CrossInput AgentId AttestationId CrossingId AssignmentDigest ContentHash)
    (branch : CrossBranch) (dispo : Disposition) : Action (St AgentId ToolId InvocationId CapKind
      EgressKind ChallengeId AttestationId CrossingId AssignmentDigest PolicyDigest ContentHash) where
  guard s := s.agentActive q.src ∧ s.agentActive q.rcv ∧
    (∀ I J, s.pending I = some J → J.agent ≠ q.src) ∧ ¬ s.consumedCrossings q.crossing ∧
    (branch = .endorsed → endorsedOK s q) ∧
    (branch = .unendorsed → ¬ endorsedOK s q ∧ q.fallback = .releaseUnendorsed) ∧
    (branch = .fail → ¬ endorsedOK s q ∧ q.fallback = .fail) ∧
    (branch = .endorsed → leInteg q.releasedInteg q.tInteg) ∧
    (branch = .endorsed → ∀ c, q.tConf = some c → leConf q.releasedConf c) ∧
    (branch = .endorsed → q.tConf = none → ∀ L, s.taintLevels q.src L → leConf L q.releasedConf) ∧
    dispo ≠ .blocked ∧
    (dispo = .permitted → crossHolds s q branch) ∧
    (dispo = .monitorBypassed → ¬ crossHolds s q branch ∧ s.mode = .monitor)
  next s s' := s' = { s with
    taintLevels := fun A L => s.taintLevels A L ∨
      (branch = .endorsed ∧ A = q.rcv ∧ L = q.releasedConf) ∨
      (branch = .unendorsed ∧ A = q.rcv ∧ s.taintLevels q.src L)
    integLevels := fun A L => s.integLevels A L ∨
      (branch = .endorsed ∧ A = q.rcv ∧ L = q.releasedInteg) ∨
      (branch = .unendorsed ∧ A = q.rcv ∧ s.integLevels q.src L)
    consumedCrossings := fun X => s.consumedCrossings X ∨ X = q.crossing
    consumedAttestations := fun X => s.consumedAttestations X ∨
      (branch = .endorsed ∧ ∃ e, q.evidence = some e ∧ X = e.id)
    crossingGrants := if branch = .endorsed then decrementGrantAt s.crossingGrants q.rcv q.assignment
      else s.crossingGrants
    pending := if dispo = .monitorBypassed then demoteAllOf s.pending q.rcv else s.pending }

end Invoke

end Tzimtzum
