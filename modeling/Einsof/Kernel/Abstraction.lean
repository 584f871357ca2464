import Einsof.Kernel.Gates
import Einsof.Tzimtzum.Actions
import Mathlib.Logic.Function.Basic

namespace Argus

abbrev SpecState := Tzimtzum.St AgentId ToolId InvocationId CapKind EgressKind ChallengeId AttestationId
  CrossingId AssignmentDigest PolicyDigest ContentHash

abbrev SpecSnapshot := Tzimtzum.ActionPolicySnapshot ToolId CapKind EgressKind PolicyDigest

abbrev SpecPending :=
  Tzimtzum.PendingInvocation AgentId ToolId CapKind EgressKind AttestationId PolicyDigest

abbrev SpecScope :=
  Tzimtzum.ChallengeScope AgentId ToolId CapKind EgressKind ChallengeId PolicyDigest ContentHash

def ConfLevel.abs : ConfLevel → Tzimtzum.ConfLevel
  | .«public» => .«public»
  | .«internal» => .«internal»
  | .sensitive => .sensitive
  | .restricted => .restricted

def IntegLevel.abs : IntegLevel → Tzimtzum.IntegLevel
  | .untrusted => .untrusted
  | .standard => .standard
  | .trusted => .trusted
  | .attested => .attested

def Verdict.abs : Verdict → Tzimtzum.Verdict
  | .allow => .allow
  | .inspectionRequired => .inspectionRequired
  | .deny => .deny

def Disposition.abs : Disposition → Tzimtzum.Disposition
  | .permitted => .permitted
  | .blocked => .blocked
  | .monitorBypassed => .monitorBypassed

def Mode.abs : Mode → Tzimtzum.Mode
  | .enforce => .enforce
  | .monitor => .monitor

def Outcome.abs : Outcome → Tzimtzum.Outcome
  | .success => .success
  | .failure => .failure
  | .ambiguous => .ambiguous

def Fallback.abs : Fallback → Tzimtzum.Fallback
  | .fail => .fail
  | .releaseUnendorsed => .releaseUnendorsed

def CrossBranch.abs : CrossBranch → Tzimtzum.CrossBranch
  | .endorsed => .endorsed
  | .unendorsed => .unendorsed
  | .fail => .fail

def Admission.abs : Admission → Tzimtzum.Admission AttestationId
  | .plain => .plain
  | .inspected attestation => .inspected attestation
  | .bypassed => .bypassed

def CrossingGrant.abs (g : CrossingGrant) : Tzimtzum.CrossingGrant :=
  ⟨g.remaining.toNat, g.provisioned.toNat⟩

def ActionPolicySnapshot.abs (snap : ActionPolicySnapshot) : SpecSnapshot where
  tool := snap.tool
  requiredCaps c := c ∈ snap.requiredCaps
  confClearance := snap.confClearance.abs
  integFloor := snap.integFloor.abs
  integInspect := snap.integInspect.abs
  outputConf := snap.outputConf.abs
  outputInteg := snap.outputInteg.abs
  declaredEgress e := e ∈ snap.declaredEgress
  policyDigest := snap.policyDigest

def PendingInvocation.abs (j : PendingInvocation) : SpecPending where
  agent := j.agent
  policy := j.policy.abs
  egress e := e ∈ j.egress
  admission := j.admission.abs
  disposition := j.disposition.abs
  authorized := j.authorized = true
  quarantined := j.quarantined = true

def ChallengeScope.abs (sc : ChallengeScope) : SpecScope where
  challenge := sc.challenge
  agent := sc.agent
  policy := sc.policy.abs
  egress e := e ∈ sc.egress
  argsHash := sc.argsHash
  authorized := sc.authorized = true

def ResolutionAttestation.abs (x : ResolutionAttestation) :
    Tzimtzum.ResolutionAttestation InvocationId AttestationId :=
  ⟨x.id, x.inv, x.outcome.abs⟩

def InspectionAttestation.abs (x : InspectionAttestation) :
    Tzimtzum.InspectionAttestation InvocationId ChallengeId AttestationId PolicyDigest ContentHash :=
  ⟨x.id, x.inv, x.challenge, x.argsHash, x.policyDigest, x.positive = true⟩

def ConformanceAttestation.abs (x : ConformanceAttestation) :
    Tzimtzum.ConformanceAttestation AgentId AttestationId AssignmentDigest ContentHash :=
  ⟨x.id, x.output, x.src, x.rcv, x.descriptor, x.assignment, x.positive = true⟩

def CrossInput.abs (q : CrossInput) :
    Tzimtzum.CrossInput AgentId AttestationId CrossingId AssignmentDigest ContentHash where
  src := q.src
  rcv := q.rcv
  crossing := q.crossing
  outputHash := q.outputHash
  descriptor := q.descriptor
  fallback := q.fallback.abs
  tInteg := q.tInteg.abs
  tConf := q.tConf.map ConfLevel.abs
  assignment := q.assignment
  evidence := q.evidence.map ConformanceAttestation.abs
  releasedConf := q.releasedConf.abs
  releasedInteg := q.releasedInteg.abs

/-- The specification's view of a kernel state: sets become predicates, maps become functions. -/
def abs (bg : BackgroundTheory) (s : KernelState) : SpecState where
  agentActive a := a ∈ s.agentActive
  agentParent child parent := s.agentParent.get child = some parent
  agentCap a c := s.HasCap a c
  taintLevels a level := ∃ l, s.Taints a l ∧ l.abs = level
  integLevels a level := ∃ l, s.Integs a l ∧ l.abs = level
  pending i := (s.pending.get i).map PendingInvocation.abs
  challenges i := (s.challenges.get i).map ChallengeScope.abs
  consumedIds i := i ∈ s.consumedIds
  consumedAttestations x := x ∈ s.consumedAttestations
  consumedCrossings x := x ∈ s.consumedCrossings
  crossingGrants a assignment := (s.crossingGrants.get ⟨a, assignment⟩).map CrossingGrant.abs
  toolRegistered tool := tool ∈ s.toolRegistered
  egressAllowCeiling e := (bg.allowCeiling.get e).map ConfLevel.abs
  egressInspectCeiling e := (bg.inspectCeiling.get e).map ConfLevel.abs
  mode := bg.mode.abs
  rootAgent := bg.rootAgent

section Enumerations

theorem ConfLevel.abs_injective : Function.Injective ConfLevel.abs := by
  intro a b same
  cases a <;> cases b <;> first | rfl | cases same

theorem ConfLevel.abs_surjective : Function.Surjective ConfLevel.abs
  | .«public» => ⟨.«public», rfl⟩
  | .«internal» => ⟨.«internal», rfl⟩
  | .sensitive => ⟨.sensitive, rfl⟩
  | .restricted => ⟨.restricted, rfl⟩

theorem IntegLevel.abs_injective : Function.Injective IntegLevel.abs := by
  intro a b same
  cases a <;> cases b <;> first | rfl | cases same

theorem IntegLevel.abs_surjective : Function.Surjective IntegLevel.abs
  | .untrusted => ⟨.untrusted, rfl⟩
  | .standard => ⟨.standard, rfl⟩
  | .trusted => ⟨.trusted, rfl⟩
  | .attested => ⟨.attested, rfl⟩

theorem Disposition.abs_surjective : Function.Surjective Disposition.abs
  | .permitted => ⟨.permitted, rfl⟩
  | .blocked => ⟨.blocked, rfl⟩
  | .monitorBypassed => ⟨.monitorBypassed, rfl⟩

theorem Verdict.abs_surjective : Function.Surjective Verdict.abs
  | .allow => ⟨.allow, rfl⟩
  | .inspectionRequired => ⟨.inspectionRequired, rfl⟩
  | .deny => ⟨.deny, rfl⟩

theorem CrossBranch.abs_surjective : Function.Surjective CrossBranch.abs
  | .endorsed => ⟨.endorsed, rfl⟩
  | .unendorsed => ⟨.unendorsed, rfl⟩
  | .fail => ⟨.fail, rfl⟩

@[simp] theorem ConfLevel.forall_abs {p : Tzimtzum.ConfLevel → Prop} : (∀ l, p l) ↔ ∀ l : ConfLevel, p l.abs :=
  ConfLevel.abs_surjective.forall

@[simp] theorem IntegLevel.forall_abs {p : Tzimtzum.IntegLevel → Prop} :
    (∀ l, p l) ↔ ∀ l : IntegLevel, p l.abs :=
  IntegLevel.abs_surjective.forall

@[simp] theorem ConfLevel.abs_inj {a b : ConfLevel} : a.abs = b.abs ↔ a = b := ConfLevel.abs_injective.eq_iff

@[simp] theorem IntegLevel.abs_inj {a b : IntegLevel} : a.abs = b.abs ↔ a = b :=
  IntegLevel.abs_injective.eq_iff

theorem ConfLevel.confRank_abs (a : ConfLevel) : Tzimtzum.confRank a.abs = a.rank := by cases a <;> rfl

theorem IntegLevel.integRank_abs (a : IntegLevel) : Tzimtzum.integRank a.abs = a.rank := by cases a <;> rfl

@[simp] theorem ConfLevel.leConf_abs {a b : ConfLevel} : Tzimtzum.leConf a.abs b.abs ↔ a ≤ b := by
  rw [Tzimtzum.leConf, ConfLevel.confRank_abs, ConfLevel.confRank_abs, ConfLevel.le_iff_rank]

@[simp] theorem IntegLevel.leInteg_abs {a b : IntegLevel} : Tzimtzum.leInteg a.abs b.abs ↔ a ≤ b := by
  rw [Tzimtzum.leInteg, IntegLevel.integRank_abs, IntegLevel.integRank_abs, IntegLevel.le_iff_rank]

@[simp] theorem Mode.abs_monitor {m : Mode} : m.abs = .monitor ↔ m = .monitor := by
  cases m <;> simp [Mode.abs]

@[simp] theorem Outcome.abs_inj {a b : Outcome} : a.abs = b.abs ↔ a = b := by
  cases a <;> cases b <;> simp [Outcome.abs]

@[simp] theorem Outcome.abs_ambiguous {a : Outcome} : a.abs = .ambiguous ↔ a = .ambiguous := by
  cases a <;> simp [Outcome.abs]

@[simp] theorem Disposition.abs_permitted {d : Disposition} : d.abs = .permitted ↔ d = .permitted := by
  cases d <;> simp [Disposition.abs]

@[simp] theorem Disposition.abs_blocked {d : Disposition} : d.abs = .blocked ↔ d = .blocked := by
  cases d <;> simp [Disposition.abs]

@[simp] theorem Disposition.abs_monitorBypassed {d : Disposition} :
    d.abs = .monitorBypassed ↔ d = .monitorBypassed := by
  cases d <;> simp [Disposition.abs]

@[simp] theorem PendingInvocation.abs_agent (j : PendingInvocation) : j.abs.agent = j.agent := rfl
@[simp] theorem PendingInvocation.abs_policy (j : PendingInvocation) : j.abs.policy = j.policy.abs := rfl

@[simp] theorem ActionPolicySnapshot.abs_outputConf (snap : ActionPolicySnapshot) :
    snap.abs.outputConf = snap.outputConf.abs := rfl

@[simp] theorem ActionPolicySnapshot.abs_outputInteg (snap : ActionPolicySnapshot) :
    snap.abs.outputInteg = snap.outputInteg.abs := rfl

@[simp] theorem ActionPolicySnapshot.clearanceAdmits_abs {l : ConfLevel} {snap : ActionPolicySnapshot} :
    Tzimtzum.clearanceAdmits l.abs snap.abs ↔ l ≤ snap.confClearance := ConfLevel.leConf_abs

@[simp] theorem ActionPolicySnapshot.integAllows_abs {l : IntegLevel} {snap : ActionPolicySnapshot} :
    Tzimtzum.integAllows l.abs snap.abs ↔ snap.integFloor ≤ l := IntegLevel.leInteg_abs

@[simp] theorem ActionPolicySnapshot.integInspects_abs {l : IntegLevel} {snap : ActionPolicySnapshot} :
    Tzimtzum.integInspects l.abs snap.abs ↔ snap.integInspect ≤ l := IntegLevel.leInteg_abs

@[simp] theorem PendingInvocation.vouched_abs {j : PendingInvocation} :
    Tzimtzum.vouched j.abs ↔ j.vouched = true := by
  rw [PendingInvocation.vouched_iff]
  unfold Tzimtzum.vouched PendingInvocation.abs
  cases j.admission <;> simp [Admission.abs]

end Enumerations

section Gates

variable {bg : BackgroundTheory} {s : KernelState} {a : AgentId} {l : ConfLevel} {li : IntegLevel}
  {snap : ActionPolicySnapshot} {egr : VecSet EgressKind} {e : EgressKind} {q : CrossInput}

@[simp] theorem abs_taintLevels : (abs bg s).taintLevels a l.abs ↔ s.Taints a l := by
  simp only [abs, ConfLevel.abs_inj, exists_eq_right]

@[simp] theorem abs_integLevels : (abs bg s).integLevels a li.abs ↔ s.Integs a li := by
  simp only [abs, IntegLevel.abs_inj, exists_eq_right]

@[simp] theorem abs_pending {i : InvocationId} {J : SpecPending} :
    (abs bg s).pending i = some J ↔ ∃ j, s.pending.get i = some j ∧ j.abs = J :=
  Option.map_eq_some_iff

@[simp] theorem abs_pending_none {i : InvocationId} :
    (abs bg s).pending i = none ↔ s.pending.get i = none :=
  Option.map_eq_none_iff

@[simp] theorem abs_challenges {i : InvocationId} {sc : SpecScope} :
    (abs bg s).challenges i = some sc ↔ ∃ c, s.challenges.get i = some c ∧ c.abs = sc :=
  Option.map_eq_some_iff

@[simp] theorem abs_challenges_none {i : InvocationId} :
    (abs bg s).challenges i = none ↔ s.challenges.get i = none :=
  Option.map_eq_none_iff

@[simp] theorem abs_flowAllows : (abs bg s).flowAllows l.abs e ↔ bg.flowAllows l e = true := by
  simp [Tzimtzum.St.flowAllows, Tzimtzum.ceilingAdmits, abs, BackgroundTheory.flowAllows_iff]

@[simp] theorem abs_flowInspects : (abs bg s).flowInspects l.abs e ↔ bg.flowInspects l e = true := by
  simp [Tzimtzum.St.flowInspects, Tzimtzum.ceilingAdmits, abs, BackgroundTheory.flowInspects_iff]

@[simp] theorem speculativeTaint_abs :
    Tzimtzum.speculativeTaint (abs bg s) a l.abs ↔ l ∈ s.speculativeTaint a := by
  rw [KernelState.mem_speculativeTaint, Tzimtzum.speculativeTaint, abs_taintLevels]
  simp

@[simp] theorem speculativeInteg_abs :
    Tzimtzum.speculativeInteg (abs bg s) a li.abs ↔ li ∈ s.speculativeInteg a := by
  rw [KernelState.mem_speculativeInteg, Tzimtzum.speculativeInteg, abs_integLevels]
  simp

theorem pendingOf_abs {good : SpecPending → Prop} :
    (∀ I J, (abs bg s).pending I = some J → J.agent = a → good J) ↔ s.PendingOf a (fun j => good j.abs) := by
  simp only [abs_pending, forall_exists_index, and_imp, forall_apply_eq_imp_iff₂, KernelState.PendingOf,
    PendingInvocation.abs_agent]

theorem pendingOf_egress_abs {good : SpecPending → EgressKind → Prop} :
    (∀ I J E, (abs bg s).pending I = some J → J.agent = a → J.egress E → good J E) ↔
      s.PendingOf a (fun j => ∀ E ∈ j.egress, good j.abs E) := by
  refine Iff.trans (b := ∀ I J, (abs bg s).pending I = some J → J.agent = a →
    ∀ E, J.egress E → good J E) ⟨?_, ?_⟩ pendingOf_abs
  · exact fun all I J found own E egress => all I J E found own egress
  · exact fun all I J E found own egress => all I J found own E egress

@[simp] theorem ingestConfHold_abs :
    Tzimtzum.ingestConfHold (abs bg s) a l.abs ↔ ingestConfHold s bg a l = true := by
  rw [ingestConfHold_iff, Tzimtzum.ingestConfHold, pendingOf_egress_abs]
  simp only [abs_flowAllows, abs_flowInspects, PendingInvocation.vouched_abs, BackgroundTheory.FlowHolds]

@[simp] theorem ingestClearHold_abs :
    Tzimtzum.ingestClearHold (abs bg s) a l.abs ↔ ingestClearHold s a l = true := by
  rw [ingestClearHold_iff, Tzimtzum.ingestClearHold, pendingOf_abs]
  simp only [PendingInvocation.abs_policy, ActionPolicySnapshot.clearanceAdmits_abs,
    PendingInvocation.ClearHolds]

@[simp] theorem ingestIntegHold_abs :
    Tzimtzum.ingestIntegHold (abs bg s) a li.abs ↔ ingestIntegHold s a li = true := by
  rw [ingestIntegHold_iff, Tzimtzum.ingestIntegHold, pendingOf_abs]
  simp only [PendingInvocation.abs_policy, ActionPolicySnapshot.integAllows_abs,
    ActionPolicySnapshot.integInspects_abs, PendingInvocation.vouched_abs, PendingInvocation.IntegHolds]

@[simp] theorem ingestHolds_abs :
    Tzimtzum.ingestHolds (abs bg s) a l.abs li.abs ↔ ingestHolds s bg a l li = true := by
  simp only [Tzimtzum.ingestHolds, ingestHolds, ingestConfHold_abs, ingestClearHold_abs,
    ingestIntegHold_abs, Bool.and_eq_true, and_assoc]

theorem checkCapability_abs :
    Tzimtzum.checkCapability (abs bg s) a snap.abs ↔ checkCapability s a snap = true := by
  rw [checkCapability_iff]
  exact Iff.rfl

theorem checkClearance_abs :
    Tzimtzum.checkClearance (abs bg s) a snap.abs ↔ checkClearance s a snap = true := by
  rw [checkClearance_iff, Tzimtzum.checkClearance, pendingOf_abs]
  simp only [ConfLevel.forall_abs, speculativeTaint_abs, ActionPolicySnapshot.clearanceAdmits_abs,
    ActionPolicySnapshot.abs_outputConf, PendingInvocation.abs_policy, PendingInvocation.ClearHolds]

theorem checkFlowStrict_abs :
    Tzimtzum.checkFlowStrict (abs bg s) a snap.abs (· ∈ egr) ↔ checkFlow s bg a snap egr true = true := by
  rw [checkFlow_iff, Tzimtzum.checkFlowStrict, pendingOf_egress_abs]
  simp only [ConfLevel.forall_abs, speculativeTaint_abs, abs_flowAllows,
    ActionPolicySnapshot.abs_outputConf, BackgroundTheory.FlowArm, Bool.true_eq_false, false_and, or_false]
  grind

theorem checkFlowAdmissible_abs :
    Tzimtzum.checkFlowAdmissible (abs bg s) a snap.abs (· ∈ egr) ↔
      checkFlow s bg a snap egr false = true := by
  rw [checkFlow_iff, Tzimtzum.checkFlowAdmissible, pendingOf_egress_abs]
  simp only [ConfLevel.forall_abs, speculativeTaint_abs, abs_flowAllows, abs_flowInspects,
    ActionPolicySnapshot.abs_outputConf, PendingInvocation.vouched_abs, BackgroundTheory.FlowArm, true_and,
    and_true]
  grind

theorem checkIntegStrict_abs :
    Tzimtzum.checkIntegStrict (abs bg s) a snap.abs ↔ checkInteg s a snap true = true := by
  rw [checkInteg_iff, Tzimtzum.checkIntegStrict, pendingOf_abs]
  simp only [IntegLevel.forall_abs, speculativeInteg_abs, ActionPolicySnapshot.integAllows_abs,
    ActionPolicySnapshot.abs_outputInteg, PendingInvocation.abs_policy, ActionPolicySnapshot.IntegArm,
    Bool.true_eq_false, false_and, or_false]

theorem checkIntegAdmissible_abs :
    Tzimtzum.checkIntegAdmissible (abs bg s) a snap.abs ↔ checkInteg s a snap false = true := by
  rw [checkInteg_iff, Tzimtzum.checkIntegAdmissible, pendingOf_abs]
  simp only [IntegLevel.forall_abs, speculativeInteg_abs, ActionPolicySnapshot.integAllows_abs,
    ActionPolicySnapshot.integInspects_abs, ActionPolicySnapshot.abs_outputInteg,
    PendingInvocation.abs_policy, PendingInvocation.vouched_abs, ActionPolicySnapshot.IntegArm, true_and,
    and_true]

theorem beginAllow_abs {authorized : Bool} :
    Tzimtzum.beginAllow (abs bg s) a snap.abs (· ∈ egr) (authorized = true) ↔
      beginStrict s bg a snap egr authorized = true := by
  simp only [Tzimtzum.beginAllow, beginStrict, checkCapability_abs, checkClearance_abs,
    checkFlowStrict_abs, checkIntegStrict_abs, Bool.and_eq_true, and_assoc]

theorem beginAdmissible_abs {authorized : Bool} :
    Tzimtzum.beginAdmissible (abs bg s) a snap.abs (· ∈ egr) (authorized = true) ↔
      beginAdmissible s bg a snap egr authorized = true := by
  simp only [Tzimtzum.beginAdmissible, beginAdmissible, checkCapability_abs, checkClearance_abs,
    checkFlowAdmissible_abs, checkIntegAdmissible_abs, Bool.and_eq_true, and_assoc]

theorem authorizeAdmits_abs {inv : InvocationId} {sc : ChallengeScope} :
    Tzimtzum.authorizeAdmits (abs bg s) inv sc.abs ↔ authorizeAdmits s bg inv sc = true := by
  have gate : Tzimtzum.beginAdmissible (abs bg s) sc.agent sc.policy.abs (· ∈ sc.egress)
      (sc.authorized = true) ↔ _ := beginAdmissible_abs
  simp only [Tzimtzum.authorizeAdmits, authorizeAdmits, Bool.and_eq_true, and_assoc, ← gate,
    VecSet.contains_iff, egressNarrows_iff, egressCovers_iff, decide_eq_true_eq, IntegLevel.le_iff,
    ← IntegLevel.leInteg_abs, Bool.not_eq_true', VecMap.containsKey_eq, Option.isSome_eq_false_iff,
    Option.isNone_iff_eq_none, abs_pending_none]
  exact Iff.rfl

theorem endorsedOK_abs : Tzimtzum.endorsedOK (abs bg s) q.abs ↔ endorsedOk s q = true := by
  rw [endorsedOk_iff, Tzimtzum.endorsedOK]
  refine and_congr ?_ ?_
  · simp only [CrossInput.abs, Option.map_eq_some_iff, ↓existsAndEq, and_true]
    exact Iff.rfl
  · simp only [abs, CrossInput.abs, Option.map_eq_some_iff, ↓existsAndEq, and_true]
    exact Iff.rfl

theorem crossHolds_abs {branch : CrossBranch} :
    Tzimtzum.crossHolds (abs bg s) q.abs branch.abs ↔ crossHolds s bg q branch = true := by
  cases branch with
  | endorsed => simp [Tzimtzum.crossHolds, CrossBranch.abs, crossHolds, CrossInput.abs]
  | unendorsed =>
    simp only [crossHolds, VecSet.foldl_latch_items, not_or, not_not, true_and]
    simp [Tzimtzum.crossHolds, CrossBranch.abs, CrossInput.abs, KernelState.Taints, KernelState.Integs]
  | fail => simp [Tzimtzum.crossHolds, CrossBranch.abs, crossHolds]

end Gates

end Argus
