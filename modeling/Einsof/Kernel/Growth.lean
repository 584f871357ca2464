import Einsof.Kernel.Effects
import Einsof.Kernel.Weight

namespace Argus

/-- A weight for an entry of each collection. The standing of a pending record weighs nothing. -/
structure Gauge where
  active : AgentId → Nat
  parent : AgentId → AgentId → Nat
  cap : AgentId → Nat
  taint : AgentId → Nat
  integ : AgentId → Nat
  pending : InvocationId → PendingInvocation → Nat
  challenge : InvocationId → ChallengeScope → Nat
  id : InvocationId → Nat
  attestation : AttestationId → Nat
  crossing : CrossingId → Nat
  grant : CrossingKey → Nat
  tool : ToolId → Nat
  standing : ∀ i j d q, pending i { j with disposition := d, quarantined := q } = pending i j

variable {s s' : KernelState} {bg : BackgroundTheory} {r : KernelAction} (g : Gauge)

namespace KernelState

def weigh (g : Gauge) (s : KernelState) : Nat :=
  s.agentActive.weigh g.active + s.agentParent.weigh g.parent + s.agentCap.weigh (fun a _ => g.cap a) +
    s.taintLevels.weigh (fun a _ => g.taint a) + s.integLevels.weigh (fun a _ => g.integ a) +
    s.pending.weigh g.pending + s.challenges.weigh g.challenge + s.consumedIds.weigh g.id +
    s.consumedAttestations.weigh g.attestation + s.consumedCrossings.weigh g.crossing +
    s.crossingGrants.weigh (fun key _ => g.grant key) + s.toolRegistered.weigh g.tool

theorem dropPendingOf_weigh (a : AgentId) :
    (s.dropPendingOf a).pending.weigh g.pending ≤ s.pending.weigh g.pending := by
  refine s.pending.weigh_rebuild_le (fun _ j => if j.agent ≠ a then some j else none) _ _ ?_ ?_
  · intro kept inv j
    by_cases other : j.agent = a <;> simp [other]
  · intro inv j j' kept
    by_cases other : j.agent = a <;> simp_all

theorem dropChallengesOf_weigh (a : AgentId) :
    (s.dropChallengesOf a).challenges.weigh g.challenge ≤ s.challenges.weigh g.challenge := by
  refine s.challenges.weigh_rebuild_le (fun _ sc => if sc.agent ≠ a then some sc else none) _ _ ?_ ?_
  · intro kept inv sc
    by_cases other : sc.agent = a <;> simp [other]
  · intro inv sc sc' kept
    by_cases other : sc.agent = a <;> simp_all

theorem dropGrantsOf_weigh (a : AgentId) : (s.dropGrantsOf a).crossingGrants.weigh (fun key _ => g.grant key) ≤
    s.crossingGrants.weigh fun key _ => g.grant key := by
  refine s.crossingGrants.weigh_rebuild_le (fun key grant => if key.agent ≠ a then some grant else none)
    _ _ ?_ ?_
  · intro kept key grant
    by_cases holder : key.agent = a <;> simp [holder]
  · intro key grant grant' kept
    exact Nat.le_refl _

theorem demoteAllOf_weigh (a : AgentId) :
    (s.demoteAllOf a).pending.weigh g.pending ≤ s.pending.weigh g.pending := by
  refine s.pending.weigh_rebuild_le (fun _ j => some (demoted a j)) _ _ (fun _ _ _ => rfl) ?_
  intro inv j j' changed
  rw [← Option.some.inj changed, demoted]
  split
  · exact Nat.le_of_eq (g.standing inv j _ _)
  · exact Nat.le_refl _

theorem demoteIf_weigh (p : Prop) [Decidable p] (a : AgentId) :
    (if p then s.demoteAllOf a else s).pending.weigh g.pending ≤ s.pending.weigh g.pending := by
  by_cases holds : p
  · simpa only [holds, if_true] using demoteAllOf_weigh g a
  · simp only [holds, if_false, Nat.le_refl]

theorem decrementGrantAt_weigh (a : AgentId) (assignment : AssignmentDigest) :
    (s.decrementGrantAt a assignment).crossingGrants.weigh (fun key _ => g.grant key) =
      s.crossingGrants.weigh fun key _ => g.grant key := by
  unfold decrementGrantAt
  cases found : s.crossingGrants.get ⟨a, assignment⟩ with
  | none => simp [found]
  | some grant => simpa [found] using VecMap.weigh_insert_same (fun key _ => g.grant key) found rfl

theorem dropOwned_weigh (a : AgentId) :
    (((s.dropPendingOf a).dropChallengesOf a).dropGrantsOf a).weigh g ≤ s.weigh g := by
  have pending := dropPendingOf_weigh (s := s) g a
  have challenges := dropChallengesOf_weigh (s := s) g a
  have grants := dropGrantsOf_weigh (s := s) g a
  simp only [weigh, dropPendingOf, dropChallengesOf, dropGrantsOf] at *
  omega

end KernelState

def newKey {V : Type} (m : VecMap AgentId V) (f : AgentId → Nat) (a : AgentId) : Nat :=
  if m.containsKey a then 0 else f a

/-- The weight a committed command may add. -/
def KernelCommand.growth (g : Gauge) (s : KernelState) : KernelCommand → Nat
  | .registerTool tool => g.tool tool
  | .unregisterTool _ | .revoke _ _ | .cascadeRevoke _ _ => 0
  | .delegate grantor grantee => g.active grantee + g.parent grantee grantor
  | .grantCapability _ child _ => newKey s.agentCap g.cap child
  | .grantCrossing _ agent assignment _ => g.grant ⟨agent, assignment⟩
  | .ingest a _ _ _ => newKey s.taintLevels g.taint a + newKey s.integLevels g.integ a
  | .settleInvocation inv _ att =>
    ((s.pending.get inv).elim 0 fun j =>
      newKey s.taintLevels g.taint j.agent + newKey s.integLevels g.integ j.agent) +
      att.elim 0 fun att => g.attestation att.id
  | .beginInvocation a inv chal snap egr ah authorized =>
    g.id inv + max (g.challenge inv ⟨chal, a, snap, egr, ah, authorized⟩)
      (max (g.pending inv ⟨a, snap, egr, .plain, .permitted, authorized, false⟩)
        (g.pending inv ⟨a, snap, egr, .bypassed, .permitted, authorized, false⟩))
  | .authorizeInspected inv att =>
    g.attestation att.id + (s.challenges.get inv).elim 0 fun sc => g.pending inv
      ⟨sc.agent, sc.policy, sc.egress, .inspected att.id, .permitted, sc.authorized, false⟩
  | .crossOutput q =>
    g.crossing q.crossing + newKey s.taintLevels g.taint q.rcv + newKey s.integLevels g.integ q.rcv +
      q.evidence.elim 0 fun e => g.attestation e.id

theorem enroll_weigh (grantor a : AgentId) :
    (enroll s grantor a).weigh g ≤ s.weigh g + (g.active a + g.parent a grantor) := by
  have active := VecSet.weigh_insert_le g.active s.agentActive a
  have kept : (s.agentParent.forEntries VecMap.new fun kept child p =>
      if child ≠ a ∧ p ≠ a then kept.insert child p else kept).weigh g.parent ≤
        s.agentParent.weigh g.parent := by
    refine s.agentParent.weigh_rebuild_le (fun c p => if c ≠ a ∧ p ≠ a then some p else none) _ _ ?_ ?_
    · intro kept c p
      split <;> simp [*]
    · intro c p p' changed
      split at changed <;> simp_all
  have edge := VecMap.weigh_insert_le g.parent (s.agentParent.forEntries VecMap.new fun kept child p =>
    if child ≠ a ∧ p ≠ a then kept.insert child p else kept) a grantor
  have caps := VecMap.weigh_remove_le (fun a _ => g.cap a) s.agentCap a
  have taints := VecMap.weigh_remove_le (fun a _ => g.taint a) s.taintLevels a
  have integs := VecMap.weigh_remove_le (fun a _ => g.integ a) s.integLevels a
  refine (KernelState.dropOwned_weigh g a).trans ?_
  simp only [KernelState.weigh]
  omega

theorem clearAgent_weigh (a : AgentId) : (clearAgent s a).weigh g ≤ s.weigh g := by
  have active := VecSet.weigh_remove_le g.active s.agentActive a
  have parents := VecMap.weigh_remove_le g.parent s.agentParent a
  have caps := VecMap.weigh_remove_le (fun a _ => g.cap a) s.agentCap a
  have taints := VecMap.weigh_remove_le (fun a _ => g.taint a) s.taintLevels a
  have integs := VecMap.weigh_remove_le (fun a _ => g.integ a) s.integLevels a
  refine (KernelState.dropOwned_weigh g a).trans ?_
  simp only [KernelState.weigh]
  omega

theorem absorb_weigh (a : AgentId) (l : ConfLevel) (li : IntegLevel) (d : Disposition) :
    (absorb s a l li d).weigh g ≤
      s.weigh g + (newKey s.taintLevels g.taint a + newKey s.integLevels g.integ a) := by
  have taints := VecMap.weigh_insertInto_key g.taint s.taintLevels a l
  have integs := VecMap.weigh_insertInto_key g.integ s.integLevels a li
  have pending := KernelState.demoteIf_weigh (s := s) g (d = .monitorBypassed) a
  rw [absorb_eq]
  simp only [KernelState.weigh, newKey]
  omega

theorem settleAt_weigh {inv : InvocationId} (outcome : Outcome) {j : PendingInvocation}
    (found : s.pending.get inv = some j) :
    (settleAt s inv outcome j).pending.weigh g.pending ≤ s.pending.weigh g.pending := by
  unfold settleAt
  by_cases ambiguous : outcome = .ambiguous
  · simp only [ambiguous, if_true]
    exact Nat.le_of_eq (VecMap.weigh_insert_same g.pending found (g.standing inv j j.disposition true))
  · simp only [ambiguous, if_false]
    exact VecMap.weigh_remove_le g.pending s.pending inv

theorem settleAbsorb_weigh (outcome : Outcome) (j : PendingInvocation) :
    (settleAbsorb s outcome j).taintLevels.weigh (fun a _ => g.taint a) ≤
        s.taintLevels.weigh (fun a _ => g.taint a) + newKey s.taintLevels g.taint j.agent ∧
      (settleAbsorb s outcome j).integLevels.weigh (fun a _ => g.integ a) ≤
        s.integLevels.weigh (fun a _ => g.integ a) + newKey s.integLevels g.integ j.agent := by
  have taints := VecMap.weigh_insertInto_key g.taint s.taintLevels j.agent j.policy.outputConf
  have integs := VecMap.weigh_insertInto_key g.integ s.integLevels j.agent j.policy.outputInteg
  unfold settleAbsorb newKey
  by_cases ambiguous : outcome = .ambiguous
  · simp only [ambiguous, ne_eq, not_true_eq_false, if_false, Nat.le_add_right, and_self]
  · simp only [ambiguous, ne_eq, not_false_eq_true, if_true, taints, integs, Nat.le_refl, and_self]

theorem settled_weigh {inv : InvocationId} {outcome : Outcome} {att : Option ResolutionAttestation}
    {j : PendingInvocation} (found : s.pending.get inv = some j) :
    (settled s inv outcome att j).weigh g ≤
      s.weigh g + KernelCommand.growth g s (.settleInvocation inv outcome att) := by
  have standing := KernelState.demoteIf_weigh (s := settleAt s inv outcome j) g (j.disposition ≠ .permitted)
    j.agent
  have record := settleAt_weigh g outcome found
  have labels := settleAbsorb_weigh (s := s) g outcome j
  rw [settled_eq]
  simp only [KernelState.weigh, KernelCommand.growth, found, Option.elim_some]
  cases att with
  | none => simp only [Option.elim_none]; omega
  | some att =>
    have consumed := VecSet.weigh_insert_le g.attestation s.consumedAttestations att.id
    simp only [Option.elim_some]
    omega

theorem BeginEffect.weigh_le {a : AgentId} {inv : InvocationId} {chal : ChallengeId}
    {snap : ActionPolicySnapshot} {egr : VecSet EgressKind} {ah : ContentHash} {authorized : Bool}
    {verdict : Verdict} {mode : Mode}
    (effect : BeginEffect s a inv chal snap egr ah authorized verdict mode s') :
    s'.weigh g ≤
      s.weigh g + KernelCommand.growth g s (.beginInvocation a inv chal snap egr ah authorized) := by
  have consumed := VecSet.weigh_insert_le g.id s.consumedIds inv
  cases effect with
  | permit =>
    have record := VecMap.weigh_insert_le g.pending s.pending inv
      ⟨a, snap, egr, .plain, .permitted, authorized, false⟩
    simp only [KernelState.pend, KernelState.weigh, KernelCommand.growth]
    omega
  | inspect =>
    have scope := VecMap.weigh_insert_le g.challenge s.challenges inv ⟨chal, a, snap, egr, ah, authorized⟩
    simp only [KernelState.challenge, KernelState.weigh, KernelCommand.growth]
    omega
  | bypass =>
    have record := VecMap.weigh_insert_le g.pending s.pending inv
      ⟨a, snap, egr, .bypassed, .monitorBypassed, authorized, false⟩
    have standing := g.standing inv ⟨a, snap, egr, .bypassed, .permitted, authorized, false⟩
      .monitorBypassed false
    simp only [KernelState.pend, KernelState.weigh, KernelCommand.growth] at *
    omega

theorem resolve_weigh {inv : InvocationId} {sc : ChallengeScope} {att : InspectionAttestation}
    (opened : s.challenges.get inv = some sc) (admitted : Bool) :
    (resolve s inv sc att.id admitted).weigh g ≤
      s.weigh g + KernelCommand.growth g s (.authorizeInspected inv att) := by
  have record := VecMap.weigh_insert_le g.pending s.pending inv
    ⟨sc.agent, sc.policy, sc.egress, .inspected att.id, .permitted, sc.authorized, false⟩
  have closed := VecMap.weigh_remove_le g.challenge s.challenges inv
  have consumed := VecSet.weigh_insert_le g.attestation s.consumedAttestations att.id
  simp only [resolve, KernelState.weigh, KernelCommand.growth, opened, Option.elim_some]
  cases admitted
  · simp only [Bool.false_eq_true, if_false]; omega
  · simp only [if_true]; omega

theorem crossRelease_weigh (q : CrossInput) (branch : CrossBranch) :
    (crossRelease s q branch).taintLevels.weigh (fun a _ => g.taint a) ≤
        s.taintLevels.weigh (fun a _ => g.taint a) + newKey s.taintLevels g.taint q.rcv ∧
      (crossRelease s q branch).integLevels.weigh (fun a _ => g.integ a) ≤
        s.integLevels.weigh (fun a _ => g.integ a) + newKey s.integLevels g.integ q.rcv := by
  cases branch with
  | endorsed => exact ⟨Nat.le_of_eq (VecMap.weigh_insertInto_key g.taint s.taintLevels q.rcv q.releasedConf),
      Nat.le_of_eq (VecMap.weigh_insertInto_key g.integ s.integLevels q.rcv q.releasedInteg)⟩
  | unendorsed => exact ⟨VecMap.weigh_foldl_insertInto_key g.taint _ s.taintLevels q.rcv,
      VecMap.weigh_foldl_insertInto_key g.integ _ s.integLevels q.rcv⟩
  | fail => exact ⟨Nat.le_add_right _ _, Nat.le_add_right _ _⟩

theorem crossConsume_weigh (q : CrossInput) (branch : CrossBranch) :
    (crossConsume s q branch).consumedAttestations.weigh g.attestation ≤
      s.consumedAttestations.weigh g.attestation + q.evidence.elim 0 fun e => g.attestation e.id := by
  unfold crossConsume
  cases q.evidence with
  | none => simp only [ite_self, Option.elim_none, Nat.add_zero, Nat.le_refl]
  | some e =>
    rw [Option.elim_some]
    by_cases endorsed : branch = .endorsed
    · simpa only [endorsed, if_true] using VecSet.weigh_insert_le g.attestation s.consumedAttestations e.id
    · simp only [endorsed, if_false, Nat.le_add_right]

theorem crossed_weigh (q : CrossInput) (branch : CrossBranch) (d : Disposition) :
    (crossed s q branch d).weigh g ≤ s.weigh g + KernelCommand.growth g s (.crossOutput q) := by
  have labels := crossRelease_weigh (s := s) g q branch
  have evidence := crossConsume_weigh (s := s) g q branch
  have consumed := VecSet.weigh_insert_le g.crossing s.consumedCrossings q.crossing
  have pending := KernelState.demoteIf_weigh (s := s) g (d = .monitorBypassed) q.rcv
  have grants : (if branch = .endorsed then s.decrementGrantAt q.rcv q.assignment
      else s).crossingGrants.weigh (fun key _ => g.grant key) =
        s.crossingGrants.weigh fun key _ => g.grant key := by
    by_cases endorsed : branch = .endorsed
    · simpa only [endorsed, if_true] using KernelState.decrementGrantAt_weigh g q.rcv q.assignment
    · simp only [endorsed, if_false]
  rw [crossed_eq]
  simp only [KernelState.weigh, KernelCommand.growth]
  omega

/-- A committed command adds at most its growth, whatever is weighed. -/
theorem KernelCommand.apply_weigh {command : KernelCommand}
    (applied : command.apply bg s = .ok (s', r)) : s'.weigh g ≤ s.weigh g + command.growth g s := by
  cases command with
  | registerTool tool =>
    obtain ⟨-, rfl, -⟩ := registerTool_ok.mp applied
    have registered := VecSet.weigh_insert_le g.tool s.toolRegistered tool
    simp only [KernelState.weigh, growth]
    omega
  | unregisterTool tool =>
    obtain ⟨-, -, -, rfl, -⟩ := unregisterTool_ok.mp applied
    have removed := VecSet.weigh_remove_le g.tool s.toolRegistered tool
    simp only [KernelState.weigh, growth]
    omega
  | delegate grantor grantee =>
    obtain ⟨-, -, -, -, rfl, -⟩ := delegate_ok.mp applied
    exact enroll_weigh g grantor grantee
  | grantCapability parent child cap =>
    obtain ⟨-, -, -, -, rfl, -⟩ := grantCapability_ok.mp applied
    have granted := VecMap.weigh_insertInto_key g.cap s.agentCap child cap
    simp only [KernelState.weigh, growth, newKey]
    omega
  | grantCrossing grantor agent assignment n =>
    obtain ⟨-, -, -, rfl, -⟩ := grantCrossing_ok.mp applied
    have granted := VecMap.weigh_insert_le (fun key _ => g.grant key) s.crossingGrants
      ⟨agent, assignment⟩ ⟨n, n⟩
    simp only [KernelState.weigh, growth]
    omega
  | revoke parent target =>
    obtain ⟨-, -, -, -, rfl, -⟩ := revoke_ok.mp applied
    exact clearAgent_weigh g target
  | cascadeRevoke child parent =>
    obtain ⟨-, -, -, -, rfl, -⟩ := cascadeRevoke_ok.mp applied
    exact clearAgent_weigh g child
  | ingest a src pconf pinteg =>
    obtain ⟨-, -, d, -, rfl, -⟩ := ingest_ok.mp applied
    exact absorb_weigh g a pconf pinteg d
  | settleInvocation inv outcome att =>
    obtain ⟨j, found, -, -, -, rfl, -⟩ := settleInvocation_ok.mp applied
    exact settled_weigh g found
  | beginInvocation a inv chal snap egr ah authorized =>
    obtain ⟨-, effect, -⟩ := beginInvocation_ok.mp applied
    exact effect.weigh_le g
  | authorizeInspected inv att =>
    obtain ⟨sc, opened, -, -, rfl, -⟩ := authorizeInspected_ok.mp applied
    exact resolve_weigh g opened _
  | crossOutput q =>
    obtain ⟨-, -, -, -, -, d, -, rfl, -⟩ := crossOutput_ok.mp applied
    exact crossed_weigh g q _ d

end Argus
