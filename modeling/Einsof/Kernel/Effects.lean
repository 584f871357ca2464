import Einsof.Kernel.Commands

namespace Argus

variable {s : KernelState}

namespace KernelState

theorem taints_insertInto {a b : AgentId} {l k : ConfLevel} :
    k ∈ (s.taintLevels.insertInto a l).getSetOrEmpty b ↔ s.Taints b k ∨ (b = a ∧ k = l) :=
  VecMap.mem_insertInto

theorem integs_insertInto {a b : AgentId} {l k : IntegLevel} :
    k ∈ (s.integLevels.insertInto a l).getSetOrEmpty b ↔ s.Integs b k ∨ (b = a ∧ k = l) :=
  VecMap.mem_insertInto

end KernelState

section Compartment

variable {grantor a b c : AgentId}

@[simp] theorem enroll_agentActive : (enroll s grantor a).agentActive = s.agentActive.insert a := rfl
@[simp] theorem enroll_consumedIds : (enroll s grantor a).consumedIds = s.consumedIds := rfl
@[simp] theorem enroll_consumedAttestations :
    (enroll s grantor a).consumedAttestations = s.consumedAttestations := rfl
@[simp] theorem enroll_consumedCrossings :
    (enroll s grantor a).consumedCrossings = s.consumedCrossings := rfl
@[simp] theorem enroll_toolRegistered : (enroll s grantor a).toolRegistered = s.toolRegistered := rfl

@[simp] theorem enroll_parent : (enroll s grantor a).agentParent.get c =
    if c = a then some grantor else (s.agentParent.get c).filter (· ≠ a) := by
  have kept := VecMap.get_rebuild s.agentParent (fun c p => if c ≠ a ∧ p ≠ a then some p else none)
    (fun kept child p => if child ≠ a ∧ p ≠ a then kept.insert child p else kept)
    (by intro kept c p; split <;> simp [*]) c
  rw [show (enroll s grantor a).agentParent = VecMap.insert _ a grantor from rfl, VecMap.get_insert, kept]
  by_cases self : c = a
  · simp only [self, if_true]
  · cases s.agentParent.get c <;> simp [self, Option.filter]

@[simp] theorem enroll_hasCap {cap : CapKind} :
    (enroll s grantor a).HasCap b cap ↔ s.HasCap b cap ∧ b ≠ a := VecMap.mem_remove_getSetOrEmpty

@[simp] theorem enroll_taints {l : ConfLevel} :
    (enroll s grantor a).Taints b l ↔ s.Taints b l ∧ b ≠ a := VecMap.mem_remove_getSetOrEmpty

@[simp] theorem enroll_integs {l : IntegLevel} :
    (enroll s grantor a).Integs b l ↔ s.Integs b l ∧ b ≠ a := VecMap.mem_remove_getSetOrEmpty

@[simp] theorem enroll_pending {i : InvocationId} :
    (enroll s grantor a).pending.get i = (s.pending.get i).filter (·.agent ≠ a) :=
  KernelState.dropPendingOf_get _ _ _

@[simp] theorem enroll_challenges {i : InvocationId} :
    (enroll s grantor a).challenges.get i = (s.challenges.get i).filter (·.agent ≠ a) :=
  KernelState.dropChallengesOf_get _ _ _

@[simp] theorem enroll_crossingGrants {key : CrossingKey} :
    (enroll s grantor a).crossingGrants.get key =
      if key.agent = a then none else s.crossingGrants.get key :=
  KernelState.dropGrantsOf_get _ _ _

@[simp] theorem clearAgent_agentActive : (clearAgent s a).agentActive = s.agentActive.remove a := rfl
@[simp] theorem clearAgent_consumedIds : (clearAgent s a).consumedIds = s.consumedIds := rfl
@[simp] theorem clearAgent_consumedAttestations :
    (clearAgent s a).consumedAttestations = s.consumedAttestations := rfl
@[simp] theorem clearAgent_consumedCrossings :
    (clearAgent s a).consumedCrossings = s.consumedCrossings := rfl
@[simp] theorem clearAgent_toolRegistered : (clearAgent s a).toolRegistered = s.toolRegistered := rfl

@[simp] theorem clearAgent_parent : (clearAgent s a).agentParent.get c =
    if c = a then none else s.agentParent.get c := VecMap.get_remove _ _ _

@[simp] theorem clearAgent_hasCap {cap : CapKind} :
    (clearAgent s a).HasCap b cap ↔ s.HasCap b cap ∧ b ≠ a := VecMap.mem_remove_getSetOrEmpty

@[simp] theorem clearAgent_taints {l : ConfLevel} :
    (clearAgent s a).Taints b l ↔ s.Taints b l ∧ b ≠ a := VecMap.mem_remove_getSetOrEmpty

@[simp] theorem clearAgent_integs {l : IntegLevel} :
    (clearAgent s a).Integs b l ↔ s.Integs b l ∧ b ≠ a := VecMap.mem_remove_getSetOrEmpty

@[simp] theorem clearAgent_pending {i : InvocationId} :
    (clearAgent s a).pending.get i = (s.pending.get i).filter (·.agent ≠ a) :=
  KernelState.dropPendingOf_get _ _ _

@[simp] theorem clearAgent_challenges {i : InvocationId} :
    (clearAgent s a).challenges.get i = (s.challenges.get i).filter (·.agent ≠ a) :=
  KernelState.dropChallengesOf_get _ _ _

@[simp] theorem clearAgent_crossingGrants {key : CrossingKey} :
    (clearAgent s a).crossingGrants.get key =
      if key.agent = a then none else s.crossingGrants.get key :=
  KernelState.dropGrantsOf_get _ _ _

end Compartment

section Absorb

variable {a b : AgentId} {l : ConfLevel} {li : IntegLevel} {d : Disposition} {i : InvocationId}

def demotedIf (p : Prop) [Decidable p] (a : AgentId) (j : PendingInvocation) : PendingInvocation :=
  if p then KernelState.demoted a j else j

section Demotion

variable (p : Prop) [Decidable p] (a : AgentId) (j : PendingInvocation)

/-- Demotion writes the disposition alone. -/
theorem demotedIf_eq : demotedIf p a j = { j with disposition := (demotedIf p a j).disposition } := by
  unfold demotedIf KernelState.demoted
  repeat' split
  all_goals rfl

theorem demotedIf_disposition : (demotedIf p a j).disposition = j.disposition ∨
    (demotedIf p a j).disposition = .monitorBypassed := by
  unfold demotedIf KernelState.demoted
  repeat' split
  · exact .inr rfl
  · exact .inl rfl
  · exact .inl rfl

theorem demotedIf_agent : (demotedIf p a j).agent = j.agent := by rw [demotedIf_eq]

theorem demotedIf_policy : (demotedIf p a j).policy = j.policy := by rw [demotedIf_eq]

theorem demotedIf_egress : (demotedIf p a j).egress = j.egress := by rw [demotedIf_eq]

@[simp] theorem demotedIf_quarantined : (demotedIf p a j).quarantined = j.quarantined := by
  rw [demotedIf_eq]

end Demotion

theorem demoteIf_get {p : Prop} [Decidable p] :
    (if p then s.demoteAllOf a else s).pending.get i = (s.pending.get i).map (demotedIf p a) := by
  by_cases holds : p
  · have same : demotedIf p a = KernelState.demoted a := by funext j; simp [demotedIf, holds]
    simp only [holds, if_true, KernelState.demoteAllOf_get, same]
  · have same : demotedIf p a = id := by funext j; simp [demotedIf, holds]
    simp only [holds, if_false, same, Option.map_id_fun, id_eq]

theorem absorb_eq : absorb s a l li d = { s with
    taintLevels := s.taintLevels.insertInto a l
    integLevels := s.integLevels.insertInto a li
    pending := (if d = .monitorBypassed then s.demoteAllOf a else s).pending } := by
  unfold absorb
  split <;> rfl

@[simp] theorem absorb_taints {k : ConfLevel} :
    (absorb s a l li d).Taints b k ↔ s.Taints b k ∨ (b = a ∧ k = l) := by
  rw [absorb_eq]
  exact KernelState.taints_insertInto

@[simp] theorem absorb_integs {k : IntegLevel} :
    (absorb s a l li d).Integs b k ↔ s.Integs b k ∨ (b = a ∧ k = li) := by
  rw [absorb_eq]
  exact KernelState.integs_insertInto

@[simp] theorem absorb_pending :
    (absorb s a l li d).pending.get i = (s.pending.get i).map (demotedIf (d = .monitorBypassed) a) := by
  rw [absorb_eq]
  exact demoteIf_get

end Absorb

section Settle

variable {inv i : InvocationId} {outcome : Outcome} {att : Option ResolutionAttestation}
  {j : PendingInvocation} {b : AgentId}

theorem settled_eq : settled s inv outcome att j = { s with
    pending := (if j.disposition ≠ .permitted then (settleAt s inv outcome j).demoteAllOf j.agent
      else settleAt s inv outcome j).pending
    taintLevels := (settleAbsorb s outcome j).taintLevels
    integLevels := (settleAbsorb s outcome j).integLevels
    consumedAttestations := match att with
      | some r => s.consumedAttestations.insert r.id
      | none => s.consumedAttestations } := by
  unfold settled
  split <;> rfl

@[simp] theorem settled_taints {l : ConfLevel} : (settled s inv outcome att j).Taints b l ↔
    s.Taints b l ∨ (outcome ≠ .ambiguous ∧ b = j.agent ∧ l = j.policy.outputConf) := by
  rw [settled_eq]
  by_cases ordinary : outcome ≠ .ambiguous <;>
    simp [settleAbsorb, KernelState.Taints, ordinary]

@[simp] theorem settled_integs {l : IntegLevel} : (settled s inv outcome att j).Integs b l ↔
    s.Integs b l ∨ (outcome ≠ .ambiguous ∧ b = j.agent ∧ l = j.policy.outputInteg) := by
  rw [settled_eq]
  by_cases ordinary : outcome ≠ .ambiguous <;>
    simp [settleAbsorb, KernelState.Integs, ordinary]

@[simp] theorem settled_pending : (settled s inv outcome att j).pending.get i =
    (if i = inv then if outcome = .ambiguous then some { j with quarantined := true } else none
      else s.pending.get i).map (demotedIf (j.disposition ≠ .permitted) j.agent) := by
  rw [settled_eq]
  refine demoteIf_get.trans (congrArg _ ?_)
  unfold settleAt
  by_cases ambiguous : outcome = .ambiguous <;> simp [ambiguous]

@[simp] theorem settled_consumedAttestations {x : AttestationId} :
    x ∈ (settled s inv outcome att j).consumedAttestations ↔
      x ∈ s.consumedAttestations ∨ ∃ r, att = some r ∧ x = r.id := by
  rw [settled_eq]
  cases att <;> simp

end Settle

section Begin

variable {inv i : InvocationId} {j : PendingInvocation} {sc : ChallengeScope}

@[simp] theorem pend_pending :
    (s.pend inv j).pending.get i = if i = inv then some j else s.pending.get i := VecMap.get_insert _ _ _ _

@[simp] theorem challenge_challenges : (s.challenge inv sc).challenges.get i =
    if i = inv then some sc else s.challenges.get i := VecMap.get_insert _ _ _ _

theorem BeginEffect.frame {a : AgentId} {chal : ChallengeId} {snap : ActionPolicySnapshot}
    {egr : VecSet EgressKind} {ah : ContentHash} {authorized : Bool} {verdict : Verdict} {mode : Mode}
    {s' : KernelState} (effect : BeginEffect s a inv chal snap egr ah authorized verdict mode s') :
    s' = { s with
      pending := s'.pending
      challenges := s'.challenges
      consumedIds := s.consumedIds.insert inv } := by
  cases effect <;> rfl

@[simp] theorem resolve_pending {x : AttestationId} {admitted : Bool} :
    (resolve s inv sc x admitted).pending.get i = if i = inv ∧ admitted = true then
        some ⟨sc.agent, sc.policy, sc.egress, .inspected x, .permitted, sc.authorized, false⟩
      else s.pending.get i := by
  unfold resolve
  cases admitted <;> simp

@[simp] theorem resolve_challenges {x : AttestationId} {admitted : Bool} :
    (resolve s inv sc x admitted).challenges.get i = if i = inv then none else s.challenges.get i :=
  VecMap.get_remove _ _ _

end Begin

section Cross

variable {q : CrossInput} {branch : CrossBranch} {d : Disposition} {b : AgentId} {i : InvocationId}

theorem crossed_eq : crossed s q branch d = { s with
    taintLevels := (crossRelease s q branch).taintLevels
    integLevels := (crossRelease s q branch).integLevels
    pending := (if d = .monitorBypassed then s.demoteAllOf q.rcv else s).pending
    consumedCrossings := s.consumedCrossings.insert q.crossing
    consumedAttestations := (crossConsume s q branch).consumedAttestations
    crossingGrants := (if branch = .endorsed then s.decrementGrantAt q.rcv q.assignment
      else s).crossingGrants } := by
  unfold crossed
  cases branch <;> cases d <;> rfl

def releasesConf (s : KernelState) (q : CrossInput) : CrossBranch → ConfLevel → Prop
  | .endorsed, l => l = q.releasedConf
  | .unendorsed, l => s.Taints q.src l
  | .fail, _ => False

def releasesInteg (s : KernelState) (q : CrossInput) : CrossBranch → IntegLevel → Prop
  | .endorsed, l => l = q.releasedInteg
  | .unendorsed, l => s.Integs q.src l
  | .fail, _ => False

@[simp] theorem crossed_taints {l : ConfLevel} : (crossed s q branch d).Taints b l ↔
    s.Taints b l ∨ (b = q.rcv ∧ releasesConf s q branch l) := by
  rw [crossed_eq]
  cases branch with
  | endorsed => exact KernelState.taints_insertInto
  | unendorsed => exact VecMap.mem_foldl_insertInto _ _ _ _ _
  | fail => simp [releasesConf, crossRelease, KernelState.Taints]

@[simp] theorem crossed_integs {l : IntegLevel} : (crossed s q branch d).Integs b l ↔
    s.Integs b l ∨ (b = q.rcv ∧ releasesInteg s q branch l) := by
  rw [crossed_eq]
  cases branch with
  | endorsed => exact KernelState.integs_insertInto
  | unendorsed => exact VecMap.mem_foldl_insertInto _ _ _ _ _
  | fail => simp [releasesInteg, crossRelease, KernelState.Integs]

@[simp] theorem crossed_pending : (crossed s q branch d).pending.get i =
    (s.pending.get i).map (demotedIf (d = .monitorBypassed) q.rcv) := by
  rw [crossed_eq]
  exact demoteIf_get

@[simp] theorem crossed_crossingGrants {key : CrossingKey} :
    (crossed s q branch d).crossingGrants.get key =
      if branch = .endorsed ∧ key = ⟨q.rcv, q.assignment⟩ then
        (s.crossingGrants.get key).map (fun g => ⟨g.remaining - 1, g.provisioned⟩)
      else s.crossingGrants.get key := by
  rw [crossed_eq]
  by_cases endorsed : branch = .endorsed <;> simp [endorsed]

@[simp] theorem crossed_consumedAttestations {x : AttestationId} :
    x ∈ (crossed s q branch d).consumedAttestations ↔
      x ∈ s.consumedAttestations ∨ (branch = .endorsed ∧ ∃ e, q.evidence = some e ∧ x = e.id) := by
  rw [crossed_eq]
  by_cases endorsed : branch = .endorsed
  · cases evidence : q.evidence <;> simp [crossConsume, endorsed, evidence]
  · simp [crossConsume, endorsed]

theorem crossHolds_iff {bg : BackgroundTheory} : crossHolds s bg q branch = true ↔
    (∀ l, releasesConf s q branch l → s.PendingOf q.rcv (bg.FlowHolds · l) ∧
      s.PendingOf q.rcv (·.ClearHolds l)) ∧
    ∀ l, releasesInteg s q branch l → s.PendingOf q.rcv (·.IntegHolds l) := by
  cases branch with
  | endorsed =>
    simp only [crossHolds, ingestHolds_iff, releasesConf, releasesInteg, forall_eq, and_assoc]
  | unendorsed =>
    simp only [crossHolds, VecSet.foldl_latch_items, not_or, not_not, true_and, ingestConfHold_iff,
      ingestClearHold_iff, ingestIntegHold_iff, releasesConf, releasesInteg, KernelState.Taints,
      KernelState.Integs]
  | fail => simp [crossHolds, releasesConf, releasesInteg]

end Cross

end Argus
