import Einsof.Kernel.Confinement
import Einsof.Kernel.Same

namespace Argus

/-- Everything the kernel keeps on one agent, its share of every collection read as a map. -/
@[ext] structure Compartment where
  active : Bool
  parent : Option AgentId
  caps : Option (VecSet CapKind)
  taints : Option (VecSet ConfLevel)
  integs : Option (VecSet IntegLevel)
  pending : InvocationId → Option PendingInvocation
  challenges : InvocationId → Option ChallengeScope
  grants : AssignmentDigest → Option CrossingGrant

def KernelState.compartment (s : KernelState) (b : AgentId) : Compartment where
  active := s.agentActive.contains b
  parent := s.agentParent.get b
  caps := s.agentCap.get b
  taints := s.taintLevels.get b
  integs := s.integLevels.get b
  pending i := (s.pending.get i).filter (·.agent = b)
  challenges i := (s.challenges.get i).filter (·.agent = b)
  grants assignment := s.crossingGrants.get ⟨b, assignment⟩

/-- The agent a command acts on; a settlement or an authorization acts on the owner of the record. -/
def KernelCommand.subject (s : KernelState) : KernelCommand → Option AgentId
  | .registerTool _ | .unregisterTool _ => none
  | .delegate _ grantee => some grantee
  | .grantCapability _ child _ => some child
  | .grantCrossing _ agent _ _ => some agent
  | .revoke _ target => some target
  | .cascadeRevoke child _ => some child
  | .ingest a _ _ _ => some a
  | .settleInvocation inv _ _ => (s.pending.get inv).map (·.agent)
  | .beginInvocation a _ _ _ _ _ _ => some a
  | .authorizeInspected inv _ => (s.challenges.get inv).map (·.agent)
  | .crossOutput q => some q.rcv

variable {s t s' : KernelState} {bg : BackgroundTheory} {a b grantor : AgentId} {inv : InvocationId}

section Frame

theorem filter_filter_ne {V : Type*} {owner : V → AgentId} (entry : Option V) (other : b ≠ a) :
    (entry.filter (fun v => owner v ≠ a)).filter (fun v => owner v = b) =
      entry.filter (fun v => owner v = b) := by
  cases entry with
  | none => rfl
  | some v =>
    by_cases own : owner v = b
    · simp [Option.filter, own, other]
    · by_cases cleared : owner v = a <;> simp [Option.filter, own, cleared, Ne.symm other]

/-- Rewriting the record of another agent, or adding one, keeps the records `b` owns. -/
theorem filter_of_foreign {V : Type*} {owner : V → AgentId} {entry entry' : Option V}
    (before : ∀ v, entry = some v → owner v ≠ b) (after : ∀ v, entry' = some v → owner v ≠ b) :
    entry'.filter (fun v => owner v = b) = entry.filter (fun v => owner v = b) := by
  have none_of : ∀ e : Option V, (∀ v, e = some v → owner v ≠ b) →
      e.filter (fun v => owner v = b) = none := by
    intro e foreign
    rw [Option.filter_eq_none_iff]
    simpa using foreign
  rw [none_of entry before, none_of entry' after]

/-- The same for an entry that is rewritten in some cases only. -/
theorem filter_written {V : Type*} {owner : V → AgentId} {p : Prop} [Decidable p]
    {entry written : Option V} (before : p → ∀ v, entry = some v → owner v ≠ b)
    (after : p → ∀ v, written = some v → owner v ≠ b) :
    (if p then written else entry).filter (fun v => owner v = b) =
      entry.filter (fun v => owner v = b) := by
  by_cases here : p
  · rw [if_pos here]
    exact filter_of_foreign (before here) (after here)
  · rw [if_neg here]

theorem filter_demotedIf {p : Prop} [Decidable p] (entry : Option PendingInvocation) (other : b ≠ a) :
    (entry.map (demotedIf p a)).filter (·.agent = b) = entry.filter (·.agent = b) := by
  cases entry with
  | none => rfl
  | some j =>
    by_cases own : j.agent = a
    · apply filter_of_foreign
      · intro k same
        cases same
        exact fun here => other (here.symm.trans own)
      · intro k same
        cases same
        rw [demotedIf_agent]
        exact fun here => other (here.symm.trans own)
    · have kept : demotedIf p a j = j := by simp [demotedIf, KernelState.demoted, own]
      rw [Option.map_some, kept]

theorem enroll_compartment (other : b ≠ a) (childless : ∀ child, s.agentParent.get child ≠ some a) :
    (enroll s grantor a).compartment b = s.compartment b := by
  apply Compartment.ext
  · rw [Bool.eq_iff_iff]
    simp [KernelState.compartment, other]
  · have kept : (s.agentParent.get b).filter (· ≠ a) = s.agentParent.get b := by
      cases here : s.agentParent.get b with
      | none => rfl
      | some parent =>
        have foreign : parent ≠ a := fun same => childless b (here.trans (congrArg some same))
        simp [Option.filter, foreign]
    rw [KernelState.compartment, enroll_parent, if_neg other, kept]
    rfl
  · exact (VecMap.get_remove _ _ _).trans (if_neg other)
  · exact (VecMap.get_remove _ _ _).trans (if_neg other)
  · exact (VecMap.get_remove _ _ _).trans (if_neg other)
  · funext i
    simp only [KernelState.compartment, enroll_pending]
    exact filter_filter_ne _ other
  · funext i
    simp only [KernelState.compartment, enroll_challenges]
    exact filter_filter_ne _ other
  · funext assignment
    simp [KernelState.compartment, other]

theorem clearAgent_compartment (other : b ≠ a) :
    (clearAgent s a).compartment b = s.compartment b := by
  apply Compartment.ext
  · rw [Bool.eq_iff_iff]
    simp [KernelState.compartment, other]
  · simp [KernelState.compartment, other]
  · exact (VecMap.get_remove _ _ _).trans (if_neg other)
  · exact (VecMap.get_remove _ _ _).trans (if_neg other)
  · exact (VecMap.get_remove _ _ _).trans (if_neg other)
  · funext i
    simp only [KernelState.compartment, clearAgent_pending]
    exact filter_filter_ne _ other
  · funext i
    simp only [KernelState.compartment, clearAgent_challenges]
    exact filter_filter_ne _ other
  · funext assignment
    simp [KernelState.compartment, other]

theorem grantCapability_compartment {cap : CapKind} (other : b ≠ a) :
    { s with agentCap := s.agentCap.insertInto a cap }.compartment b = s.compartment b := by
  have caps : (s.agentCap.insertInto a cap).get b = s.agentCap.get b := by
    rw [VecMap.get_insertInto, if_neg other]
  simp only [KernelState.compartment, caps]

theorem grantCrossing_compartment {assignment : AssignmentDigest} {g : CrossingGrant} (other : b ≠ a) :
    { s with crossingGrants := s.crossingGrants.insert ⟨a, assignment⟩ g }.compartment b =
      s.compartment b := by
  have grants : ∀ own : AssignmentDigest, (s.crossingGrants.insert ⟨a, assignment⟩ g).get ⟨b, own⟩ =
      s.crossingGrants.get ⟨b, own⟩ := by
    intro own
    rw [VecMap.get_insert, if_neg (fun same => other (congrArg CrossingKey.agent same))]
  simp only [KernelState.compartment, grants]

theorem absorb_compartment {l : ConfLevel} {li : IntegLevel} {d : Disposition} (other : b ≠ a) :
    (absorb s a l li d).compartment b = s.compartment b := by
  have taints : (s.taintLevels.insertInto a l).get b = s.taintLevels.get b := by
    rw [VecMap.get_insertInto, if_neg other]
  have integs : (s.integLevels.insertInto a li).get b = s.integLevels.get b := by
    rw [VecMap.get_insertInto, if_neg other]
  apply Compartment.ext
  · rw [absorb_eq]; rfl
  · rw [absorb_eq]; rfl
  · rw [absorb_eq]; rfl
  · rw [absorb_eq]; exact taints
  · rw [absorb_eq]; exact integs
  · funext i
    simp only [KernelState.compartment, absorb_pending]
    exact filter_demotedIf _ other
  · rw [absorb_eq]; rfl
  · rw [absorb_eq]; rfl

theorem settled_compartment {outcome : Outcome} {att : Option ResolutionAttestation}
    {j : PendingInvocation} (present : s.pending.get inv = some j) (other : b ≠ j.agent) :
    (settled s inv outcome att j).compartment b = s.compartment b := by
  apply Compartment.ext
  · rw [settled_eq]; rfl
  · rw [settled_eq]; rfl
  · rw [settled_eq]; rfl
  · rw [settled_eq]
    simp only [KernelState.compartment, settleAbsorb]
    split
    · rw [VecMap.get_insertInto, if_neg other]
    · rfl
  · rw [settled_eq]
    simp only [KernelState.compartment, settleAbsorb]
    split
    · rw [VecMap.get_insertInto, if_neg other]
    · rfl
  · funext i
    simp only [KernelState.compartment, settled_pending]
    rw [filter_demotedIf _ other]
    apply filter_written
    · intro here k same
      rw [here, present] at same
      cases same
      exact Ne.symm other
    · intro _ k same
      split at same <;> cases same
      exact Ne.symm other
  · rw [settled_eq]; rfl
  · rw [settled_eq]; rfl

theorem pend_compartment {j : PendingInvocation} (fresh : s.pending.get inv = none)
    (other : b ≠ j.agent) : (s.pend inv j).compartment b = s.compartment b := by
  have pending : ∀ i, ((s.pend inv j).pending.get i).filter (·.agent = b) =
      (s.pending.get i).filter (·.agent = b) := by
    intro i
    rw [pend_pending]
    apply filter_written
    · intro here k same
      rw [here, fresh] at same
      cases same
    · intro _ k same
      cases same
      exact Ne.symm other
  simp only [KernelState.compartment, pending]
  rfl

theorem challenge_compartment {sc : ChallengeScope} (fresh : s.challenges.get inv = none)
    (other : b ≠ sc.agent) : (s.challenge inv sc).compartment b = s.compartment b := by
  have challenges : ∀ i, ((s.challenge inv sc).challenges.get i).filter (·.agent = b) =
      (s.challenges.get i).filter (·.agent = b) := by
    intro i
    rw [challenge_challenges]
    apply filter_written
    · intro here x same
      rw [here, fresh] at same
      cases same
    · intro _ x same
      cases same
      exact Ne.symm other
  simp only [KernelState.compartment, challenges]
  rfl

theorem resolve_compartment {sc : ChallengeScope} {x : AttestationId} {admitted : Bool}
    (present : s.challenges.get inv = some sc)
    (fresh : admitted = true → s.pending.get inv = none) (other : b ≠ sc.agent) :
    (resolve s inv sc x admitted).compartment b = s.compartment b := by
  have pending : ∀ i, ((resolve s inv sc x admitted).pending.get i).filter (·.agent = b) =
      (s.pending.get i).filter (·.agent = b) := by
    intro i
    rw [resolve_pending]
    apply filter_written
    · intro here k same
      rw [here.1, fresh here.2] at same
      cases same
    · intro _ k same
      cases same
      exact Ne.symm other
  have challenges : ∀ i, ((resolve s inv sc x admitted).challenges.get i).filter (·.agent = b) =
      (s.challenges.get i).filter (·.agent = b) := by
    intro i
    rw [resolve_challenges]
    apply filter_written
    · intro here x same
      rw [here, present] at same
      cases same
      exact Ne.symm other
    · intro _ x same
      cases same
  simp only [KernelState.compartment, pending, challenges]
  rfl

theorem crossed_compartment {q : CrossInput} {branch : CrossBranch} {d : Disposition}
    (other : b ≠ q.rcv) : (crossed s q branch d).compartment b = s.compartment b := by
  apply Compartment.ext
  · rw [crossed_eq]; rfl
  · rw [crossed_eq]; rfl
  · rw [crossed_eq]; rfl
  · rw [crossed_eq]
    cases branch with
    | endorsed => exact (VecMap.get_insertInto _ _ _ _).trans (if_neg other)
    | unendorsed => exact VecMap.get_foldl_insertInto_of_ne _ _ other
    | fail => rfl
  · rw [crossed_eq]
    cases branch with
    | endorsed => exact (VecMap.get_insertInto _ _ _ _).trans (if_neg other)
    | unendorsed => exact VecMap.get_foldl_insertInto_of_ne _ _ other
    | fail => rfl
  · funext i
    simp only [KernelState.compartment, crossed_pending]
    exact filter_demotedIf _ other
  · rw [crossed_eq]; rfl
  · funext assignment
    simp [KernelState.compartment, other]

/-- An accepted command leaves the compartment of every agent but its subject as it was. -/
theorem compartment_step {c : KernelCommand} {r : KernelAction}
    (accepted : (kernel bg).step s c = .ok (s', r)) (other : c.subject s ≠ some b) :
    s'.compartment b = s.compartment b := by
  have apart : ∀ {a}, c.subject s = some a → b ≠ a := by
    intro a subject same
    subst same
    exact other subject
  cases c with
  | registerTool tool =>
    obtain ⟨-, rfl, -⟩ := registerTool_ok.mp accepted
    rfl
  | unregisterTool tool =>
    obtain ⟨-, -, -, rfl, -⟩ := unregisterTool_ok.mp accepted
    rfl
  | delegate grantor grantee =>
    obtain ⟨-, -, -, childless, rfl, -⟩ := delegate_ok.mp accepted
    exact enroll_compartment (apart rfl) childless
  | grantCapability parent child cap =>
    obtain ⟨-, -, -, -, rfl, -⟩ := grantCapability_ok.mp accepted
    exact grantCapability_compartment (apart rfl)
  | grantCrossing grantor agent assignment n =>
    obtain ⟨-, -, -, rfl, -⟩ := grantCrossing_ok.mp accepted
    exact grantCrossing_compartment (apart rfl)
  | revoke parent target =>
    obtain ⟨-, -, -, -, rfl, -⟩ := revoke_ok.mp accepted
    exact clearAgent_compartment (apart rfl)
  | cascadeRevoke child parent =>
    obtain ⟨-, -, -, -, rfl, -⟩ := cascadeRevoke_ok.mp accepted
    exact clearAgent_compartment (apart rfl)
  | ingest a src l li =>
    obtain ⟨-, -, d, -, rfl, -⟩ := ingest_ok.mp accepted
    exact absorb_compartment (apart rfl)
  | settleInvocation inv outcome att =>
    obtain ⟨j, present, -, -, -, rfl, -⟩ := settleInvocation_ok.mp accepted
    exact settled_compartment present (apart (congrArg (Option.map _) present))
  | beginInvocation a inv chal snap egr ah authorized =>
    obtain ⟨guards, effect, -⟩ := beginInvocation_ok.mp accepted
    generalize beginVerdict s bg a snap egr authorized = verdict at effect
    generalize bg.mode = mode at effect
    cases effect with
    | permit => exact pend_compartment guards.notPending (apart rfl)
    | inspect => exact challenge_compartment guards.notOpen (apart rfl)
    | bypass => exact pend_compartment guards.notPending (apart rfl)
  | authorizeInspected inv att =>
    obtain ⟨sc, present, -, -, rfl, -⟩ := authorizeInspected_ok.mp accepted
    apply resolve_compartment present ?_ (apart (congrArg (Option.map _) present))
    intro admits
    exact (authorizeAdmits_iff.mp (Bool.and_eq_true_iff.mp admits).2).1.notPending
  | crossOutput q =>
    obtain ⟨-, -, -, -, -, d, -, rfl, -⟩ := crossOutput_ok.mp accepted
    exact crossed_compartment (apart rfl)

end Frame

/-- Two compartments hold the same capabilities, labels and records, read as sets and maps. -/
structure Compartment.Agrees (m n : Compartment) : Prop where
  caps : ∀ cap, (∃ held, m.caps = some held ∧ cap ∈ held) ↔ ∃ held, n.caps = some held ∧ cap ∈ held
  taints : ∀ l, (∃ held, m.taints = some held ∧ l ∈ held) ↔ ∃ held, n.taints = some held ∧ l ∈ held
  integs : ∀ l, (∃ held, m.integs = some held ∧ l ∈ held) ↔ ∃ held, n.integs = some held ∧ l ∈ held
  pending : ∀ i, Option.Rel PendingInvocation.Same (m.pending i) (n.pending i)

theorem Compartment.Agrees.refl (m : Compartment) : m.Agrees m where
  caps _ := Iff.rfl
  taints _ := Iff.rfl
  integs _ := Iff.rfl
  pending i := by
    cases m.pending i with
    | none => exact .none
    | some j => exact .some (.refl j)

theorem Compartment.Agrees.symm {m n : Compartment} (agree : m.Agrees n) : n.Agrees m where
  caps cap := (agree.caps cap).symm
  taints l := (agree.taints l).symm
  integs l := (agree.integs l).symm
  pending i := by
    have related := agree.pending i
    cases held : m.pending i <;> cases held' : n.pending i <;> rw [held, held'] at related <;>
      cases related
    · exact .none
    · rename_i same
      exact .some same.symm

theorem compartment_pending {i : InvocationId} {j : PendingInvocation} :
    (s.compartment a).pending i = some j ↔ s.pending.get i = some j ∧ j.agent = a := by
  simp [KernelState.compartment, Option.filter_eq_some_iff]

section Verdict

variable {snap snap' : ActionPolicySnapshot} {egr egr' : VecSet EgressKind}

theorem KernelState.PendingOf.transfer {good good' : PendingInvocation → Prop}
    (holds : s.PendingOf a good) (agree : (s.compartment a).Agrees (t.compartment a))
    (alike : ∀ j k, j.Same k → good j → good' k) : t.PendingOf a good' := by
  intro i k present own
  have related := agree.pending i
  rw [compartment_pending.mpr ⟨present, own⟩] at related
  cases held : (s.compartment a).pending i with
  | none =>
    rw [held] at related
    cases related
  | some j =>
    rw [held, Option.rel_some_some] at related
    obtain ⟨earlier, holder⟩ := compartment_pending.mp held
    exact alike j k related (holds i j earlier holder)

variable (agree : (s.compartment a).Agrees (t.compartment a))

include agree

theorem pendingOf_agrees {good good' : PendingInvocation → Prop}
    (alike : ∀ j k, j.Same k → (good j ↔ good' k)) : s.PendingOf a good ↔ t.PendingOf a good' := by
  constructor
  · intro holds
    exact holds.transfer agree fun j k same => (alike j k same).mp
  · intro holds
    exact holds.transfer agree.symm fun k j same => (alike j k same.symm).mpr

theorem hasCap_agrees (cap : CapKind) : s.HasCap a cap ↔ t.HasCap a cap := by
  rw [KernelState.HasCap, KernelState.HasCap, VecMap.mem_getSetOrEmpty, VecMap.mem_getSetOrEmpty]
  exact agree.caps cap

theorem taints_agrees (l : ConfLevel) : s.Taints a l ↔ t.Taints a l := by
  rw [KernelState.Taints, KernelState.Taints, VecMap.mem_getSetOrEmpty, VecMap.mem_getSetOrEmpty]
  exact agree.taints l

theorem integs_agrees (l : IntegLevel) : s.Integs a l ↔ t.Integs a l := by
  rw [KernelState.Integs, KernelState.Integs, VecMap.mem_getSetOrEmpty, VecMap.mem_getSetOrEmpty]
  exact agree.integs l

theorem speculativeTaint_agrees (l : ConfLevel) : l ∈ s.speculativeTaint a ↔ l ∈ t.speculativeTaint a := by
  have out : ∀ u : KernelState, (∃ i j, u.pending.get i = some j ∧ j.agent = a ∧
      j.policy.outputConf = l) ↔ ¬ u.PendingOf a (·.policy.outputConf ≠ l) := by
    intro u
    simp [KernelState.PendingOf]
  rw [KernelState.mem_speculativeTaint, KernelState.mem_speculativeTaint, taints_agrees agree, out, out,
    pendingOf_agrees agree fun j k same => by rw [same.policy.outputConf]]

theorem speculativeInteg_agrees (l : IntegLevel) :
    l ∈ s.speculativeInteg a ↔ l ∈ t.speculativeInteg a := by
  have out : ∀ u : KernelState, (∃ i j, u.pending.get i = some j ∧ j.agent = a ∧
      j.policy.outputInteg = l) ↔ ¬ u.PendingOf a (·.policy.outputInteg ≠ l) := by
    intro u
    simp [KernelState.PendingOf]
  rw [KernelState.mem_speculativeInteg, KernelState.mem_speculativeInteg, integs_agrees agree, out, out,
    pendingOf_agrees agree fun j k same => by rw [same.policy.outputInteg]]

theorem checkCapability_agrees (snaps : snap.Same snap') :
    checkCapability s a snap = checkCapability t a snap' := by
  rw [Bool.eq_iff_iff, checkCapability_iff, checkCapability_iff]
  exact forall_congr' fun cap => imp_congr (snaps.requiredCaps cap) (hasCap_agrees agree cap)

theorem checkClearance_agrees (snaps : snap.Same snap') :
    checkClearance s a snap = checkClearance t a snap' := by
  have spec : (∀ l ∈ s.speculativeTaint a, l ≤ snap.confClearance) ↔
      ∀ l ∈ t.speculativeTaint a, l ≤ snap.confClearance :=
    forall_congr' fun l => imp_congr_left (speculativeTaint_agrees agree l)
  have others : s.PendingOf a (·.ClearHolds snap.outputConf) ↔
      t.PendingOf a (·.ClearHolds snap.outputConf) := by
    apply pendingOf_agrees agree
    intro j k same
    rw [PendingInvocation.ClearHolds, PendingInvocation.ClearHolds, same.policy.confClearance]
  rw [Bool.eq_iff_iff, checkClearance_iff, checkClearance_iff, ← snaps.confClearance, ← snaps.outputConf,
    spec, others]

theorem checkFlow_agrees (snaps : snap.Same snap') (egrs : egr.Same egr') (strict : Bool) :
    checkFlow s bg a snap egr strict = checkFlow t bg a snap' egr' strict := by
  have channels : ∀ l, (∀ e ∈ egr, bg.FlowArm strict true l e) ↔ ∀ e ∈ egr', bg.FlowArm strict true l e :=
    fun l => forall_congr' fun e => imp_congr_left (egrs e)
  have spec : (∀ l ∈ s.speculativeTaint a, ∀ e ∈ egr, bg.FlowArm strict true l e) ↔
      ∀ l ∈ t.speculativeTaint a, ∀ e ∈ egr', bg.FlowArm strict true l e :=
    forall_congr' fun l => imp_congr (speculativeTaint_agrees agree l) (channels l)
  have others :
      s.PendingOf a (fun j => ∀ e ∈ j.egress, bg.FlowArm strict j.vouched snap.outputConf e) ↔
      t.PendingOf a (fun j => ∀ e ∈ j.egress, bg.FlowArm strict j.vouched snap.outputConf e) := by
    apply pendingOf_agrees agree
    intro j k same
    rw [same.vouched]
    exact forall_congr' fun e => imp_congr_left (same.egress e)
  rw [Bool.eq_iff_iff, checkFlow_iff, checkFlow_iff, ← snaps.outputConf, spec, others, channels]

theorem checkInteg_agrees (snaps : snap.Same snap') (strict : Bool) :
    checkInteg s a snap strict = checkInteg t a snap' strict := by
  have arms : ∀ {p q : ActionPolicySnapshot}, p.Same q → ∀ v l, p.IntegArm strict v l ↔ q.IntegArm strict v l := by
    intro p q same v l
    rw [ActionPolicySnapshot.IntegArm, ActionPolicySnapshot.IntegArm, same.integFloor, same.integInspect]
  have spec : (∀ l ∈ s.speculativeInteg a, snap.IntegArm strict true l) ↔
      ∀ l ∈ t.speculativeInteg a, snap'.IntegArm strict true l :=
    forall_congr' fun l => imp_congr (speculativeInteg_agrees agree l) (arms snaps true l)
  have others : s.PendingOf a (fun j => j.policy.IntegArm strict j.vouched snap.outputInteg) ↔
      t.PendingOf a (fun j => j.policy.IntegArm strict j.vouched snap.outputInteg) := by
    apply pendingOf_agrees agree
    intro j k same
    rw [same.vouched]
    exact arms same.policy _ _
  rw [Bool.eq_iff_iff, checkInteg_iff, checkInteg_iff, ← snaps.outputInteg, spec, others, arms snaps]

theorem beginAdmissible_agrees (snaps : snap.Same snap') (egrs : egr.Same egr') (authorized : Bool) :
    beginAdmissible s bg a snap egr authorized = beginAdmissible t bg a snap' egr' authorized := by
  rw [beginAdmissible, beginAdmissible, checkCapability_agrees agree snaps,
    checkClearance_agrees agree snaps, checkFlow_agrees agree snaps egrs, checkInteg_agrees agree snaps]

theorem beginVerdict_agrees (snaps : snap.Same snap') (egrs : egr.Same egr') (authorized : Bool) :
    beginVerdict s bg a snap egr authorized = beginVerdict t bg a snap' egr' authorized := by
  have strict : beginStrict s bg a snap egr authorized = beginStrict t bg a snap' egr' authorized := by
    rw [beginStrict, beginStrict, checkCapability_agrees agree snaps,
      checkClearance_agrees agree snaps, checkFlow_agrees agree snaps egrs, checkInteg_agrees agree snaps]
  rw [beginVerdict, beginVerdict, strict, beginAdmissible_agrees agree snaps egrs]

end Verdict

/-- Isolation: a step moves only its subject's compartment, and what a begin of `b` is told depends on
    `b`'s own compartment alone, read as sets and maps. -/
theorem agents_isolated (bg : BackgroundTheory) (b : AgentId) :
    (∀ s c s' r, (kernel bg).step s c = .ok (s', r) → c.subject s ≠ some b →
      s'.compartment b = s.compartment b) ∧
    ∀ s t : KernelState, (s.compartment b).Agrees (t.compartment b) → ∀ snap egr authorized,
      beginVerdict s bg b snap egr authorized = beginVerdict t bg b snap egr authorized := by
  constructor
  · intro s c s' r accepted other
    exact compartment_step accepted other
  · intro s t agree snap egr authorized
    exact beginVerdict_agrees agree (.refl _) (.refl _) authorized

/-- A helper enrolled beside the worker changes nothing of the worker's, nor what it may begin. -/
theorem agents_isolated_sample :
    (enroll sampleState AgentId.root ⟨"helper"⟩).compartment ⟨"worker"⟩ =
      sampleState.compartment ⟨"worker"⟩ ∧
    beginVerdict (enroll sampleState AgentId.root ⟨"helper"⟩) sampleBackground ⟨"worker"⟩ sampleSnapshot
        (VecSet.fromIter [.networkExternal]) true =
      beginVerdict sampleState sampleBackground ⟨"worker"⟩ sampleSnapshot
        (VecSet.fromIter [.networkExternal]) true := by
  have unmoved : (enroll sampleState AgentId.root ⟨"helper"⟩).compartment ⟨"worker"⟩ =
      sampleState.compartment ⟨"worker"⟩ :=
    (agents_isolated sampleBackground ⟨"worker"⟩).1 sampleState
      (.delegate AgentId.root ⟨"helper"⟩) _ (.delegate AgentId.root ⟨"helper"⟩) rfl (by decide)
  exact ⟨unmoved, (agents_isolated sampleBackground ⟨"worker"⟩).2 _ _ (unmoved ▸ .refl _) _ _ _⟩

end Argus
