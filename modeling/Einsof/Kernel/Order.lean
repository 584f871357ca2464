import Einsof.Base.Fallible
import Einsof.Kernel.Isolation

namespace Argus

open Fallible (Alike)

/-- The same state, whatever the order of set members and map entries. -/
structure KernelState.Same (s t : KernelState) : Prop where
  agentActive : s.agentActive.Same t.agentActive
  agentParent : s.agentParent.Same Eq t.agentParent
  agentCap : s.agentCap.Same VecSet.Same t.agentCap
  taintLevels : s.taintLevels.Same VecSet.Same t.taintLevels
  integLevels : s.integLevels.Same VecSet.Same t.integLevels
  pending : s.pending.Same PendingInvocation.Same t.pending
  challenges : s.challenges.Same ChallengeScope.Same t.challenges
  consumedIds : s.consumedIds.Same t.consumedIds
  consumedAttestations : s.consumedAttestations.Same t.consumedAttestations
  consumedCrossings : s.consumedCrossings.Same t.consumedCrossings
  crossingGrants : s.crossingGrants.Same Eq t.crossingGrants
  toolRegistered : s.toolRegistered.Same t.toolRegistered

theorem ChallengeScope.Same.refl (sc : ChallengeScope) : sc.Same sc :=
  ⟨rfl, rfl, .refl _, .refl _, rfl, rfl⟩

theorem KernelState.Same.refl (s : KernelState) : s.Same s where
  agentActive := .refl _
  agentParent := .refl (fun _ => rfl) _
  agentCap := .refl .refl _
  taintLevels := .refl .refl _
  integLevels := .refl .refl _
  pending := .refl .refl _
  challenges := .refl .refl _
  consumedIds := .refl _
  consumedAttestations := .refl _
  consumedCrossings := .refl _
  crossingGrants := .refl (fun _ => rfl) _
  toolRegistered := .refl _

theorem KernelState.Same.trans {s t u : KernelState} (same : s.Same t) (next : t.Same u) : s.Same u where
  agentActive := same.agentActive.trans next.agentActive
  agentParent := same.agentParent.trans .trans next.agentParent
  agentCap := same.agentCap.trans .trans next.agentCap
  taintLevels := same.taintLevels.trans .trans next.taintLevels
  integLevels := same.integLevels.trans .trans next.integLevels
  pending := same.pending.trans .trans next.pending
  challenges := same.challenges.trans .trans next.challenges
  consumedIds := same.consumedIds.trans next.consumedIds
  consumedAttestations := same.consumedAttestations.trans next.consumedAttestations
  consumedCrossings := same.consumedCrossings.trans next.consumedCrossings
  crossingGrants := same.crossingGrants.trans .trans next.crossingGrants
  toolRegistered := same.toolRegistered.trans next.toolRegistered

/-- The same command, but for the order in which the sets of a begin list their members. -/
inductive KernelCommand.Same : KernelCommand → KernelCommand → Prop
  | refl (c : KernelCommand) : Same c c
  | begin {a : AgentId} {inv : InvocationId} {chal : ChallengeId} {snap snap' : ActionPolicySnapshot}
      {egr egr' : VecSet EgressKind} {ah : ContentHash} {authorized : Bool} (snaps : snap.Same snap')
      (egrs : egr.Same egr') : Same (.beginInvocation a inv chal snap egr ah authorized)
        (.beginInvocation a inv chal snap' egr' ah authorized)

variable {s t : KernelState} {bg : BackgroundTheory} {a b grantor : AgentId} {inv : InvocationId}

section Guards

variable (same : s.Same t)

include same

theorem KernelState.Same.agrees (a : AgentId) : (s.compartment a).Agrees (t.compartment a) where
  caps cap := by
    have held := same.agentCap.getSetOrEmpty a cap
    rwa [VecMap.mem_getSetOrEmpty, VecMap.mem_getSetOrEmpty] at held
  taints l := by
    have held := same.taintLevels.getSetOrEmpty a l
    rwa [VecMap.mem_getSetOrEmpty, VecMap.mem_getSetOrEmpty] at held
  integs l := by
    have held := same.integLevels.getSetOrEmpty a l
    rwa [VecMap.mem_getSetOrEmpty, VecMap.mem_getSetOrEmpty] at held
  pending i := rel_filter (same.pending i) fun j k related => by rw [related.agent]

theorem isParent_same : isParent s a = isParent t a := by
  rw [Bool.eq_iff_iff, isParent_iff, isParent_iff]
  simp only [same.agentParent.get_eq]

theorem parentOk_same : parentOk s a b = parentOk t a b := by
  rw [Bool.eq_iff_iff, parentOk_iff, parentOk_iff, same.agentParent.get_eq]

theorem toolInUse_same (tool : ToolId) : toolInUse s tool = toolInUse t tool := by
  rw [Bool.eq_iff_iff, toolInUse_iff, toolInUse_iff,
    same.pending.exists_iff fun j k related => by rw [related.policy.tool],
    same.challenges.exists_iff fun x y related => by rw [related.policy.tool]]

theorem srcInFlight_same : srcInFlight s a = srcInFlight t a := by
  rw [Bool.eq_iff_iff, srcInFlight_iff, srcInFlight_iff,
    same.pending.exists_iff fun j k related => by rw [related.agent]]

theorem dominated_same (src : Option AgentId) (l : ConfLevel) (li : IntegLevel) :
    dominated s src l li = dominated t src l li := by
  rw [Bool.eq_iff_iff, dominated_iff, dominated_iff]
  simp only [taints_agrees (same.agrees _), integs_agrees (same.agrees _)]

theorem flowHolds_same (a : AgentId) (l : ConfLevel) :
    s.PendingOf a (bg.FlowHolds · l) ↔ t.PendingOf a (bg.FlowHolds · l) := by
  apply pendingOf_agrees (same.agrees a)
  intro j k related
  rw [BackgroundTheory.FlowHolds, BackgroundTheory.FlowHolds, related.vouched]
  exact forall_congr' fun e => imp_congr_left (related.egress e)

theorem clearHolds_same (a : AgentId) (l : ConfLevel) :
    s.PendingOf a (·.ClearHolds l) ↔ t.PendingOf a (·.ClearHolds l) := by
  apply pendingOf_agrees (same.agrees a)
  intro j k related
  rw [PendingInvocation.ClearHolds, PendingInvocation.ClearHolds, related.policy.confClearance]

theorem integHolds_same (a : AgentId) (li : IntegLevel) :
    s.PendingOf a (·.IntegHolds li) ↔ t.PendingOf a (·.IntegHolds li) := by
  apply pendingOf_agrees (same.agrees a)
  intro j k related
  rw [PendingInvocation.IntegHolds, PendingInvocation.IntegHolds, related.vouched,
    related.policy.integFloor, related.policy.integInspect]

theorem ingestHolds_same (l : ConfLevel) (li : IntegLevel) :
    ingestHolds s bg a l li = ingestHolds t bg a l li := by
  rw [Bool.eq_iff_iff, ingestHolds_iff, ingestHolds_iff, flowHolds_same same, clearHolds_same same,
    integHolds_same same]

theorem crossHolds_same (q : CrossInput) (branch : CrossBranch) :
    crossHolds s bg q branch = crossHolds t bg q branch := by
  have conf : ∀ l, releasesConf s q branch l ↔ releasesConf t q branch l := by
    intro l
    cases branch <;> simp only [releasesConf, taints_agrees (same.agrees q.src)]
  have integ : ∀ l, releasesInteg s q branch l ↔ releasesInteg t q branch l := by
    intro l
    cases branch <;> simp only [releasesInteg, integs_agrees (same.agrees q.src)]
  rw [Bool.eq_iff_iff, crossHolds_iff, crossHolds_iff]
  simp only [conf, integ, flowHolds_same same, clearHolds_same same, integHolds_same same]

theorem crossBound_same (q : CrossInput) : crossBound s q = crossBound t q := by
  rw [Bool.eq_iff_iff, crossBound_iff, crossBound_iff]
  simp only [taints_agrees (same.agrees q.src)]

theorem crossBranch_same (q : CrossInput) : crossBranch s q = crossBranch t q := by
  have evidence : evidenceOk s q = evidenceOk t q := by
    unfold evidenceOk
    simp only [same.consumedAttestations.contains]
  have endorsed : endorsedOk s q = endorsedOk t q := by
    unfold endorsedOk
    rw [evidence, VecMap.getCloned_eq_get, VecMap.getCloned_eq_get, same.crossingGrants.get_eq]
  rw [crossBranch, crossBranch, endorsed]

theorem settleRefusal_same {j k : PendingInvocation} (related : j.Same k) (inv : InvocationId)
    (outcome : Outcome) (att : Option ResolutionAttestation) :
    settleRefusal s inv outcome att j = settleRefusal t inv outcome att k := by
  have valid : resolutionValid s inv outcome att = resolutionValid t inv outcome att := by
    unfold resolutionValid
    simp only [same.consumedAttestations.contains]
  rw [settleRefusal, settleRefusal, related.quarantined, valid]

variable {snap snap' : ActionPolicySnapshot} {egr egr' : VecSet EgressKind}

omit same in
theorem egressNarrows_same {declared declared' : VecSet EgressKind} (egrs : egr.Same egr')
    (declares : declared.Same declared') : egressNarrows egr declared = egressNarrows egr' declared' := by
  rw [Bool.eq_iff_iff, egressNarrows_iff, egressNarrows_iff]
  exact forall_congr' fun e => imp_congr (egrs e) (declares e)

omit same in
theorem egressCovers_same {declared declared' : VecSet EgressKind} (egrs : egr.Same egr')
    (declares : declared.Same declared') : egressCovers declared egr = egressCovers declared' egr' := by
  rw [egressCovers, egressCovers, egrs.isEmpty, declares.isEmpty]

theorem beginRefusal_same (snaps : snap.Same snap') (egrs : egr.Same egr') :
    beginRefusal s bg a inv snap egr = beginRefusal t bg a inv snap' egr' := by
  rw [beginRefusal, beginRefusal, same.agentActive.contains, snaps.tool, same.toolRegistered.contains,
    snaps.integInspect, snaps.integFloor, same.pending.containsKey, same.consumedIds.contains,
    same.challenges.containsKey, egressNarrows_same egrs snaps.declaredEgress,
    egressCovers_same egrs snaps.declaredEgress]

theorem denyReason_same (snaps : snap.Same snap') (egrs : egr.Same egr') (authorized : Bool) :
    denyReason s bg a snap egr authorized = denyReason t bg a snap' egr' authorized := by
  have agree := same.agrees a
  rw [denyReason, denyReason, checkCapability_agrees agree snaps, checkClearance_agrees agree snaps,
    checkFlow_agrees agree snaps egrs]

theorem authorizeAdmits_same {x y : ChallengeScope} (related : x.Same y) :
    authorizeAdmits s bg inv x = authorizeAdmits t bg inv y := by
  rw [authorizeAdmits, authorizeAdmits, related.agent, related.policy.tool, related.policy.integInspect,
    related.policy.integFloor, same.agentActive.contains, same.toolRegistered.contains,
    same.pending.containsKey, egressNarrows_same related.egress related.policy.declaredEgress,
    egressCovers_same related.egress related.policy.declaredEgress, related.authorized,
    beginAdmissible_agrees (same.agrees _) related.policy related.egress]

end Guards

section Effects

theorem demotedIf_same {p : Prop} [Decidable p] {j k : PendingInvocation} (related : j.Same k) :
    (demotedIf p a j).Same (demotedIf p a k) := by
  unfold demotedIf KernelState.demoted
  rw [related.agent]
  split
  · split
    · exact ⟨rfl, related.policy, related.egress, related.admission, rfl, related.authorized,
        related.quarantined⟩
    · exact related
  · exact related

theorem dropPendingOf_same (related : s.pending.Same PendingInvocation.Same t.pending) :
    (s.dropPendingOf a).pending.Same PendingInvocation.Same (t.dropPendingOf a).pending := by
  intro i
  rw [KernelState.dropPendingOf_get, KernelState.dropPendingOf_get]
  exact rel_filter (related i) fun j k alike => by rw [alike.agent]

theorem dropChallengesOf_same (related : s.challenges.Same ChallengeScope.Same t.challenges) :
    (s.dropChallengesOf a).challenges.Same ChallengeScope.Same (t.dropChallengesOf a).challenges := by
  intro i
  rw [KernelState.dropChallengesOf_get, KernelState.dropChallengesOf_get]
  exact rel_filter (related i) fun x y alike => by rw [alike.agent]

theorem dropGrantsOf_same (related : s.crossingGrants.Same Eq t.crossingGrants) :
    (s.dropGrantsOf a).crossingGrants.Same Eq (t.dropGrantsOf a).crossingGrants := by
  intro key
  rw [KernelState.dropGrantsOf_get, KernelState.dropGrantsOf_get, related.get_eq]
  exact rel_refl _

variable (same : s.Same t)

include same

theorem enroll_same : (enroll s grantor a).Same (enroll t grantor a) where
  agentActive := same.agentActive.insert a
  agentParent key := by
    rw [enroll_parent, enroll_parent, same.agentParent.get_eq]
    exact rel_refl _
  agentCap := same.agentCap.remove a
  taintLevels := same.taintLevels.remove a
  integLevels := same.integLevels.remove a
  pending := dropPendingOf_same same.pending
  challenges := dropChallengesOf_same same.challenges
  consumedIds := same.consumedIds
  consumedAttestations := same.consumedAttestations
  consumedCrossings := same.consumedCrossings
  crossingGrants := dropGrantsOf_same same.crossingGrants
  toolRegistered := same.toolRegistered

theorem clearAgent_same : (clearAgent s a).Same (clearAgent t a) where
  agentActive := same.agentActive.remove a
  agentParent := same.agentParent.remove a
  agentCap := same.agentCap.remove a
  taintLevels := same.taintLevels.remove a
  integLevels := same.integLevels.remove a
  pending := dropPendingOf_same same.pending
  challenges := dropChallengesOf_same same.challenges
  consumedIds := same.consumedIds
  consumedAttestations := same.consumedAttestations
  consumedCrossings := same.consumedCrossings
  crossingGrants := dropGrantsOf_same same.crossingGrants
  toolRegistered := same.toolRegistered

theorem absorb_same (l : ConfLevel) (li : IntegLevel) (d : Disposition) :
    (absorb s a l li d).Same (absorb t a l li d) := by
  have pending : (absorb s a l li d).pending.Same PendingInvocation.Same (absorb t a l li d).pending := by
    intro i
    rw [absorb_pending, absorb_pending]
    exact rel_map (same.pending i) fun _ _ => demotedIf_same
  rw [absorb_eq, absorb_eq] at pending ⊢
  exact { same with
    taintLevels := same.taintLevels.insertInto a l
    integLevels := same.integLevels.insertInto a li
    pending := pending }

theorem settled_same {j k : PendingInvocation} (related : j.Same k) (outcome : Outcome)
    (att : Option ResolutionAttestation) :
    (settled s inv outcome att j).Same (settled t inv outcome att k) := by
  have pending : (settled s inv outcome att j).pending.Same PendingInvocation.Same
      (settled t inv outcome att k).pending := by
    intro i
    rw [settled_pending, settled_pending, related.disposition, related.agent]
    refine rel_map ?_ fun _ _ => demotedIf_same
    split
    · split
      · exact .some ⟨rfl, related.policy, related.egress, related.admission, rfl, related.authorized, rfl⟩
      · exact .none
    · exact same.pending i
  rw [settled_eq, settled_eq] at pending ⊢
  refine { same with pending := pending, taintLevels := ?_, integLevels := ?_, consumedAttestations := ?_ }
  · simp only [settleAbsorb, related.agent, related.policy.outputConf]
    split
    · exact same.taintLevels.insertInto _ _
    · exact same.taintLevels
  · simp only [settleAbsorb, related.agent, related.policy.outputInteg]
    split
    · exact same.integLevels.insertInto _ _
    · exact same.integLevels
  · cases att with
    | none => exact same.consumedAttestations
    | some r => exact same.consumedAttestations.insert r.id

theorem pend_same {j k : PendingInvocation} (related : j.Same k) : (s.pend inv j).Same (t.pend inv k) :=
  { same with
    pending := same.pending.insert inv related
    consumedIds := same.consumedIds.insert inv }

theorem challenge_same {x y : ChallengeScope} (related : x.Same y) :
    (s.challenge inv x).Same (t.challenge inv y) :=
  { same with
    challenges := same.challenges.insert inv related
    consumedIds := same.consumedIds.insert inv }

theorem resolve_same {x y : ChallengeScope} (related : x.Same y) (att : AttestationId) (admitted : Bool) :
    (resolve s inv x att admitted).Same (resolve t inv y att admitted) := by
  refine { same with
    pending := ?_
    challenges := same.challenges.remove inv
    consumedAttestations := same.consumedAttestations.insert att }
  cases admitted with
  | false => exact same.pending
  | true => exact same.pending.insert inv ⟨related.agent, related.policy, related.egress, rfl, rfl,
      related.authorized, rfl⟩

theorem crossed_same (q : CrossInput) (branch : CrossBranch) (d : Disposition) :
    (crossed s q branch d).Same (crossed t q branch d) := by
  have pending : (crossed s q branch d).pending.Same PendingInvocation.Same (crossed t q branch d).pending := by
    intro i
    rw [crossed_pending, crossed_pending]
    exact rel_map (same.pending i) fun _ _ => demotedIf_same
  have grants : (crossed s q branch d).crossingGrants.Same Eq (crossed t q branch d).crossingGrants := by
    intro key
    rw [crossed_crossingGrants, crossed_crossingGrants, same.crossingGrants.get_eq]
    exact rel_refl _
  have attestations : (crossed s q branch d).consumedAttestations.Same
      (crossed t q branch d).consumedAttestations := by
    intro x
    rw [crossed_consumedAttestations, crossed_consumedAttestations, same.consumedAttestations x]
  rw [crossed_eq, crossed_eq] at pending grants attestations ⊢
  refine { same with
    pending := pending
    crossingGrants := grants
    consumedCrossings := same.consumedCrossings.insert q.crossing
    consumedAttestations := attestations
    taintLevels := ?_
    integLevels := ?_ }
  · cases branch with
    | endorsed => exact same.taintLevels.insertInto _ _
    | unendorsed => exact same.taintLevels.foldl_insertInto _ (same.taintLevels.getSetOrEmpty q.src)
    | fail => exact same.taintLevels
  · cases branch with
    | endorsed => exact same.integLevels.insertInto _ _
    | unendorsed => exact same.integLevels.foldl_insertInto _ (same.integLevels.getSetOrEmpty q.src)
    | fail => exact same.integLevels

end Effects

/-- The outcomes of two transitions: the same action, and states that differ in order only. -/
def SameOutcome (x y : KernelState × KernelAction) : Prop := x.1.Same y.1 ∧ x.2 = y.2

section Transitions

variable (same : s.Same t)

include same

theorem beginInvocation_same {chal : ChallengeId} {snap snap' : ActionPolicySnapshot}
    {egr egr' : VecSet EgressKind} {ah : ContentHash} {authorized : Bool} (snaps : snap.Same snap')
    (egrs : egr.Same egr') : Alike SameOutcome (beginInvocation s bg a inv chal snap egr ah authorized)
      (beginInvocation t bg a inv chal snap' egr' ah authorized) := by
  unfold beginInvocation
  rw [beginRefusal_same same snaps egrs, beginVerdict_agrees (same.agrees a) snaps egrs,
    denyReason_same same snaps egrs, snaps.tool]
  have record : ∀ admission disposition,
      PendingInvocation.Same ⟨a, snap, egr, admission, disposition, authorized, false⟩
        ⟨a, snap', egr', admission, disposition, authorized, false⟩ :=
    fun _ _ => ⟨rfl, snaps, egrs, rfl, rfl, rfl, rfl⟩
  cases beginRefusal t bg a inv snap' egr' with
  | some e => exact .error e
  | none =>
    cases beginVerdict t bg a snap' egr' authorized with
    | allow => exact .ok ⟨pend_same same (record _ _), rfl⟩
    | inspectionRequired =>
      cases bg.mode with
      | enforce => exact .ok ⟨challenge_same same ⟨rfl, rfl, snaps, egrs, rfl, rfl⟩, rfl⟩
      | monitor => exact .ok ⟨pend_same same (record _ _), rfl⟩
    | deny =>
      cases bg.mode with
      | enforce => exact .error _
      | monitor => exact .ok ⟨pend_same same (record _ _), rfl⟩

theorem settleInvocation_same (inv : InvocationId) (outcome : Outcome)
    (att : Option ResolutionAttestation) :
    Alike SameOutcome (settleInvocation s inv outcome att) (settleInvocation t inv outcome att) := by
  unfold settleInvocation
  rw [VecMap.getCloned_eq_get, VecMap.getCloned_eq_get]
  have held := same.pending inv
  generalize s.pending.get inv = here, t.pending.get inv = there at held
  cases held with
  | none => exact .error _
  | @some j k related =>
    have active : ¬ s.agentActive.contains j.agent = true ↔ ¬ t.agentActive.contains k.agent = true := by
      rw [related.agent, same.agentActive.contains]
    refine .refuse active fun _ => .refuse (by rw [related.disposition]) fun _ => ?_
    rw [settleRefusal_same same related]
    cases settleRefusal t inv outcome att k with
    | some e => exact .error e
    | none =>
      refine .ok ⟨settled_same same related outcome att, ?_⟩
      rw [related.agent, related.disposition, related.policy.outputConf, related.policy.outputInteg]

theorem authorizeInspected_same (inv : InvocationId) (att : InspectionAttestation) :
    Alike SameOutcome (authorizeInspected s bg inv att) (authorizeInspected t bg inv att) := by
  unfold authorizeInspected
  rw [VecMap.getCloned_eq_get, VecMap.getCloned_eq_get]
  have held := same.challenges inv
  generalize s.challenges.get inv = here, t.challenges.get inv = there at held
  cases held with
  | none => exact .error _
  | @some x y related =>
    have scopes : scopeMatches inv x att = scopeMatches inv y att := by
      rw [scopeMatches, scopeMatches, related.challenge, related.argsHash, related.policy.policyDigest]
    refine .refuse (by rw [scopes]) fun _ => .refuse (by rw [same.consumedAttestations.contains]) fun _ => ?_
    rw [authorizeAdmits_same same related]
    exact .ok ⟨resolve_same same related att.id _, rfl⟩

theorem ingest_same (src : Option AgentId) (l : ConfLevel) (li : IntegLevel) :
    Alike SameOutcome (ingest s bg a src l li) (ingest t bg a src l li) := by
  unfold ingest
  refine .refuse (by rw [same.agentActive.contains]) fun _ =>
    .refuse (by rw [dominated_same same]) fun _ => ?_
  rw [ingestHolds_same same]
  cases holdDisposition bg (ingestHolds t bg a l li) with
  | none => exact .error _
  | some d => exact .ok ⟨absorb_same same l li d, rfl⟩

theorem crossOutput_same (q : CrossInput) :
    Alike SameOutcome (crossOutput s bg q) (crossOutput t bg q) := by
  unfold crossOutput
  refine .refuse (by rw [same.agentActive.contains]) fun _ =>
    .refuse (by rw [same.agentActive.contains]) fun _ => .refuse (by rw [srcInFlight_same same]) fun _ =>
    .refuse (by rw [same.consumedCrossings.contains]) fun _ => ?_
  refine .refuse (by rw [crossBranch_same same, crossBound_same same]) fun _ => ?_
  rw [crossBranch_same same, crossHolds_same same]
  cases holdDisposition bg (crossHolds t bg q (crossBranch t q)) with
  | none => exact .error _
  | some d => exact .ok ⟨crossed_same same q _ d, rfl⟩

/-- No transition tells the order of set members and map entries. -/
theorem KernelCommand.apply_same {c d : KernelCommand} (commands : c.Same d) :
    Alike SameOutcome (c.apply bg s) (d.apply bg t) := by
  cases commands with
  | begin snaps egrs => exact beginInvocation_same same snaps egrs
  | refl =>
    cases c with
    | registerTool tool =>
      exact .refuse (by rw [same.toolRegistered.contains]) fun _ =>
        .ok ⟨{ same with toolRegistered := same.toolRegistered.insert tool }, rfl⟩
    | unregisterTool tool =>
      exact .refuse (by rw [same.toolRegistered.contains]) fun _ =>
        .refuse (by rw [toolInUse_same same]) fun _ =>
        .ok ⟨{ same with toolRegistered := same.toolRegistered.remove tool }, rfl⟩
    | delegate grantor grantee =>
      exact .refuse (by rw [same.agentActive.contains]) fun _ =>
        .refuse (by rw [same.agentActive.contains]) fun _ => .refuse Iff.rfl fun _ =>
        .refuse (by rw [isParent_same same]) fun _ => .ok ⟨enroll_same same, rfl⟩
    | grantCapability parent child cap =>
      exact .refuse (by rw [same.agentActive.contains]) fun _ =>
        .refuse (by rw [same.agentActive.contains]) fun _ => .refuse (by rw [parentOk_same same]) fun _ =>
        .refuse (by rw [same.agentCap.setContains]) fun _ =>
        .ok ⟨{ same with agentCap := same.agentCap.insertInto child cap }, rfl⟩
    | grantCrossing grantor agent assignment n =>
      exact .refuse Iff.rfl fun _ => .refuse (by rw [same.agentActive.contains]) fun _ =>
        .refuse (by rw [same.agentActive.contains]) fun _ =>
        .ok ⟨{ same with crossingGrants := same.crossingGrants.insert _ rfl }, rfl⟩
    | revoke parent target =>
      exact .refuse (by rw [parentOk_same same]) fun _ =>
        .refuse (by rw [same.agentActive.contains]) fun _ =>
        .refuse (by rw [same.agentActive.contains]) fun _ => .refuse Iff.rfl fun _ =>
        .ok ⟨clearAgent_same same, rfl⟩
    | cascadeRevoke child parent =>
      exact .refuse (by rw [parentOk_same same]) fun _ =>
        .refuse (by rw [same.agentActive.contains]) fun _ =>
        .refuse (by rw [same.agentActive.contains]) fun _ => .refuse Iff.rfl fun _ =>
        .ok ⟨clearAgent_same same, rfl⟩
    | ingest a src l li => exact ingest_same same src l li
    | settleInvocation inv outcome att => exact settleInvocation_same same inv outcome att
    | beginInvocation a inv chal snap egr ah authorized =>
      exact beginInvocation_same same (.refl snap) (.refl egr)
    | authorizeInspected inv att => exact authorizeInspected_same same inv att
    | crossOutput q => exact crossOutput_same same q

end Transitions

end Argus
