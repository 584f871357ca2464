import Einsof.Kernel.Renaming

namespace Argus

variable {ρ : Renaming} {s : KernelState} {bg : BackgroundTheory} {a b : AgentId} {inv : InvocationId}
  {j : PendingInvocation} {sc : ChallengeScope} {snap : ActionPolicySnapshot} {egr : VecSet EgressKind}
  {q : CrossInput}

@[simp] theorem vouched_rename : (j.rename ρ).vouched = j.vouched := by
  unfold PendingInvocation.vouched PendingInvocation.rename
  cases j.admission <;> rfl

@[simp] theorem flowAllows_rename : (bg.rename ρ).flowAllows = bg.flowAllows := rfl

@[simp] theorem flowInspects_rename : (bg.rename ρ).flowInspects = bg.flowInspects := rfl

theorem initial_rename : KernelState.initial.rename ρ = KernelState.initial := by
  have active := VecSet.insert_rename (f := ρ.agent) VecSet.new AgentId.root
  have caps := VecMap.insert_rename_id (f := ρ.agent) VecMap.new AgentId.root
    (CapKind.all.foldl (fun allCaps cap => allCaps.insert cap) VecSet.new)
  simp only [VecSet.rename_new, VecMap.rename_new, ρ.root] at active caps
  simp only [KernelState.rename, KernelState.initial, ← active, ← caps, VecSet.rename_new, VecMap.rename_new]

@[simp] theorem toolInUse_rename (tool : ToolId) : toolInUse (s.rename ρ) (ρ.tool tool) = toolInUse s tool := by
  simp [toolInUse]

@[simp] theorem isParent_rename : isParent (s.rename ρ) (ρ.agent a) = isParent s a := by
  simp [isParent]

@[simp] theorem parentOk_rename : parentOk (s.rename ρ) (ρ.agent a) (ρ.agent b) = parentOk s a b := by
  simp only [parentOk, KernelState.rename_agentParent, VecMap.getCloned_eq_get, VecMap.get_rename]
  cases s.agentParent.get a <;> simp

theorem key_agent (key : CrossingKey) : (ρ.key key).agent = ρ.agent key.agent := rfl

@[simp] theorem demoteAllOf_rename : (s.rename ρ).demoteAllOf (ρ.agent a) = (s.demoteAllOf a).rename ρ := by
  have changed := VecMap.change_rename (f := ρ.inv) (g := PendingInvocation.rename ρ) s.pending
    (fun j => if j.agent = a then { j with disposition := .monitorBypassed } else j)
    (fun j => if j.agent = ρ.agent a then { j with disposition := .monitorBypassed } else j)
    fun j => by by_cases owned : j.agent = a <;> simp [owned, PendingInvocation.rename]
  simp only [KernelState.demoteAllOf, KernelState.rename]
  rw [changed]

theorem decrementGrantAt_rename (assignment : AssignmentDigest) :
    (s.rename ρ).decrementGrantAt (ρ.agent a) (ρ.assignment assignment) =
      (s.decrementGrantAt a assignment).rename ρ := by
  have found := VecMap.get_rename (f := ρ.key) (g := id) s.crossingGrants ⟨a, assignment⟩
  have key : (⟨ρ.agent a, ρ.assignment assignment⟩ : CrossingKey) = ρ.key ⟨a, assignment⟩ := rfl
  simp only [KernelState.decrementGrantAt, KernelState.rename, VecMap.getCloned_eq_get, key, found]
  cases s.crossingGrants.get ⟨a, assignment⟩ with
  | none => rfl
  | some g => simp

theorem enroll_rename : enroll (s.rename ρ) (ρ.agent a) (ρ.agent b) = (enroll s a b).rename ρ := by
  simp only [enroll, KernelState.dropPendingOf, KernelState.dropChallengesOf, KernelState.dropGrantsOf,
    KernelState.rename, VecMap.retain_rename, VecSet.insert_rename, VecMap.insert_rename, VecMap.remove_rename,
    PendingInvocation.rename_agent, ChallengeScope.rename_agent, key_agent, ne_eq, ρ.agent.injective.eq_iff]

theorem clearAgent_rename : clearAgent (s.rename ρ) (ρ.agent a) = (clearAgent s a).rename ρ := by
  simp only [clearAgent, KernelState.dropPendingOf, KernelState.dropChallengesOf, KernelState.dropGrantsOf,
    KernelState.rename, VecMap.retain_rename, VecSet.remove_rename, VecMap.remove_rename,
    PendingInvocation.rename_agent, ChallengeScope.rename_agent, key_agent, ne_eq, ρ.agent.injective.eq_iff]

@[simp] theorem speculativeTaint_rename : (s.rename ρ).speculativeTaint (ρ.agent a) = s.speculativeTaint a := by
  simp [KernelState.speculativeTaint, ρ.agent.injective.eq_iff]

@[simp] theorem speculativeInteg_rename : (s.rename ρ).speculativeInteg (ρ.agent a) = s.speculativeInteg a := by
  simp [KernelState.speculativeInteg, ρ.agent.injective.eq_iff]

@[simp] theorem ingestConfHold_rename (l : ConfLevel) :
    ingestConfHold (s.rename ρ) (bg.rename ρ) (ρ.agent a) l = ingestConfHold s bg a l := by
  simp [ingestConfHold]

@[simp] theorem ingestClearHold_rename (l : ConfLevel) :
    ingestClearHold (s.rename ρ) (ρ.agent a) l = ingestClearHold s a l := by
  simp [ingestClearHold]

@[simp] theorem ingestIntegHold_rename (l : IntegLevel) :
    ingestIntegHold (s.rename ρ) (ρ.agent a) l = ingestIntegHold s a l := by
  simp [ingestIntegHold]

@[simp] theorem ingestHolds_rename (l : ConfLevel) (li : IntegLevel) :
    ingestHolds (s.rename ρ) (bg.rename ρ) (ρ.agent a) l li = ingestHolds s bg a l li := by
  simp [ingestHolds]

@[simp] theorem dominated_rename (src : Option AgentId) (l : ConfLevel) (li : IntegLevel) :
    dominated (s.rename ρ) (src.map ρ.agent) l li = dominated s src l li := by
  cases src <;> simp [dominated]

@[simp] theorem holdDisposition_rename (holds : Bool) :
    holdDisposition (bg.rename ρ) holds = holdDisposition bg holds := rfl

theorem absorb_rename (l : ConfLevel) (li : IntegLevel) (d : Disposition) :
    absorb (s.rename ρ) (ρ.agent a) l li d = (absorb s a l li d).rename ρ := by
  have labels : ({ s.rename ρ with
      taintLevels := (s.rename ρ).taintLevels.insertInto (ρ.agent a) l
      integLevels := (s.rename ρ).integLevels.insertInto (ρ.agent a) li } : KernelState) =
      KernelState.rename ρ { s with
        taintLevels := s.taintLevels.insertInto a l
        integLevels := s.integLevels.insertInto a li } := by
    simp [KernelState.rename]
  simp only [absorb, labels, demoteAllOf_rename]
  split <;> rfl

@[simp] theorem checkCapability_rename :
    checkCapability (s.rename ρ) (ρ.agent a) (snap.rename ρ) = checkCapability s a snap := by
  simp [checkCapability]

@[simp] theorem checkClearance_rename :
    checkClearance (s.rename ρ) (ρ.agent a) (snap.rename ρ) = checkClearance s a snap := by
  simp [checkClearance]

@[simp] theorem checkFlow_rename (strict : Bool) :
    checkFlow (s.rename ρ) (bg.rename ρ) (ρ.agent a) (snap.rename ρ) egr strict =
      checkFlow s bg a snap egr strict := by
  simp [checkFlow]

@[simp] theorem checkInteg_rename (strict : Bool) :
    checkInteg (s.rename ρ) (ρ.agent a) (snap.rename ρ) strict = checkInteg s a snap strict := by
  simp [checkInteg]

@[simp] theorem beginAdmissible_rename (authorized : Bool) :
    beginAdmissible (s.rename ρ) (bg.rename ρ) (ρ.agent a) (snap.rename ρ) egr authorized =
      beginAdmissible s bg a snap egr authorized := by
  simp [beginAdmissible]

@[simp] theorem beginVerdict_rename (authorized : Bool) :
    beginVerdict (s.rename ρ) (bg.rename ρ) (ρ.agent a) (snap.rename ρ) egr authorized =
      beginVerdict s bg a snap egr authorized := by
  simp [beginVerdict, beginStrict]

@[simp] theorem beginRefusal_rename :
    beginRefusal (s.rename ρ) (bg.rename ρ) (ρ.agent a) (ρ.inv inv) (snap.rename ρ) egr =
      beginRefusal s bg a inv snap egr := by
  simp [beginRefusal]

@[simp] theorem denyReason_rename (authorized : Bool) :
    denyReason (s.rename ρ) (bg.rename ρ) (ρ.agent a) (snap.rename ρ) egr authorized =
      denyReason s bg a snap egr authorized := by
  simp [denyReason]

theorem pend_rename (inv : InvocationId) (j : PendingInvocation) :
    (s.rename ρ).pend (ρ.inv inv) (j.rename ρ) = (s.pend inv j).rename ρ := by
  simp [KernelState.pend, KernelState.rename]

theorem challenge_rename (inv : InvocationId) (sc : ChallengeScope) :
    (s.rename ρ).challenge (ρ.inv inv) (sc.rename ρ) = (s.challenge inv sc).rename ρ := by
  simp [KernelState.challenge, KernelState.rename]

@[simp] theorem authorizeAdmits_rename :
    authorizeAdmits (s.rename ρ) (bg.rename ρ) (ρ.inv inv) (sc.rename ρ) = authorizeAdmits s bg inv sc := by
  simp [authorizeAdmits]

@[simp] theorem scopeMatches_rename (att : InspectionAttestation) :
    scopeMatches (ρ.inv inv) (sc.rename ρ) (att.rename ρ) = scopeMatches inv sc att := by
  simp [scopeMatches]

theorem resolve_rename (att : AttestationId) (admitted : Bool) :
    resolve (s.rename ρ) (ρ.inv inv) (sc.rename ρ) (ρ.attestation att) admitted =
      (resolve s inv sc att admitted).rename ρ := by
  have record : PendingInvocation.rename ρ
      ⟨sc.agent, sc.policy, sc.egress, .inspected att, .permitted, sc.authorized, false⟩ =
        ⟨ρ.agent sc.agent, sc.policy.rename ρ, sc.egress, .inspected (ρ.attestation att), .permitted,
          sc.authorized, false⟩ := rfl
  cases admitted <;> simp [resolve, KernelState.rename, ← VecMap.insert_rename, record]

@[simp] theorem resolutionValid_rename (outcome : Outcome) (att : Option ResolutionAttestation) :
    resolutionValid (s.rename ρ) (ρ.inv inv) outcome (att.map (·.rename ρ)) = resolutionValid s inv outcome att := by
  cases att <;> simp [resolutionValid]

@[simp] theorem settleRefusal_rename (outcome : Outcome) (att : Option ResolutionAttestation) :
    settleRefusal (s.rename ρ) (ρ.inv inv) outcome (att.map (·.rename ρ)) (j.rename ρ) =
      settleRefusal s inv outcome att j := by
  simp [settleRefusal]

theorem settleAt_rename (outcome : Outcome) :
    settleAt (s.rename ρ) (ρ.inv inv) outcome (j.rename ρ) = (settleAt s inv outcome j).rename ρ := by
  have record : PendingInvocation.rename ρ { j with quarantined := true } =
      { j.rename ρ with quarantined := true } := rfl
  by_cases ambiguous : outcome = .ambiguous <;>
    simp [settleAt, KernelState.rename, ambiguous, ← VecMap.insert_rename, record]

theorem settleAbsorb_rename (outcome : Outcome) :
    settleAbsorb (s.rename ρ) outcome (j.rename ρ) = (settleAbsorb s outcome j).rename ρ := by
  by_cases ambiguous : outcome = .ambiguous <;> simp [settleAbsorb, KernelState.rename, ambiguous]

theorem settled_rename (outcome : Outcome) (att : Option ResolutionAttestation) :
    settled (s.rename ρ) (ρ.inv inv) outcome (att.map (·.rename ρ)) (j.rename ρ) =
      (settled s inv outcome att j).rename ρ := by
  simp only [settled, settleAt_rename, PendingInvocation.rename_disposition, PendingInvocation.rename_agent,
    demoteAllOf_rename, ← apply_ite (KernelState.rename ρ), settleAbsorb_rename]
  cases att <;> simp [KernelState.rename]

@[simp] theorem evidenceOk_rename : evidenceOk (s.rename ρ) (q.rename ρ) = evidenceOk s q := by
  simp only [evidenceOk, CrossInput.rename_evidence]
  cases q.evidence <;> simp

@[simp] theorem endorsedOk_rename : endorsedOk (s.rename ρ) (q.rename ρ) = endorsedOk s q := by
  have found := VecMap.get_rename (f := ρ.key) (g := id) s.crossingGrants ⟨q.rcv, q.assignment⟩
  have key : (⟨ρ.agent q.rcv, ρ.assignment q.assignment⟩ : CrossingKey) = ρ.key ⟨q.rcv, q.assignment⟩ := rfl
  simp only [endorsedOk, evidenceOk_rename, KernelState.rename_crossingGrants, CrossInput.rename_rcv,
    CrossInput.rename_assignment, VecMap.getCloned_eq_get, key, found]
  cases s.crossingGrants.get ⟨q.rcv, q.assignment⟩ <;> rfl

@[simp] theorem crossHolds_rename (branch : CrossBranch) :
    crossHolds (s.rename ρ) (bg.rename ρ) (q.rename ρ) branch = crossHolds s bg q branch := by
  cases branch <;> simp [crossHolds]

@[simp] theorem srcInFlight_rename : srcInFlight (s.rename ρ) (ρ.agent a) = srcInFlight s a := by
  simp [srcInFlight]

@[simp] theorem crossBranch_rename : crossBranch (s.rename ρ) (q.rename ρ) = crossBranch s q := by
  simp [crossBranch]

@[simp] theorem crossBound_rename : crossBound (s.rename ρ) (q.rename ρ) = crossBound s q := by
  simp [crossBound]

/-- Every label of a list goes to the renamed agent. -/
theorem insertAll_rename {T : Type} [DecidableEq T] (m : VecMap AgentId (VecSet T)) (ls : List T) :
    ls.foldl (fun m l => m.insertInto (ρ.agent a) l) (m.rename ρ.agent id) =
      (ls.foldl (fun m l => m.insertInto a l) m).rename ρ.agent id := by
  refine List.foldl_hom (VecMap.rename ρ.agent id) ?_
  intro m l
  exact VecMap.insertInto_rename m a l

theorem crossRelease_rename (branch : CrossBranch) :
    crossRelease (s.rename ρ) (q.rename ρ) branch = (crossRelease s q branch).rename ρ := by
  cases branch <;> simp [crossRelease, KernelState.rename, insertAll_rename]

theorem crossConsume_rename (branch : CrossBranch) :
    crossConsume (s.rename ρ) (q.rename ρ) branch = (crossConsume s q branch).rename ρ := by
  by_cases endorsed : branch = .endorsed <;> cases evidence : q.evidence <;>
    simp [crossConsume, KernelState.rename, endorsed, evidence]

theorem crossed_rename (branch : CrossBranch) (d : Disposition) :
    crossed (s.rename ρ) (q.rename ρ) branch d = (crossed s q branch d).rename ρ := by
  simp only [crossed, crossRelease_rename, crossConsume_rename, CrossInput.rename_rcv, CrossInput.rename_assignment,
    decrementGrantAt_rename, demoteAllOf_rename, ← apply_ite (KernelState.rename ρ)]

/-- The answer under the new names. -/
def answered (ρ : Renaming) (answer : Except KernelError (KernelState × KernelAction)) :
    Except KernelError (KernelState × KernelAction) :=
  answer.map fun next => (next.1.rename ρ, next.2.rename ρ)

@[simp] theorem answered_ok (s : KernelState) (r : KernelAction) :
    answered ρ (.ok (s, r)) = .ok (s.rename ρ, r.rename ρ) := rfl

@[simp] theorem answered_error (e : KernelError) : answered ρ (.error e) = .error e := rfl

theorem registerTool_rename (tool : ToolId) :
    registerTool (s.rename ρ) (ρ.tool tool) = answered ρ (registerTool s tool) := by
  simp only [registerTool, KernelState.rename_toolRegistered, VecSet.contains_rename, VecSet.insert_rename,
    apply_ite (answered ρ), answered_ok, answered_error]
  rfl

theorem unregisterTool_rename (tool : ToolId) :
    unregisterTool (s.rename ρ) (ρ.tool tool) = answered ρ (unregisterTool s tool) := by
  simp only [unregisterTool, KernelState.rename_toolRegistered, VecSet.contains_rename, VecSet.remove_rename,
    toolInUse_rename, apply_ite (answered ρ), answered_ok, answered_error]
  rfl

theorem delegate_rename :
    delegate (s.rename ρ) (bg.rename ρ) (ρ.agent a) (ρ.agent b) = answered ρ (delegate s bg a b) := by
  simp only [delegate, KernelState.rename_agentActive, VecSet.contains_rename, BackgroundTheory.rename_rootAgent,
    ρ.agent.injective.eq_iff, isParent_rename, enroll_rename, apply_ite (answered ρ), answered_ok, answered_error]
  rfl

theorem grantCapability_rename (cap : CapKind) :
    grantCapability (s.rename ρ) (ρ.agent a) (ρ.agent b) cap = answered ρ (grantCapability s a b cap) := by
  simp only [grantCapability, KernelState.rename_agentActive, VecSet.contains_rename, parentOk_rename,
    KernelState.rename_agentCap, VecMap.setContains_rename, VecMap.insertInto_rename, apply_ite (answered ρ),
    answered_ok, answered_error]
  rfl

theorem grantCrossing_rename (assignment : AssignmentDigest) (n : UInt32) :
    grantCrossing (s.rename ρ) (bg.rename ρ) (ρ.agent a) (ρ.agent b) (ρ.assignment assignment) n =
      answered ρ (grantCrossing s bg a b assignment n) := by
  have granted : (s.rename ρ).crossingGrants.insert ⟨ρ.agent b, ρ.assignment assignment⟩ ⟨n, n⟩ =
      (s.crossingGrants.insert ⟨b, assignment⟩ ⟨n, n⟩).rename ρ.key id :=
    VecMap.insert_rename_id (f := ρ.key) s.crossingGrants ⟨b, assignment⟩ ⟨n, n⟩
  simp only [grantCrossing, granted, BackgroundTheory.rename_rootAgent, ne_eq, ρ.agent.injective.eq_iff,
    KernelState.rename_agentActive, VecSet.contains_rename, apply_ite (answered ρ), answered_ok, answered_error]
  rfl

theorem revoke_rename :
    revoke (s.rename ρ) (bg.rename ρ) (ρ.agent a) (ρ.agent b) = answered ρ (revoke s bg a b) := by
  simp only [revoke, parentOk_rename, KernelState.rename_agentActive, VecSet.contains_rename,
    BackgroundTheory.rename_rootAgent, ρ.agent.injective.eq_iff, clearAgent_rename, apply_ite (answered ρ),
    answered_ok, answered_error]
  rfl

theorem cascadeRevoke_rename :
    cascadeRevoke (s.rename ρ) (bg.rename ρ) (ρ.agent a) (ρ.agent b) = answered ρ (cascadeRevoke s bg a b) := by
  simp only [cascadeRevoke, parentOk_rename, KernelState.rename_agentActive, VecSet.contains_rename,
    BackgroundTheory.rename_rootAgent, ρ.agent.injective.eq_iff, clearAgent_rename, apply_ite (answered ρ),
    answered_ok, answered_error]
  rfl

theorem ingest_rename (src : Option AgentId) (l : ConfLevel) (li : IntegLevel) :
    ingest (s.rename ρ) (bg.rename ρ) (ρ.agent a) (src.map ρ.agent) l li = answered ρ (ingest s bg a src l li) := by
  simp only [ingest, KernelState.rename_agentActive, VecSet.contains_rename, dominated_rename, ingestHolds_rename,
    holdDisposition_rename, apply_ite (answered ρ), answered_error]
  cases holdDisposition bg (ingestHolds s bg a l li) with
  | none => rfl
  | some d => simp only [absorb_rename, answered_ok, KernelAction.rename]

theorem settleInvocation_rename (outcome : Outcome) (att : Option ResolutionAttestation) :
    settleInvocation (s.rename ρ) (ρ.inv inv) outcome (att.map (·.rename ρ)) =
      answered ρ (settleInvocation s inv outcome att) := by
  simp only [settleInvocation, VecMap.getCloned_eq_get, KernelState.rename_pending, VecMap.get_rename]
  cases s.pending.get inv with
  | none => rfl
  | some j =>
    simp only [Option.map_some, PendingInvocation.rename_agent, KernelState.rename_agentActive,
      VecSet.contains_rename, PendingInvocation.rename_disposition, settleRefusal_rename, apply_ite (answered ρ),
      answered_error]
    cases settleRefusal s inv outcome att j with
    | some e => rfl
    | none =>
      simp only [settled_rename, answered_ok, KernelAction.rename, Option.map_map]
      rfl

theorem beginInvocation_rename (chal : ChallengeId) (ah : ContentHash) (authorized : Bool) :
    beginInvocation (s.rename ρ) (bg.rename ρ) (ρ.agent a) (ρ.inv inv) (ρ.challenge chal) (snap.rename ρ) egr
        (ρ.content ah) authorized =
      answered ρ (beginInvocation s bg a inv chal snap egr ah authorized) := by
  have plain := @pend_rename ρ s inv ⟨a, snap, egr, .plain, .permitted, authorized, false⟩
  have bypassed := @pend_rename ρ s inv ⟨a, snap, egr, .bypassed, .monitorBypassed, authorized, false⟩
  have challenged := @challenge_rename ρ s inv ⟨chal, a, snap, egr, ah, authorized⟩
  rw [beginInvocation, beginInvocation, beginRefusal_rename, beginVerdict_rename, denyReason_rename]
  cases beginRefusal s bg a inv snap egr with
  | some e => rfl
  | none =>
    cases beginVerdict s bg a snap egr authorized <;> cases mode : bg.mode <;>
      simp only [BackgroundTheory.rename_mode, mode, answered_ok, answered_error, ← plain, ← bypassed,
        ← challenged] <;> rfl

theorem authorizeInspected_rename (att : InspectionAttestation) :
    authorizeInspected (s.rename ρ) (bg.rename ρ) (ρ.inv inv) (att.rename ρ) =
      answered ρ (authorizeInspected s bg inv att) := by
  simp only [authorizeInspected, VecMap.getCloned_eq_get, KernelState.rename_challenges, VecMap.get_rename]
  cases s.challenges.get inv with
  | none => rfl
  | some sc =>
    simp only [Option.map_some, scopeMatches_rename, KernelState.rename_consumedAttestations,
      InspectionAttestation.rename_id, VecSet.contains_rename, InspectionAttestation.rename_positive,
      authorizeAdmits_rename, resolve_rename, apply_ite (answered ρ), answered_ok, answered_error]
    rfl

theorem crossOutput_rename :
    crossOutput (s.rename ρ) (bg.rename ρ) (q.rename ρ) = answered ρ (crossOutput s bg q) := by
  simp only [crossOutput, CrossInput.rename_src, CrossInput.rename_rcv, CrossInput.rename_crossing,
    KernelState.rename_agentActive, KernelState.rename_consumedCrossings, VecSet.contains_rename, srcInFlight_rename,
    crossBranch_rename, crossBound_rename, crossHolds_rename, holdDisposition_rename, crossed_rename,
    apply_ite (answered ρ), answered_error]
  cases holdDisposition bg (crossHolds s bg q (crossBranch s q)) <;> rfl

/-- The kernel only ever compares names: one-to-one renamed commands do, on the renamed state, what the
    commands do. -/
theorem kernel_carries (ρ : Renaming) (bg : BackgroundTheory) :
    (kernel bg).Carries (kernel (bg.rename ρ)) (KernelState.rename ρ) (KernelCommand.rename ρ)
      (KernelAction.rename ρ) where
  start := initial_rename.symm
  step s c := by
    cases c with
    | registerTool tool => exact registerTool_rename tool
    | unregisterTool tool => exact unregisterTool_rename tool
    | delegate grantor grantee => exact delegate_rename
    | grantCapability parent child cap => exact grantCapability_rename cap
    | grantCrossing grantor agent assignment n => exact grantCrossing_rename assignment n
    | revoke parent target => exact revoke_rename
    | cascadeRevoke child parent => exact cascadeRevoke_rename
    | ingest a src pconf pinteg => exact ingest_rename src pconf pinteg
    | settleInvocation inv outcome att => exact settleInvocation_rename outcome att
    | beginInvocation a inv chal snap egr ah authorized => exact beginInvocation_rename chal ah authorized
    | authorizeInspected inv att => exact authorizeInspected_rename att
    | crossOutput q => exact crossOutput_rename

/-- The same for whole lists of commands and for whole runs. -/
theorem renaming_symmetry (ρ : Renaming) (bg : BackgroundTheory) :
    (∀ cs, (kernel (bg.rename ρ)).attempts KernelState.initial (cs.map (·.rename ρ)) =
      (((kernel bg).attempts KernelState.initial cs).1.rename ρ,
        ((kernel bg).attempts KernelState.initial cs).2.map fun answer => (answer.1.rename ρ, answer.2))) ∧
    ∀ history s, (kernel bg).Run history s →
      (kernel (bg.rename ρ)).Run (history.map fun entry => (entry.1.rename ρ, entry.2.rename ρ)) (s.rename ρ) := by
  constructor
  · intro cs
    have answered := (kernel_carries ρ bg).attempts KernelState.initial cs
    rwa [initial_rename] at answered
  · intro history s run
    exact (kernel_carries ρ bg).run run

end Argus
