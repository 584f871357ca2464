import Einsof.Kernel.Isolation

namespace Argus

/-- An invocation with a pending record or an open challenge, its owner, policy and attested egress. -/
inductive KernelState.Open (s : KernelState) (i : InvocationId) :
    AgentId → ActionPolicySnapshot → VecSet EgressKind → Prop
  | pending {j : PendingInvocation} (present : s.pending.get i = some j) :
      Open s i j.agent j.policy j.egress
  | challenge {sc : ChallengeScope} (present : s.challenges.get i = some sc) :
      Open s i sc.agent sc.policy sc.egress

/-- What open work refers to is there: a registered tool and an active owner other than `root`. -/
structure Grounded (s : KernelState) (root a : AgentId) (snap : ActionPolicySnapshot)
    (egr : VecSet EgressKind) : Prop where
  registered : snap.tool ∈ s.toolRegistered
  active : a ∈ s.agentActive
  notRoot : a ≠ root
  coherent : snap.integInspect ≤ snap.integFloor
  narrows : ∀ e ∈ egr, e ∈ snap.declaredEgress
  covers : (∃ e, e ∈ snap.declaredEgress) → ∃ e, e ∈ egr

def AllGrounded (root : AgentId) (s : KernelState) : Prop :=
  ∀ i a snap egr, s.Open i a snap egr → Grounded s root a snap egr

variable {s s' : KernelState} {bg : BackgroundTheory} {a b root grantor : AgentId}
  {snap : ActionPolicySnapshot} {egr : VecSet EgressKind} {i inv : InvocationId}

theorem Grounded.mono (grounded : Grounded s root a snap egr)
    (tools : snap.tool ∈ s.toolRegistered → snap.tool ∈ s'.toolRegistered)
    (agents : a ∈ s.agentActive → a ∈ s'.agentActive) : Grounded s' root a snap egr :=
  { grounded with registered := tools grounded.registered, active := agents grounded.active }

namespace KernelState.Open

theorem of_same (opened : s'.Open i a snap egr) (pending : s'.pending = s.pending)
    (challenges : s'.challenges = s.challenges) : s.Open i a snap egr := by
  cases opened with
  | pending present => exact .pending (pending ▸ present)
  | challenge present => exact .challenge (challenges ▸ present)

theorem of_filter (opened : s'.Open i a snap egr)
    (pending : ∀ i, s'.pending.get i = (s.pending.get i).filter (·.agent ≠ b))
    (challenges : ∀ i, s'.challenges.get i = (s.challenges.get i).filter (·.agent ≠ b)) :
    s.Open i a snap egr ∧ a ≠ b := by
  cases opened with
  | pending present =>
    rw [pending, Option.filter_eq_some_iff, decide_eq_true_eq] at present
    exact ⟨.pending present.1, present.2⟩
  | challenge present =>
    rw [challenges, Option.filter_eq_some_iff, decide_eq_true_eq] at present
    exact ⟨.challenge present.1, present.2⟩

theorem of_demotion {p : Prop} [Decidable p] (opened : s'.Open i a snap egr)
    (pending : ∀ i, s'.pending.get i = (s.pending.get i).map (demotedIf p b))
    (challenges : s'.challenges = s.challenges) : s.Open i a snap egr := by
  cases opened with
  | pending present =>
    rw [pending, Option.map_eq_some_iff] at present
    obtain ⟨j, earlier, rfl⟩ := present
    have was : s.Open i j.agent j.policy j.egress := .pending earlier
    rwa [demotedIf_agent, demotedIf_policy, demotedIf_egress]
  | challenge present => exact .challenge (challenges ▸ present)

theorem of_settled {outcome : Outcome} {att : Option ResolutionAttestation} {j : PendingInvocation}
    (opened : (settled s inv outcome att j).Open i a snap egr) (present : s.pending.get inv = some j) :
    s.Open i a snap egr := by
  have own : s.Open inv j.agent j.policy j.egress := .pending present
  have demotion : (settleAt s inv outcome j).Open i a snap egr := by
    apply opened.of_demotion (fun _ => ?_) (by rw [settled_eq]; rfl) (b := j.agent)
      (p := j.disposition ≠ .permitted)
    rw [settled_eq]
    exact demoteIf_get
  cases demotion with
  | challenge open_ => exact .challenge open_
  | pending kept =>
    unfold settleAt at kept
    split at kept
    · rw [VecMap.get_insert] at kept
      split at kept
      · rename_i here
        cases kept
        exact here ▸ own
      · exact .pending kept
    · rw [VecMap.get_remove] at kept
      split at kept
      · cases kept
      · exact .pending kept

theorem of_pend {j : PendingInvocation} (opened : (s.pend inv j).Open i a snap egr) :
    s.Open i a snap egr ∨ (i = inv ∧ a = j.agent ∧ snap = j.policy ∧ egr = j.egress) := by
  cases opened with
  | challenge present => exact .inl (.challenge present)
  | pending present =>
    rw [pend_pending] at present
    split at present
    · rename_i here
      cases present
      exact .inr ⟨here, rfl, rfl, rfl⟩
    · exact .inl (.pending present)

theorem of_challenge {sc : ChallengeScope} (opened : (s.challenge inv sc).Open i a snap egr) :
    s.Open i a snap egr ∨ (i = inv ∧ a = sc.agent ∧ snap = sc.policy ∧ egr = sc.egress) := by
  cases opened with
  | pending present => exact .inl (.pending present)
  | challenge present =>
    rw [challenge_challenges] at present
    split at present
    · rename_i here
      cases present
      exact .inr ⟨here, rfl, rfl, rfl⟩
    · exact .inl (.challenge present)

theorem of_resolve {sc : ChallengeScope} {x : AttestationId} {admitted : Bool}
    (opened : (resolve s inv sc x admitted).Open i a snap egr) (present : s.challenges.get inv = some sc) :
    s.Open i a snap egr := by
  cases opened with
  | pending admitted =>
    rw [resolve_pending] at admitted
    split at admitted
    · rename_i here
      cases admitted
      exact .challenge (here.1 ▸ present)
    · exact .pending admitted
  | challenge kept =>
    rw [resolve_challenges] at kept
    split at kept
    · cases kept
    · exact .challenge kept

end KernelState.Open

theorem BeginGuards.grounded (guards : BeginGuards s bg a inv snap egr)
    (tools : s'.toolRegistered = s.toolRegistered) (agents : s'.agentActive = s.agentActive) :
    Grounded s' bg.rootAgent a snap egr where
  registered := tools ▸ guards.registered
  active := agents ▸ guards.active
  notRoot := guards.notRoot
  coherent := guards.coherent
  narrows := guards.narrows
  covers := guards.covers

/-- Open work after a step was open before it, its tool and owner still there, or just began. -/
inductive OpenOrigin (s s' : KernelState) (c : KernelCommand) (i : InvocationId) (a : AgentId)
    (snap : ActionPolicySnapshot) (egr : VecSet EgressKind) : Prop
  | kept (earlier : s.Open i a snap egr)
      (tools : snap.tool ∈ s.toolRegistered → snap.tool ∈ s'.toolRegistered)
      (agents : a ∈ s.agentActive → a ∈ s'.agentActive)
  | begun (chal : ChallengeId) (ah : ContentHash) (authorized : Bool)
      (begins : c = .beginInvocation a i chal snap egr ah authorized)

theorem open_step {c : KernelCommand} {r : KernelAction}
    (accepted : (kernel bg).step s c = .ok (s', r)) (opened : s'.Open i a snap egr) :
    OpenOrigin s s' c i a snap egr := by
  cases c with
  | registerTool tool =>
    obtain ⟨-, rfl, -⟩ := registerTool_ok.mp accepted
    exact .kept (opened.of_same rfl rfl) (fun known => VecSet.mem_insert.mpr (.inl known)) id
  | unregisterTool tool =>
    obtain ⟨-, noRecord, noChallenge, rfl, -⟩ := unregisterTool_ok.mp accepted
    have unused : snap.tool ≠ tool := by
      cases opened with
      | pending present => exact noRecord _ _ present
      | challenge present => exact noChallenge _ _ present
    exact .kept (opened.of_same rfl rfl) (fun known => VecSet.mem_remove.mpr ⟨known, unused⟩) id
  | delegate grantor grantee =>
    obtain ⟨-, -, -, -, rfl, -⟩ := delegate_ok.mp accepted
    obtain ⟨earlier, -⟩ := opened.of_filter (fun _ => enroll_pending) (fun _ => enroll_challenges)
    exact .kept earlier id (fun known => VecSet.mem_insert.mpr (.inl known))
  | grantCapability parent child cap =>
    obtain ⟨-, -, -, -, rfl, -⟩ := grantCapability_ok.mp accepted
    exact .kept (opened.of_same rfl rfl) id id
  | grantCrossing grantor agent assignment n =>
    obtain ⟨-, -, -, rfl, -⟩ := grantCrossing_ok.mp accepted
    exact .kept (opened.of_same rfl rfl) id id
  | revoke parent target =>
    obtain ⟨-, -, -, -, rfl, -⟩ := revoke_ok.mp accepted
    obtain ⟨earlier, spared⟩ :=
      opened.of_filter (fun _ => clearAgent_pending) (fun _ => clearAgent_challenges)
    exact .kept earlier id (fun known => VecSet.mem_remove.mpr ⟨known, spared⟩)
  | cascadeRevoke child parent =>
    obtain ⟨-, -, -, -, rfl, -⟩ := cascadeRevoke_ok.mp accepted
    obtain ⟨earlier, spared⟩ :=
      opened.of_filter (fun _ => clearAgent_pending) (fun _ => clearAgent_challenges)
    exact .kept earlier id (fun known => VecSet.mem_remove.mpr ⟨known, spared⟩)
  | ingest b src l li =>
    obtain ⟨-, -, d, -, rfl, -⟩ := ingest_ok.mp accepted
    have earlier := opened.of_demotion (fun _ => absorb_pending) (by rw [absorb_eq])
    exact .kept earlier (by rw [absorb_eq]; exact id) (by rw [absorb_eq]; exact id)
  | settleInvocation inv outcome att =>
    obtain ⟨j, present, -, -, -, rfl, -⟩ := settleInvocation_ok.mp accepted
    exact .kept (opened.of_settled present) (by rw [settled_eq]; exact id)
      (by rw [settled_eq]; exact id)
  | beginInvocation b inv chal snap' egr' ah authorized =>
    obtain ⟨-, effect, -⟩ := beginInvocation_ok.mp accepted
    generalize beginVerdict s bg b snap' egr' authorized = verdict at effect
    generalize bg.mode = mode at effect
    cases effect with
    | permit | bypass =>
      rcases opened.of_pend with earlier | ⟨rfl, rfl, rfl, rfl⟩
      · exact .kept earlier id id
      · exact .begun chal ah authorized rfl
    | inspect =>
      rcases opened.of_challenge with earlier | ⟨rfl, rfl, rfl, rfl⟩
      · exact .kept earlier id id
      · exact .begun chal ah authorized rfl
  | authorizeInspected inv att =>
    obtain ⟨sc, present, -, -, rfl, -⟩ := authorizeInspected_ok.mp accepted
    exact .kept (opened.of_resolve present) id id
  | crossOutput q =>
    obtain ⟨-, -, -, -, -, d, -, rfl, -⟩ := crossOutput_ok.mp accepted
    have earlier := opened.of_demotion (fun _ => crossed_pending) (by rw [crossed_eq])
    exact .kept earlier (by rw [crossed_eq]; exact id) (by rw [crossed_eq]; exact id)

theorem grounded_step {c : KernelCommand} {r : KernelAction} (before : AllGrounded bg.rootAgent s)
    (accepted : (kernel bg).step s c = .ok (s', r)) : AllGrounded bg.rootAgent s' := by
  intro i a snap egr opened
  cases open_step accepted opened with
  | kept earlier tools agents => exact (before i a snap egr earlier).mono tools agents
  | begun chal ah authorized begins =>
    subst begins
    obtain ⟨guards, effect, -⟩ := beginInvocation_ok.mp accepted
    exact guards.grounded (by rw [effect.frame]) (by rw [effect.frame])

theorem open_grounded (reach : (kernel bg).Reachable s) : AllGrounded bg.rootAgent s := by
  apply reach.invariant
  · intro i a snap egr opened
    cases opened with
    | pending present => cases present
    | challenge present => cases present
  · intro s c s' r before accepted
    exact grounded_step before accepted

def Compartment.empty : Compartment where
  active := false
  parent := none
  caps := none
  taints := none
  integs := none
  pending _ := none
  challenges _ := none
  grants _ := none

theorem clearAgent_compartment_self : (clearAgent s a).compartment a = Compartment.empty := by
  apply Compartment.ext
  · simp [KernelState.compartment, Compartment.empty]
  · simp [KernelState.compartment, Compartment.empty]
  · exact (VecMap.get_remove _ _ _).trans (if_pos rfl)
  · exact (VecMap.get_remove _ _ _).trans (if_pos rfl)
  · exact (VecMap.get_remove _ _ _).trans (if_pos rfl)
  · funext i
    simp only [KernelState.compartment, clearAgent_pending]
    cases s.pending.get i with
    | none => rfl
    | some j => by_cases own : j.agent = a <;> simp [Option.filter, own, Compartment.empty]
  · funext i
    simp only [KernelState.compartment, clearAgent_challenges]
    cases s.challenges.get i with
    | none => rfl
    | some sc => by_cases own : sc.agent = a <;> simp [Option.filter, own, Compartment.empty]
  · funext assignment
    simp [KernelState.compartment, Compartment.empty]

/-- The subject of an accepted command stays or becomes active, or is cleared. -/
theorem subject_step {c : KernelCommand} {r : KernelAction} (grounded : AllGrounded bg.rootAgent s)
    (accepted : (kernel bg).step s c = .ok (s', r)) (subject : c.subject s = some a) :
    a ∈ s'.agentActive ∨ s'.compartment a = Compartment.empty := by
  cases c with
  | registerTool tool => cases subject
  | unregisterTool tool => cases subject
  | delegate grantor grantee =>
    obtain ⟨-, -, -, -, rfl, -⟩ := delegate_ok.mp accepted
    cases subject
    exact .inl (VecSet.mem_insert.mpr (.inr rfl))
  | grantCapability parent child cap =>
    obtain ⟨-, active, -, -, rfl, -⟩ := grantCapability_ok.mp accepted
    cases subject
    exact .inl active
  | grantCrossing grantor agent assignment n =>
    obtain ⟨-, -, active, rfl, -⟩ := grantCrossing_ok.mp accepted
    cases subject
    exact .inl active
  | revoke parent target =>
    obtain ⟨-, -, -, -, rfl, -⟩ := revoke_ok.mp accepted
    cases subject
    exact .inr clearAgent_compartment_self
  | cascadeRevoke child parent =>
    obtain ⟨-, -, -, -, rfl, -⟩ := cascadeRevoke_ok.mp accepted
    cases subject
    exact .inr clearAgent_compartment_self
  | ingest b src l li =>
    obtain ⟨active, -, d, -, rfl, -⟩ := ingest_ok.mp accepted
    cases subject
    rw [absorb_eq]
    exact .inl active
  | settleInvocation inv outcome att =>
    obtain ⟨j, present, active, -, -, rfl, -⟩ := settleInvocation_ok.mp accepted
    rw [KernelCommand.subject, present] at subject
    cases subject
    rw [settled_eq]
    exact .inl active
  | beginInvocation b inv chal snap egr ah authorized =>
    obtain ⟨guards, effect, -⟩ := beginInvocation_ok.mp accepted
    cases subject
    rw [effect.frame]
    exact .inl guards.active
  | authorizeInspected inv att =>
    obtain ⟨sc, present, -, -, rfl, -⟩ := authorizeInspected_ok.mp accepted
    rw [KernelCommand.subject, present] at subject
    cases subject
    exact .inl (grounded _ _ _ _ (.challenge present)).active
  | crossOutput q =>
    obtain ⟨-, active, -, -, -, d, -, rfl, -⟩ := crossOutput_ok.mp accepted
    cases subject
    rw [crossed_eq]
    exact .inl active

def NoResidue (s : KernelState) : Prop :=
  ∀ a, a ∉ s.agentActive → s.compartment a = Compartment.empty

theorem initial_noResidue : NoResidue KernelState.initial := by
  intro a inactive
  have other : a ≠ AgentId.root := fun same => inactive (by rw [same]; decide)
  apply Compartment.ext
  · exact VecSet.contains_false_iff.mpr inactive
  · rfl
  · exact (VecMap.get_insert _ _ _ _).trans (if_neg other)
  · rfl
  · rfl
  · rfl
  · rfl
  · rfl

theorem noResidue_step {c : KernelCommand} {r : KernelAction} (grounded : AllGrounded bg.rootAgent s)
    (before : NoResidue s) (accepted : (kernel bg).step s c = .ok (s', r)) : NoResidue s' := by
  intro a inactive
  by_cases subject : c.subject s = some a
  · exact (subject_step grounded accepted subject).resolve_left inactive
  · have unmoved : s'.compartment a = s.compartment a := compartment_step accepted subject
    have earlier : a ∉ s.agentActive := by
      have same := congrArg Compartment.active unmoved
      rw [← VecSet.contains_false_iff] at inactive ⊢
      exact same.symm.trans inactive
    rw [unmoved, before a earlier]

theorem reachable_noResidue (reach : (kernel bg).Reachable s) : NoResidue s := by
  have both : AllGrounded bg.rootAgent s ∧ NoResidue s := by
    apply reach.invariant
    · exact ⟨open_grounded ⟨[], .start⟩, initial_noResidue⟩
    · intro s c s' r before accepted
      exact ⟨grounded_step before.1 accepted, noResidue_step before.1 before.2 accepted⟩
  exact both.2

theorem compartment_empty_pending (vacant : s.compartment a = Compartment.empty) {i : InvocationId}
    {j : PendingInvocation} (present : s.pending.get i = some j) : j.agent ≠ a := by
  intro own
  have held := compartment_pending.mpr ⟨present, own⟩
  rw [vacant] at held
  cases held

theorem compartment_empty_challenges (vacant : s.compartment a = Compartment.empty) {i : InvocationId}
    {sc : ChallengeScope} (present : s.challenges.get i = some sc) : sc.agent ≠ a := by
  intro own
  have held : (s.compartment a).challenges i = some sc := by
    simp [KernelState.compartment, present, Option.filter, own]
  rw [vacant] at held
  cases held

theorem compartment_empty_grants (vacant : s.compartment a = Compartment.empty) {key : CrossingKey}
    {g : CrossingGrant} (present : s.crossingGrants.get key = some g) : key.agent ≠ a := by
  intro own
  have none : s.crossingGrants.get ⟨a, key.assignment⟩ = none :=
    congrFun (congrArg Compartment.grants vacant) key.assignment
  rw [← own, present] at none
  cases none

/-- Enrolling an agent with an empty compartment that parents nobody only adds it and its edge. -/
theorem enroll_empty (vacant : s.compartment a = Compartment.empty)
    (childless : ∀ child, s.agentParent.get child ≠ some a) : enroll s grantor a = { s with
      agentActive := s.agentActive.insert a
      agentParent := s.agentParent.insert a grantor } := by
  have parents : s.agentParent.forEntries VecMap.new
      (fun kept child p => if child ≠ a ∧ p ≠ a then kept.insert child p else kept) = s.agentParent := by
    apply VecMap.retain_of_all
    intro child p here
    have orphan : s.agentParent.get a = none := congrArg Compartment.parent vacant
    refine ⟨fun same => ?_, fun same => childless child (here.trans (congrArg some same))⟩
    rw [← same, here] at orphan
    cases orphan
  have caps : s.agentCap.remove a = s.agentCap :=
    VecMap.remove_of_absent (congrArg Compartment.caps vacant)
  have taints : s.taintLevels.remove a = s.taintLevels :=
    VecMap.remove_of_absent (congrArg Compartment.taints vacant)
  have integs : s.integLevels.remove a = s.integLevels :=
    VecMap.remove_of_absent (congrArg Compartment.integs vacant)
  have pending : (s.dropPendingOf a).pending = s.pending :=
    VecMap.retain_of_all fun _ _ present => compartment_empty_pending vacant present
  have challenges : (s.dropChallengesOf a).challenges = s.challenges :=
    VecMap.retain_of_all fun _ _ present => compartment_empty_challenges vacant present
  have grants : (s.dropGrantsOf a).crossingGrants = s.crossingGrants :=
    VecMap.retain_of_all fun _ _ present => compartment_empty_grants vacant present
  have shape : enroll s grantor a = { s with
      agentActive := s.agentActive.insert a
      agentParent := (s.agentParent.forEntries VecMap.new fun kept child p =>
        if child ≠ a ∧ p ≠ a then kept.insert child p else kept).insert a grantor
      agentCap := s.agentCap.remove a
      taintLevels := s.taintLevels.remove a
      integLevels := s.integLevels.remove a
      pending := (s.dropPendingOf a).pending
      challenges := (s.dropChallengesOf a).challenges
      crossingGrants := (s.dropGrantsOf a).crossingGrants } := rfl
  rw [shape, parents, caps, taints, integs, pending, challenges, grants]

/-- No dangling reference and no residue: open work refers to registered tools and active agents, an
    inactive agent owns nothing, and delegating an id adds the agent and its edge and nothing else. -/
theorem no_residue (root : bg.rootAgent = AgentId.root) (reach : (kernel bg).Reachable s) :
    (∀ i j, s.pending.get i = some j → Grounded s AgentId.root j.agent j.policy j.egress) ∧
    (∀ i sc, s.challenges.get i = some sc → Grounded s AgentId.root sc.agent sc.policy sc.egress) ∧
    (∀ a, a ∉ s.agentActive → s.compartment a = Compartment.empty) ∧
    ∀ grantor grantee s' r, (kernel bg).step s (.delegate grantor grantee) = .ok (s', r) → s' = { s with
      agentActive := s.agentActive.insert grantee
      agentParent := s.agentParent.insert grantee grantor } := by
  have grounded := open_grounded reach
  have vacant := reachable_noResidue reach
  rw [root] at grounded
  refine ⟨?_, ?_, vacant, ?_⟩
  · intro i j present
    exact grounded _ _ _ _ (.pending present)
  · intro i sc present
    exact grounded _ _ _ _ (.challenge present)
  · intro grantor grantee s' r accepted
    obtain ⟨-, inactive, -, childless, rfl, -⟩ := delegate_ok.mp accepted
    exact enroll_empty (vacant grantee inactive) childless

theorem sampleState_reachable : (kernel sampleBackground).Reachable sampleState :=
  Machine.drive_reachable (kernel sampleBackground) sampleCommands

theorem no_residue_sample :
    Grounded sampleState AgentId.root sampleRecord.agent sampleRecord.policy sampleRecord.egress ∧
    sampleState.compartment ⟨"helper"⟩ = Compartment.empty := by
  obtain ⟨records, -, vacant, -⟩ := no_residue rfl sampleState_reachable
  exact ⟨records _ _ sample_pending, vacant _ (by decide)⟩

end Argus
