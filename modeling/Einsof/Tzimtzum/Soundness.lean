import Einsof.Base.Confinement
import Einsof.Tzimtzum.Evolution
import Einsof.Tzimtzum.System

namespace Tzimtzum

variable {AgentId ToolId InvocationId CapKind EgressKind ChallengeId AttestationId CrossingId
  AssignmentDigest PolicyDigest ContentHash : Type}

inductive Label
  | conf (l : ConfLevel)
  | integ (l : IntegLevel)

def holds (taint : AgentId → ConfLevel → Prop) (integ : AgentId → IntegLevel → Prop) (a : AgentId) :
    Label → Prop
  | .conf l => taint a l
  | .integ l => integ a l

def outputs (J : PendingInvocation AgentId ToolId CapKind EgressKind AttestationId PolicyDigest) :
    Label → Prop
  | .conf l => J.policy.outputConf = l
  | .integ l => J.policy.outputInteg = l

def admits (allow inspect : EgressKind → Option ConfLevel)
    (J : PendingInvocation AgentId ToolId CapKind EgressKind AttestationId PolicyDigest) : Label → Prop
  | .conf l => (∀ E, J.egress E → ceilingAdmits allow l E ∨ (ceilingAdmits inspect l E ∧ vouched J)) ∧
      clearanceAdmits l J.policy
  | .integ l => integAllows l J.policy ∨ (integInspects l J.policy ∧ vouched J)

/-- The three gates as one label dimension over the pending records. -/
def gates (allow inspect : EgressKind → Option ConfLevel) : Dimension AgentId
    (PendingInvocation AgentId ToolId CapKind EgressKind AttestationId PolicyDigest) Label where
  owner J := J.agent
  contained := contained
  outputs := outputs
  admits := admits allow inspect

section Standing

variable (s : St AgentId ToolId InvocationId CapKind EgressKind ChallengeId AttestationId CrossingId
  AssignmentDigest PolicyDigest ContentHash)

/-- What a pending record owes to the state. -/
structure Recorded (I : InvocationId)
    (J : PendingInvocation AgentId ToolId CapKind EgressKind AttestationId PolicyDigest) : Prop where
  active : s.agentActive J.agent
  notRoot : J.agent ≠ s.rootAgent
  registered : s.toolRegistered J.policy.tool
  consumed : s.consumedIds I
  narrowed : ∀ E, J.egress E → J.policy.declaredEgress E
  covered : (∃ E, J.policy.declaredEgress E) → ∃ E, J.egress E
  coherent : leInteg J.policy.integInspect J.policy.integFloor
  permitted : contained J → J.authorized ∧ ∀ C, J.policy.requiredCaps C → s.agentCap J.agent C
  inspected : ∀ att, J.admission = .inspected att → s.consumedAttestations att
  monitored : ¬ contained J → s.mode = .monitor
  bypassed : J.admission = .bypassed → s.mode = .monitor

/-- What an open challenge owes to the state. -/
structure Scoped (I : InvocationId)
    (sc : ChallengeScope AgentId ToolId CapKind EgressKind ChallengeId PolicyDigest ContentHash) : Prop where
  unused : s.pending I = none
  consumed : s.consumedIds I
  active : s.agentActive sc.agent
  notRoot : sc.agent ≠ s.rootAgent
  registered : s.toolRegistered sc.policy.tool
  coherent : leInteg sc.policy.integInspect sc.policy.integFloor
  narrowed : ∀ E, sc.egress E → sc.policy.declaredEgress E
  covered : (∃ E, sc.policy.declaredEgress E) → ∃ E, sc.egress E
  enforced : s.mode = .enforce

/-- The inductive core of the bundle: what is owned is owned by an active agent, and no contained record
    is exposed to a level outside its gates. -/
structure Sound : Prop where
  tree : Tree s.rootAgent s.agentActive s.agentParent s.agentCap
  taint : ∀ a l, s.taintLevels a l → s.agentActive a
  integ : ∀ a l, s.integLevels a l → s.agentActive a
  records : ∀ I J, s.pending I = some J → Recorded s I J
  scopes : ∀ I sc, s.challenges I = some sc → Scoped s I sc
  granted : ∀ a d g, s.crossingGrants a d = some g → s.agentActive a ∧ g.remaining ≤ g.provisioned
  gated : (gates s.egressAllowCeiling s.egressInspectCeiling).Confined
    (holds s.taintLevels s.integLevels) s.pending

end Standing

section Moves

variable {s s' : St AgentId ToolId InvocationId CapKind EgressKind ChallengeId AttestationId CrossingId
  AssignmentDigest PolicyDigest ContentHash}
  {I inv : InvocationId}
  {J J' : PendingInvocation AgentId ToolId CapKind EgressKind AttestationId PolicyDigest}
  {sc : ChallengeScope AgentId ToolId CapKind EgressKind ChallengeId PolicyDigest ContentHash}

theorem Recorded.move (record : Recorded s I J) (descends : Descends s.mode J J')
    (root : s'.rootAgent = s.rootAgent) (mode : s'.mode = s.mode) (active : s'.agentActive J.agent)
    (tool : s'.toolRegistered J.policy.tool) (caps : ∀ k, s.agentCap J.agent k → s'.agentCap J.agent k)
    (ids : ∀ i, s.consumedIds i → s'.consumedIds i)
    (atts : ∀ x, s.consumedAttestations x → s'.consumedAttestations x) : Recorded s' I J' where
  active := by rwa [descends.agent]
  notRoot := by
    rw [descends.agent, root]
    exact record.notRoot
  registered := by rwa [descends.policy]
  consumed := ids I record.consumed
  narrowed := by
    rw [descends.egress, descends.policy]
    exact record.narrowed
  covered := by
    rw [descends.egress, descends.policy]
    exact record.covered
  coherent := by
    rw [descends.policy]
    exact record.coherent
  permitted claims := by
    rw [descends.authorized, descends.policy, descends.agent]
    obtain ⟨authorized, capable⟩ := record.permitted (descends.keeps claims)
    exact ⟨authorized, fun k required => caps k (capable k required)⟩
  inspected att vouching := by
    rw [descends.admission] at vouching
    exact atts att (record.inspected att vouching)
  monitored lost := by
    rw [mode]
    by_cases was : contained J
    · exact descends.gives lost was
    · exact record.monitored was
  bypassed admission := by
    rw [descends.admission] at admission
    rw [mode]
    exact record.bypassed admission

theorem Scoped.move (scope : Scoped s I sc) (unused : s'.pending I = none)
    (root : s'.rootAgent = s.rootAgent) (mode : s'.mode = s.mode) (active : s'.agentActive sc.agent)
    (tool : s'.toolRegistered sc.policy.tool) (ids : ∀ i, s.consumedIds i → s'.consumedIds i) :
    Scoped s' I sc where
  unused := unused
  consumed := ids I scope.consumed
  active := active
  notRoot := by
    rw [root]
    exact scope.notRoot
  registered := tool
  coherent := scope.coherent
  narrowed := scope.narrowed
  covered := scope.covered
  enforced := mode.trans scope.enforced

section Gates

variable {allow inspect : EgressKind → Option ConfLevel} {mode : Mode} {a : AgentId} {d : Disposition}
  {held held' : AgentId → Label → Prop}
  {p p' : InvocationId →
    Option (PendingInvocation AgentId ToolId CapKind EgressKind AttestationId PolicyDigest)}

theorem Descends.admits_eq (descends : Descends mode J J') :
    admits allow inspect J' = admits allow inspect J := by
  funext l
  cases l <;> simp only [admits, vouched, descends.policy, descends.egress, descends.admission]

theorem Descends.outputs_eq (descends : Descends mode J J') : outputs J' = outputs J := by
  funext l
  cases l <;> simp only [outputs, descends.policy]

theorem Evolves.confined (evolves : Evolves mode p p')
    (before : (gates allow inspect).Confined held p) (labels : ∀ b l, held' b l → held b l) :
    (gates allow inspect).Confined held' p' := by
  refine before.restrict (fun I J' present claims => ?_) labels
  obtain ⟨J, was, descends⟩ := evolves I J' present
  exact ⟨J, was, descends.keeps claims, descends.agent.symm, fun l => (congrFun descends.outputs_eq l).mp,
    fun l => (congrFun descends.admits_eq l).mpr⟩

/-- Levels released into `a`: permitted under its holds, or with its claims given up. -/
theorem confined_release (new : Label → Prop) (before : (gates allow inspect).Confined held p)
    (unblocked : d ≠ .blocked) (labels : ∀ b l, held' b l → held b l ∨ (b = a ∧ new l))
    (permitted : d = .permitted → ∀ I J, p I = some J → J.agent = a → ∀ l, new l → admits allow inspect J l) :
    (gates allow inspect).Confined held' (if d = .monitorBypassed then demoteAllOf p a else p) := by
  cases d with
  | blocked => exact absurd rfl unblocked
  | permitted =>
    refine before.absorb fun I J present _ l label => ?_
    exact (labels _ l label).imp_right fun ⟨own, level⟩ => permitted rfl I J present own l level
  | monitorBypassed =>
    refine before.demote (a := a) (fun I J' present claims => ?_) (fun b l other label => ?_)
    · rcases demoteAllOf_some present with kept | ⟨J, -, -, rfl⟩
      · exact kept
      · cases claims
    · exact (labels b l label).resolve_right fun own => other own.1

end Gates

theorem Sound.allInv (sound : Sound s) : AllInv s where
  toInvS := {
    rootAlwaysActive := sound.tree.rootActive
    parentImpliesActive := sound.tree.childActive
    singleParent C P₁ P₂ first second _ := sound.tree.single C P₁ P₂ first second
    noSelfParent := sound.tree.irrefl
    rootNoParent := sound.tree.rootless
    capabilitySubsumption C P edge _ alive := sound.tree.subsumed C P edge alive
    rootAllCaps := sound.tree.rootCaps
    revocationClean A inactive := by
      refine ⟨fun L held => inactive (sound.taint A L held), fun L held => inactive (sound.integ A L held),
        ?_, ?_, ?_⟩
      · rintro I J present rfl
        exact inactive (sound.records I J present).active
      · rintro I sc opened rfl
        exact inactive (sound.scopes I sc opened).active
      · intro D
        cases funded : s.crossingGrants A D with
        | none => rfl
        | some g => exact absurd (sound.granted A D g funded).1 inactive
    pendingActive I J present := (sound.records I J present).active }
  toInvP := {
    pendingUnique I J₁ J₂ first second := Option.some.inj (first.symm.trans second)
    pendingRegistered I J present := (sound.records I J present).registered
    rootNoPending I J present := (sound.records I J present).notRoot
    pendingIdsConsumed I J present := (sound.records I J present).consumed
    pendingEgressAttested I J present :=
      ⟨(sound.records I J present).narrowed, (sound.records I J present).covered⟩
    pendingSnapshotCoherent I J present := (sound.records I J present).coherent
    defaultDeny I J present := (sound.records I J present).permitted
    flowConfinement L I J E held present claims release :=
      (sound.gated I J present claims (.conf L) (.inl held)).1 E release
    flowConfinementWeak L I J E held present claims release :=
      ((sound.gated I J present claims (.conf L) (.inl held)).1 E release).imp_right And.left
    integrityConfinement L I J held present claims := sound.gated I J present claims (.integ L) (.inl held)
    integrityConfinementWeak L I J held present claims :=
      (sound.gated I J present claims (.integ L) (.inl held)).imp_right And.left
    clearanceConfinement L I J present claims exposed := by
      refine (sound.gated I J present claims (.conf L) ?_).2
      rcases exposed with held | ⟨I', K, other, own, claims', level⟩
      · exact .inl held
      · exact .inr ⟨I', K, other, own, claims', level⟩ }
  toInvPP := {
    pendingFlowCompat I₁ I₂ J₁ J₂ E first second same claims₁ claims₂ release :=
      (sound.gated I₂ J₂ second claims₂ (.conf _) (.inr ⟨I₁, J₁, first, same, claims₁, rfl⟩)).1 E release
    pendingIntegCompat I₁ I₂ J₁ J₂ first second same claims₁ claims₂ :=
      sound.gated I₂ J₂ second claims₂ (.integ _) (.inr ⟨I₁, J₁, first, same, claims₁, rfl⟩) }
  toInvE := {
    challengeScoped I sc opened := by
      obtain ⟨unused, consumed, active, notRoot, registered, coherent, narrowed, covered, -⟩ :=
        sound.scopes I sc opened
      exact ⟨unused, consumed, active, notRoot, registered, coherent, narrowed, covered⟩
    challengesEnforceOnly I sc opened := (sound.scopes I sc opened).enforced
    challengeUnique I sc₁ sc₂ first second := Option.some.inj (first.symm.trans second)
    inspectedEvidenceConsumed I J att present := (sound.records I J present).inspected att
    bypassModeSound I J present :=
      ⟨(sound.records I J present).monitored, (sound.records I J present).bypassed⟩
    quarantinePending I J present held := ⟨J, present, held⟩ }
  toInvC := {
    grantBounded A D g funded := (sound.granted A D g funded).2
    grantActive A D g funded := (sound.granted A D g funded).1
    grantPinned A D g₁ g₂ first second := Option.some.inj (first.symm.trans second) }

theorem Sound.initial (start : initial s) : Sound s := by
  obtain ⟨active, parent, cap, taint, integ, pending, challenges, -, -, -, grants, -⟩ := start
  refine ⟨?_, fun a l held => absurd held (taint a l), fun a l held => absurd held (integ a l), ?_, ?_, ?_,
    .initial pending⟩
  · exact
      { rootActive := (active s.rootAgent).mpr rfl
        childActive c p edge := absurd edge (parent c p)
        single c p _ edge := absurd edge (parent c p)
        irrefl a := parent a a
        rootless p := parent s.rootAgent p
        subsumed c p edge := absurd edge (parent c p)
        rootCaps k := (cap s.rootAgent k).mpr rfl }
  · intro I J present
    simp [pending I] at present
  · intro I sc opened
    simp [challenges I] at opened
  · intro a d g funded
    simp [grants a d] at funded

/-- A step that leaves the tree, the tools and the background. A record it adds stands on its own, the
    others descend from earlier ones. -/
theorem Sound.update (sound : Sound s)
    {p : InvocationId →
      Option (PendingInvocation AgentId ToolId CapKind EgressKind AttestationId PolicyDigest)}
    {c : InvocationId →
      Option (ChallengeScope AgentId ToolId CapKind EgressKind ChallengeId PolicyDigest ContentHash)}
    {t : AgentId → ConfLevel → Prop} {i : AgentId → IntegLevel → Prop} {ids : InvocationId → Prop}
    {atts : AttestationId → Prop} {xs : CrossingId → Prop}
    {g : AgentId → AssignmentDigest → Option CrossingGrant}
    (keptIds : ∀ I, s.consumedIds I → ids I) (keptAtts : ∀ x, s.consumedAttestations x → atts x)
    (taint : ∀ a l, t a l → s.agentActive a) (integ : ∀ a l, i a l → s.agentActive a)
    (records : ∀ I J', p I = some J' →
      Recorded { s with consumedIds := ids, consumedAttestations := atts } I J' ∨
        ∃ J, s.pending I = some J ∧ Descends s.mode J J')
    (scopes : ∀ I sc, c I = some sc → p I = none ∧
      (Scoped { s with consumedIds := ids } I sc ∨ s.challenges I = some sc))
    (granted : ∀ a d cg, g a d = some cg → s.agentActive a ∧ cg.remaining ≤ cg.provisioned)
    (gated : (gates s.egressAllowCeiling s.egressInspectCeiling).Confined (holds t i) p) :
    Sound { s with
      pending := p, challenges := c, taintLevels := t, integLevels := i, consumedIds := ids,
      consumedAttestations := atts, consumedCrossings := xs, crossingGrants := g } where
  tree := sound.tree
  taint := taint
  integ := integ
  records I J' present := by
    rcases records I J' present with new | ⟨J, before, descends⟩
    · exact new.move .refl rfl rfl new.active new.registered (fun _ => id) (fun _ => id) fun _ => id
    · have record := sound.records I J before
      exact record.move descends rfl rfl record.active record.registered (fun _ => id) keptIds keptAtts
  scopes I sc opened := by
    obtain ⟨unused, new | before⟩ := scopes I sc opened
    · exact new.move unused rfl rfl new.active new.registered fun _ => id
    · have scope := sound.scopes I sc before
      exact scope.move unused rfl rfl scope.active scope.registered keptIds
  granted := granted
  gated := gated

end Moves

/-- Every step of the action keeps the inductive core. -/
def Keeps (act : Action (St AgentId ToolId InvocationId CapKind EgressKind ChallengeId AttestationId
    CrossingId AssignmentDigest PolicyDigest ContentHash)) : Prop :=
  ∀ s s', Sound s → act.guard s → act.next s s' → Sound s'

section Structural

theorem registerTool_keeps (tool : ToolId) : Keeps (registerTool tool : Action (St AgentId ToolId
    InvocationId CapKind EgressKind ChallengeId AttestationId CrossingId AssignmentDigest PolicyDigest
    ContentHash)) := by
  rintro s _ sound - rfl
  refine ⟨sound.tree, sound.taint, sound.integ, ?_, ?_, sound.granted, sound.gated⟩
  · intro I J present
    have record := sound.records I J present
    exact record.move .refl rfl rfl record.active (.inl record.registered) (fun _ => id) (fun _ => id)
      fun _ => id
  · intro I sc opened
    have scope := sound.scopes I sc opened
    exact scope.move scope.unused rfl rfl scope.active (.inl scope.registered) fun _ => id

theorem unregisterTool_keeps (tool : ToolId) : Keeps (unregisterTool tool : Action (St AgentId ToolId
    InvocationId CapKind EgressKind ChallengeId AttestationId CrossingId AssignmentDigest PolicyDigest
    ContentHash)) := by
  rintro s _ sound ⟨-, unpending, unchallenged⟩ rfl
  refine ⟨sound.tree, sound.taint, sound.integ, ?_, ?_, sound.granted, sound.gated⟩
  · intro I J present
    have record := sound.records I J present
    exact record.move .refl rfl rfl record.active ⟨record.registered, unpending I J present⟩ (fun _ => id)
      (fun _ => id) fun _ => id
  · intro I sc opened
    have scope := sound.scopes I sc opened
    exact scope.move scope.unused rfl rfl scope.active ⟨scope.registered, unchallenged I sc opened⟩
      fun _ => id

theorem delegate_keeps (grantor grantee : AgentId) : Keeps (delegate grantor grantee : Action (St AgentId
    ToolId InvocationId CapKind EgressKind ChallengeId AttestationId CrossingId AssignmentDigest
    PolicyDigest ContentHash)) := by
  rintro s _ sound ⟨live, fresh, -, -⟩ rfl
  refine ⟨sound.tree.delegate live fresh, ?_, ?_, ?_, ?_, ?_, ?_⟩
  · exact fun a l held => .inl (sound.taint a l held.1)
  · exact fun a l held => .inl (sound.integ a l held.1)
  · intro I J present
    obtain ⟨before, other⟩ := dropPendingOf_eq_some.mp present
    have record := sound.records I J before
    exact record.move .refl rfl rfl (.inl record.active) record.registered (fun _ held => ⟨held, other⟩)
      (fun _ => id) fun _ => id
  · intro I sc opened
    have scope := sound.scopes I sc (dropChallengesOf_eq_some.mp opened).1
    exact scope.move ((Evolves.drop s.mode).none scope.unused) rfl rfl (.inl scope.active)
      scope.registered fun _ => id
  · intro a d g funded
    obtain ⟨active, bounded⟩ := sound.granted a d g (dropGrantsOf_eq_some.mp funded).1
    exact ⟨.inl active, bounded⟩
  · refine (Evolves.drop s.mode).confined sound.gated fun b label held => ?_
    cases label <;> exact held.1

theorem grantCapability_keeps (prnt child : AgentId) (cap : CapKind) : Keeps (grantCapability prnt child
    cap : Action (St AgentId ToolId InvocationId CapKind EgressKind ChallengeId AttestationId CrossingId
    AssignmentDigest PolicyDigest ContentHash)) := by
  rintro s _ sound ⟨-, -, edge, held⟩ rfl
  refine ⟨sound.tree.grant edge held, sound.taint, sound.integ, ?_, ?_, sound.granted, sound.gated⟩
  · intro I J present
    have record := sound.records I J present
    exact record.move .refl rfl rfl record.active record.registered (fun _ => .inr) (fun _ => id)
      fun _ => id
  · intro I sc opened
    have scope := sound.scopes I sc opened
    exact scope.move scope.unused rfl rfl scope.active scope.registered fun _ => id

theorem grantCrossing_keeps (grantor agent : AgentId) (d : AssignmentDigest) (n : Nat) : Keeps
    (grantCrossing grantor agent d n : Action (St AgentId ToolId InvocationId CapKind EgressKind
    ChallengeId AttestationId CrossingId AssignmentDigest PolicyDigest ContentHash)) := by
  rintro s _ sound ⟨-, -, active⟩ rfl
  refine sound.update (fun _ => id) (fun _ => id) sound.taint sound.integ
    (fun I J present => .inr ⟨J, present, .refl⟩)
    (fun I sc opened => ⟨(sound.scopes I sc opened).unused, .inr opened⟩) (fun a d' g funded => ?_)
    sound.gated
  split at funded
  next here =>
    cases funded
    exact ⟨here.1 ▸ active, Nat.le_refl n⟩
  next => exact sound.granted a d' g funded

/-- Both revocations remove an agent with all it owns. -/
theorem Sound.remove {s : St AgentId ToolId InvocationId CapKind EgressKind ChallengeId AttestationId
    CrossingId AssignmentDigest PolicyDigest ContentHash} (sound : Sound s) {target : AgentId}
    (other : target ≠ s.rootAgent) {s' : St AgentId ToolId InvocationId CapKind EgressKind ChallengeId
    AttestationId CrossingId AssignmentDigest PolicyDigest ContentHash}
    (moves : (cascadeRevoke target target).next s s') : Sound s' := by
  subst moves
  refine ⟨sound.tree.remove other, ?_, ?_, ?_, ?_, ?_, ?_⟩
  · exact fun a l held => ⟨sound.taint a l held.1, held.2⟩
  · exact fun a l held => ⟨sound.integ a l held.1, held.2⟩
  · intro I J present
    obtain ⟨before, stays⟩ := dropPendingOf_eq_some.mp present
    have record := sound.records I J before
    exact record.move .refl rfl rfl ⟨record.active, stays⟩ record.registered (fun _ held => ⟨held, stays⟩)
      (fun _ => id) fun _ => id
  · intro I sc opened
    obtain ⟨before, stays⟩ := dropChallengesOf_eq_some.mp opened
    have scope := sound.scopes I sc before
    exact scope.move ((Evolves.drop s.mode).none scope.unused) rfl rfl ⟨scope.active, stays⟩
      scope.registered fun _ => id
  · intro a d g funded
    obtain ⟨before, stays⟩ := dropGrantsOf_eq_some.mp funded
    exact ⟨⟨(sound.granted a d g before).1, stays⟩, (sound.granted a d g before).2⟩
  · refine (Evolves.drop s.mode).confined sound.gated fun b label held => ?_
    cases label <;> exact held.1

theorem revoke_keeps (prnt target : AgentId) : Keeps (revoke prnt target : Action (St AgentId ToolId
    InvocationId CapKind EgressKind ChallengeId AttestationId CrossingId AssignmentDigest PolicyDigest
    ContentHash)) :=
  fun _ _ sound enabled moves => sound.remove enabled.2.2.2 moves

theorem cascadeRevoke_keeps (child prnt : AgentId) : Keeps (cascadeRevoke child prnt : Action (St AgentId
    ToolId InvocationId CapKind EgressKind ChallengeId AttestationId CrossingId AssignmentDigest
    PolicyDigest ContentHash)) :=
  fun _ _ sound enabled moves => sound.remove enabled.2.2.2 moves

end Structural

section Labels

variable {s : St AgentId ToolId InvocationId CapKind EgressKind ChallengeId AttestationId CrossingId
  AssignmentDigest PolicyDigest ContentHash}

theorem ingestHolds.admits {a : AgentId} {pconf : ConfLevel} {pinteg : IntegLevel}
    (clear : ingestHolds s a pconf pinteg) (I : InvocationId)
    (J : PendingInvocation AgentId ToolId CapKind EgressKind AttestationId PolicyDigest)
    (present : s.pending I = some J) (own : J.agent = a) (l : Label)
    (level : l = .conf pconf ∨ l = .integ pinteg) :
    admits s.egressAllowCeiling s.egressInspectCeiling J l := by
  obtain ⟨conf, clearance, integ⟩ := clear
  rcases level with rfl | rfl
  · exact ⟨fun E => conf I J E present own, clearance I J present own⟩
  · exact integ I J present own

theorem ingest_keeps (a : AgentId) (src : Option AgentId) (pconf : ConfLevel) (pinteg : IntegLevel)
    (d : Disposition) : Keeps (ingest a src pconf pinteg d : Action (St AgentId ToolId InvocationId CapKind
    EgressKind ChallengeId AttestationId CrossingId AssignmentDigest PolicyDigest ContentHash)) := by
  rintro s _ sound ⟨active, -, unblocked, permitted, -, monitored⟩ rfl
  have evolves : Evolves s.mode s.pending
      (if d = .monitorBypassed then demoteAllOf s.pending a else s.pending) := by
    split
    next bypassed => exact .demote (monitored bypassed)
    next => exact .refl
  refine sound.update (fun _ => id) (fun _ => id) (fun b l held => ?_) (fun b l held => ?_)
    (fun I J' present => .inr (evolves I J' present))
    (fun I sc opened => ⟨evolves.none (sound.scopes I sc opened).unused, .inr opened⟩) sound.granted
    (confined_release (fun l => l = .conf pconf ∨ l = .integ pinteg) sound.gated unblocked
      (fun b l held => ?_) fun allowed => (permitted allowed).admits)
  · rcases held with old | ⟨rfl, -⟩
    · exact sound.taint b l old
    · exact active
  · rcases held with old | ⟨rfl, -⟩
    · exact sound.integ b l old
    · exact active
  · rcases l with l | l
    · exact held.imp_right fun ⟨own, level⟩ => ⟨own, .inl (congrArg Label.conf level)⟩
    · exact held.imp_right fun ⟨own, level⟩ => ⟨own, .inr (congrArg Label.integ level)⟩

theorem settleInvocation_keeps (inv : InvocationId) (a : AgentId) (dispo : Disposition) (outcome : Outcome)
    (clvl : ConfLevel) (ilvl : IntegLevel) (att : Option (ResolutionAttestation InvocationId AttestationId)) :
    Keeps (settleInvocation inv a dispo outcome clvl ilvl att : Action (St AgentId ToolId InvocationId
    CapKind EgressKind ChallengeId AttestationId CrossingId AssignmentDigest PolicyDigest ContentHash)) := by
  rintro s _ sound ⟨⟨J₀, present⟩, active, unblocked, pinned, -, -⟩ rfl
  obtain ⟨own, same, rfl, rfl⟩ := pinned J₀ present
  have settled : Evolves s.mode s.pending (settleAt s.pending inv outcome) := .settle
  have evolves : Evolves s.mode s.pending (if dispo = .permitted then settleAt s.pending inv outcome
      else demoteAllOf (settleAt s.pending inv outcome) a) := by
    split
    next => exact settled
    next lost =>
      exact settled.trans (.demote ((sound.records inv J₀ present).monitored fun claims =>
        lost (same.trans claims)))
  refine sound.update (fun _ => id) (fun _ => .inl) (fun b l held => ?_) (fun b l held => ?_)
    (fun I J' present => .inr (evolves I J' present))
    (fun I sc opened => ⟨evolves.none (sound.scopes I sc opened).unused, .inr opened⟩) sound.granted ?_
  · rcases held with old | ⟨-, rfl, -⟩
    · exact sound.taint b l old
    · exact active
  · rcases held with old | ⟨-, rfl, -⟩
    · exact sound.integ b l old
    · exact active
  · have labels : ∀ b l, holds
        (fun A L => s.taintLevels A L ∨ (outcome ≠ .ambiguous ∧ A = a ∧ L = J₀.policy.outputConf))
        (fun A L => s.integLevels A L ∨ (outcome ≠ .ambiguous ∧ A = a ∧ L = J₀.policy.outputInteg)) b l →
        holds s.taintLevels s.integLevels b l ∨ (outcome ≠ .ambiguous ∧ b = a ∧ outputs J₀ l) := by
      intro b l held
      cases l <;> exact held.imp_right fun ⟨final, here, level⟩ => ⟨final, here, level.symm⟩
    by_cases claims : dispo = .permitted
    · rw [if_pos claims]
      by_cases ambiguous : outcome = .ambiguous
      · exact settled.confined sound.gated fun b l held =>
          (labels b l held).resolve_right fun released => released.1 ambiguous
      · refine sound.gated.settle present (same.symm.trans claims) (fun I J still => ?_) fun b l held => ?_
        · exact (settleAt_some still).resolve_right fun kept => ambiguous kept.1
        · exact (labels b l held).imp_right fun ⟨_, here, level⟩ => ⟨here.trans own, level⟩
    · rw [if_neg claims]
      have given := confined_release (d := .monitorBypassed) (a := a) (outputs J₀)
        (settled.confined sound.gated fun _ _ => id) (by decide)
        (fun b l held => (labels b l held).imp_right fun released => released.2) nofun
      rwa [if_pos rfl] at given

theorem crossOutput_keeps (q : CrossInput AgentId AttestationId CrossingId AssignmentDigest ContentHash)
    (branch : CrossBranch) (dispo : Disposition) : Keeps (crossOutput q branch dispo : Action (St AgentId
    ToolId InvocationId CapKind EgressKind ChallengeId AttestationId CrossingId AssignmentDigest
    PolicyDigest ContentHash)) := by
  rintro s _ sound ⟨-, active, -, -, -, -, -, -, -, -, unblocked, permitted, monitored⟩ rfl
  have evolves : Evolves s.mode s.pending
      (if dispo = .monitorBypassed then demoteAllOf s.pending q.rcv else s.pending) := by
    split
    next bypassed => exact .demote (monitored bypassed).2
    next => exact .refl
  refine sound.update (fun _ => id) (fun _ => .inl) (fun b l held => ?_) (fun b l held => ?_)
    (fun I J' present => .inr (evolves I J' present))
    (fun I sc opened => ⟨evolves.none (sound.scopes I sc opened).unused, .inr opened⟩)
    (fun b d g funded => ?_)
    (confined_release (a := q.rcv)
      (fun l => (branch = .endorsed ∧ (l = .conf q.releasedConf ∨ l = .integ q.releasedInteg)) ∨
        (branch = .unendorsed ∧ holds s.taintLevels s.integLevels q.src l))
      sound.gated unblocked (fun b l held => ?_) fun allowed I J present own l level => ?_)
  · rcases held with old | ⟨-, rfl, -⟩ | ⟨-, rfl, -⟩
    · exact sound.taint b l old
    · exact active
    · exact active
  · rcases held with old | ⟨-, rfl, -⟩ | ⟨-, rfl, -⟩
    · exact sound.integ b l old
    · exact active
    · exact active
  · split at funded
    next =>
      obtain ⟨cg, before, provisioned, remaining⟩ := decrementGrantAt_some funded
      obtain ⟨owner, bounded⟩ := sound.granted b d cg before
      exact ⟨owner, provisioned ▸ remaining.trans bounded⟩
    next => exact sound.granted b d g funded
  · cases l with
    | conf l =>
      rcases held with old | ⟨endorsed, own, level⟩ | ⟨unendorsed, own, level⟩
      · exact .inl old
      · exact .inr ⟨own, .inl ⟨endorsed, .inl (congrArg Label.conf level)⟩⟩
      · exact .inr ⟨own, .inr ⟨unendorsed, level⟩⟩
    | integ l =>
      rcases held with old | ⟨endorsed, own, level⟩ | ⟨unendorsed, own, level⟩
      · exact .inl old
      · exact .inr ⟨own, .inl ⟨endorsed, .inr (congrArg Label.integ level)⟩⟩
      · exact .inr ⟨own, .inr ⟨unendorsed, level⟩⟩
  · obtain ⟨released, unreleased⟩ := permitted allowed
    rcases level with ⟨endorsed, level⟩ | ⟨unendorsed, level⟩
    · exact (released endorsed).admits I J present own l level
    · cases l with
      | conf l =>
        obtain ⟨flow, clearance⟩ := (unreleased unendorsed).1 l level
        exact ⟨fun E => flow I J E present own, clearance I J present own⟩
      | integ l => exact (unreleased unendorsed).2 l level I J present own

end Labels

section Admissions

variable (s : St AgentId ToolId InvocationId CapKind EgressKind ChallengeId AttestationId CrossingId
  AssignmentDigest PolicyDigest ContentHash)

def speculative (a : AgentId) : Label → Prop
  | .conf l => speculativeTaint s a l
  | .integ l => speculativeInteg s a l

/-- A record that passed the live gate. -/
structure Entry (J : PendingInvocation AgentId ToolId CapKind EgressKind AttestationId PolicyDigest) :
    Prop where
  authorized : J.authorized
  capable : checkCapability s J.agent J.policy
  exposed : ∀ l, speculative s J.agent l → admits s.egressAllowCeiling s.egressInspectCeiling J l
  others : ∀ I K, s.pending I = some K → K.agent = J.agent → ∀ l, outputs J l →
    admits s.egressAllowCeiling s.egressInspectCeiling K l
  self : ∀ l, outputs J l → admits s.egressAllowCeiling s.egressInspectCeiling J l

variable {s}
  {J : PendingInvocation AgentId ToolId CapKind EgressKind AttestationId PolicyDigest}

theorem Entry.of_allow (pass : beginAllow s J.agent J.policy J.egress J.authorized) : Entry s J := by
  obtain ⟨capable, authorized, ⟨clear, clearOthers, clearSelf⟩, ⟨flow, flowOthers, flowSelf⟩,
    integ, integOthers, integSelf⟩ := pass
  refine ⟨authorized, capable, fun l level => ?_, fun I K present own l out => ?_, fun l out => ?_⟩
  · cases l with
    | conf l => exact ⟨fun E release => .inl (flow l E level release), clear l level⟩
    | integ l => exact .inl (integ l level)
  · cases l with
    | conf l =>
      cases out
      exact ⟨fun E release => .inl (flowOthers I K E present own release), clearOthers I K present own⟩
    | integ l =>
      cases out
      exact .inl (integOthers I K present own)
  · cases l with
    | conf l =>
      cases out
      exact ⟨fun E release => .inl (flowSelf E release), clearSelf⟩
    | integ l =>
      cases out
      exact .inl integSelf

theorem Entry.of_admissible (vouching : vouched J)
    (pass : beginAdmissible s J.agent J.policy J.egress J.authorized) : Entry s J := by
  obtain ⟨capable, authorized, ⟨clear, clearOthers, clearSelf⟩, ⟨flow, flowOthers, flowSelf⟩,
    integ, integOthers, integSelf⟩ := pass
  refine ⟨authorized, capable, fun l level => ?_, fun I K present own l out => ?_, fun l out => ?_⟩
  · cases l with
    | conf l =>
      exact ⟨fun E release => (flow l E level release).imp_right (⟨·, vouching⟩), clear l level⟩
    | integ l => exact (integ l level).imp_right (⟨·, vouching⟩)
  · cases l with
    | conf l =>
      cases out
      exact ⟨fun E => flowOthers I K E present own, clearOthers I K present own⟩
    | integ l =>
      cases out
      exact integOthers I K present own
  · cases l with
    | conf l =>
      cases out
      exact ⟨fun E release => (flowSelf E release).imp_right (⟨·, vouching⟩), clearSelf⟩
    | integ l =>
      cases out
      exact integSelf.imp_right (⟨·, vouching⟩)

theorem Sound.enter (sound : Sound s) (inv : InvocationId) (entry : Entry s J) {p : InvocationId →
      Option (PendingInvocation AgentId ToolId CapKind EgressKind AttestationId PolicyDigest)}
    (items : ∀ I K, p I = some K → (I = inv ∧ K = J) ∨ s.pending I = some K) :
    (gates s.egressAllowCeiling s.egressInspectCeiling).Confined
      (holds s.taintLevels s.integLevels) p := by
  refine sound.gated.enter items (fun I K present _ => entry.others I K present) (fun l exposed => ?_)
    entry.self
  refine entry.exposed l ?_
  rcases exposed with held | ⟨I, K, present, own, -, out⟩ <;> cases l
  · exact .inl held
  · exact .inl held
  · exact .inr ⟨I, K, present, own, out⟩
  · exact .inr ⟨I, K, present, own, out⟩

theorem beginRecord_some {a : AgentId} {snap : ActionPolicySnapshot ToolId CapKind EgressKind PolicyDigest}
    {egr : EgressKind → Prop} {authorized : Prop} {v : Verdict} {mode : Mode}
    (made : beginRecord a snap egr authorized v mode = some J) :
    (v = .allow ∧ J = ⟨a, snap, egr, .plain, .permitted, authorized, False⟩) ∨
      ((v = .deny ∨ mode = .monitor) ∧ J = ⟨a, snap, egr, .bypassed, .monitorBypassed, authorized, False⟩) := by
  cases v with
  | allow => exact .inl ⟨rfl, (Option.some.inj made).symm⟩
  | inspectionRequired =>
    cases mode with
    | enforce => cases made
    | monitor => exact .inr ⟨.inr rfl, (Option.some.inj made).symm⟩
  | deny => exact .inr ⟨.inl rfl, (Option.some.inj made).symm⟩

theorem beginInvocation_keeps (a : AgentId) (inv : InvocationId) (chal : ChallengeId)
    (snap : ActionPolicySnapshot ToolId CapKind EgressKind PolicyDigest) (egr : EgressKind → Prop)
    (ah : ContentHash) (authorized : Prop) (v : Verdict) : Keeps (beginInvocation a inv chal snap egr ah
    authorized v : Action (St AgentId ToolId InvocationId CapKind EgressKind ChallengeId AttestationId
    CrossingId AssignmentDigest PolicyDigest ContentHash)) := by
  rintro s _ sound ⟨active, notRoot, registered, coherent, absent, -, unchallenged, narrowed, covered, allow,
    -, -, denied⟩ rfl
  refine sound.update (fun _ => .inl) (fun _ => id) sound.taint sound.integ (fun I J present => ?_)
    (fun I sc opened => ?_) sound.granted ?_
  · split at present
    next here =>
      refine .inl ?_
      rcases beginRecord_some present with ⟨rfl, rfl⟩ | ⟨gated, rfl⟩
      · obtain ⟨capable, cleared, -⟩ := allow rfl
        exact ⟨active, notRoot, registered, .inr here, narrowed, covered, coherent,
          fun _ => ⟨cleared, capable⟩, nofun, fun lost => absurd rfl lost, nofun⟩
      · have monitor : s.mode = .monitor := gated.elim denied id
        exact ⟨active, notRoot, registered, .inr here, narrowed, covered, coherent, nofun, nofun,
          fun _ => monitor, fun _ => monitor⟩
    next => exact .inr ⟨J, present, .refl⟩
  · by_cases here : I = inv
    · rw [if_pos here] at opened
      rw [if_pos here]
      split at opened
      next enforced =>
        cases opened
        refine ⟨by rw [enforced]; rfl, .inl ?_⟩
        exact ⟨here ▸ absent, .inr here, active, notRoot, registered, coherent, narrowed, covered, enforced⟩
      next =>
        rw [here, unchallenged] at opened
        cases opened
    · rw [if_neg here] at opened
      rw [if_neg here]
      exact ⟨(sound.scopes I sc opened).unused, .inr opened⟩
  · by_cases permitted : v = .allow
    · subst permitted
      refine sound.enter inv
        (Entry.of_allow (J := ⟨a, snap, egr, .plain, .permitted, authorized, False⟩) (allow rfl))
        fun I K present => ?_
      split at present
      next here => exact .inl ⟨here, (Option.some.inj present).symm⟩
      next => exact .inr present
    · refine sound.gated.restrict (fun I J' present claims => ?_) fun _ _ => id
      split at present
      next =>
        rcases beginRecord_some present with ⟨allowed, -⟩ | ⟨-, rfl⟩
        · exact absurd allowed permitted
        · cases claims
      next => exact ⟨J', present, claims, rfl, fun _ => id, fun _ => id⟩

theorem authorizeInspected_keeps (inv : InvocationId)
    (sc : ChallengeScope AgentId ToolId CapKind EgressKind ChallengeId PolicyDigest ContentHash)
    (att : InspectionAttestation InvocationId ChallengeId AttestationId PolicyDigest ContentHash)
    (permit : Bool) : Keeps (authorizeInspected inv sc att permit : Action (St AgentId ToolId InvocationId
    CapKind EgressKind ChallengeId AttestationId CrossingId AssignmentDigest PolicyDigest ContentHash)) := by
  rintro s _ sound ⟨-, -, -, -, -, -, consumed, permits, -⟩ rfl
  refine sound.update (fun _ => id) (fun _ => .inl) sound.taint sound.integ (fun I J present => ?_)
    (fun I sc' opened => ?_) sound.granted ?_
  · split at present
    next here =>
      cases present
      obtain ⟨-, active, notRoot, registered, coherent, -, narrowed, covered, capable, cleared, -⟩ :=
        permits here.2
      refine .inl ⟨active, notRoot, registered, here.1 ▸ consumed, narrowed, covered, coherent,
        fun _ => ⟨cleared, capable⟩, fun x vouching => ?_, fun lost => absurd rfl lost, nofun⟩
      cases vouching
      exact .inr rfl
    next => exact .inr ⟨J, present, .refl⟩
  · split at opened
    next => cases opened
    next other =>
      rw [if_neg fun here => other here.1]
      exact ⟨(sound.scopes I sc' opened).unused, .inr opened⟩
  · by_cases admitted : permit = true
    · obtain ⟨-, -, -, -, -, -, -, -, pass⟩ := permits admitted
      refine sound.enter inv (Entry.of_admissible
        (J := ⟨sc.agent, sc.policy, sc.egress, .inspected att.id, .permitted, sc.authorized, False⟩)
        ⟨att.id, rfl⟩ pass) fun I K present => ?_
      split at present
      next here => exact .inl ⟨here.1, (Option.some.inj present).symm⟩
      next => exact .inr present
    · refine sound.gated.restrict (fun I J' present claims => ?_) fun _ _ => id
      rw [if_neg fun here => admitted here.2] at present
      exact ⟨J', present, claims, rfl, fun _ => id, fun _ => id⟩

end Admissions

section System

variable {s : St AgentId ToolId InvocationId CapKind EgressKind ChallengeId AttestationId CrossingId
  AssignmentDigest PolicyDigest ContentHash}

theorem system_keeps {na : String × Action (St AgentId ToolId InvocationId CapKind EgressKind ChallengeId
    AttestationId CrossingId AssignmentDigest PolicyDigest ContentHash)}
    (registered : na ∈ (system AgentId ToolId InvocationId CapKind EgressKind ChallengeId AttestationId
      CrossingId AssignmentDigest PolicyDigest ContentHash).actions) : Keeps na.2 := by
  intro s s' sound _ moves
  simp only [system, List.mem_cons, List.not_mem_nil, or_false] at registered
  rcases registered with rfl | rfl | rfl | rfl | rfl | rfl | rfl | rfl | rfl | rfl | rfl | rfl
  · obtain ⟨tool, enabled, moves⟩ := moves
    exact registerTool_keeps tool s s' sound enabled moves
  · obtain ⟨tool, enabled, moves⟩ := moves
    exact unregisterTool_keeps tool s s' sound enabled moves
  · obtain ⟨grantor, grantee, enabled, moves⟩ := moves
    exact delegate_keeps grantor grantee s s' sound enabled moves
  · obtain ⟨prnt, child, cap, enabled, moves⟩ := moves
    exact grantCapability_keeps prnt child cap s s' sound enabled moves
  · obtain ⟨grantor, agent, d, n, enabled, moves⟩ := moves
    exact grantCrossing_keeps grantor agent d n s s' sound enabled moves
  · obtain ⟨prnt, target, enabled, moves⟩ := moves
    exact revoke_keeps prnt target s s' sound enabled moves
  · obtain ⟨child, prnt, enabled, moves⟩ := moves
    exact cascadeRevoke_keeps child prnt s s' sound enabled moves
  · obtain ⟨a, src, pconf, pinteg, dispo, enabled, moves⟩ := moves
    exact ingest_keeps a src pconf pinteg dispo s s' sound enabled moves
  · obtain ⟨a, inv, chal, snap, egr, ah, authorized, v, enabled, moves⟩ := moves
    exact beginInvocation_keeps a inv chal snap egr ah authorized v s s' sound enabled moves
  · obtain ⟨inv, sc, att, permit, enabled, moves⟩ := moves
    exact authorizeInspected_keeps inv sc att permit s s' sound enabled moves
  · obtain ⟨inv, a, dispo, outcome, clvl, ilvl, att, enabled, moves⟩ := moves
    exact settleInvocation_keeps inv a dispo outcome clvl ilvl att s s' sound enabled moves
  · obtain ⟨q, branch, dispo, enabled, moves⟩ := moves
    exact crossOutput_keeps q branch dispo s s' sound enabled moves

/-- Every state that the protocol reaches satisfies the whole bundle, whatever its sorts. -/
theorem kav_sound (reach : Kav.Reachable (system AgentId ToolId InvocationId CapKind EgressKind ChallengeId
    AttestationId CrossingId AssignmentDigest PolicyDigest ContentHash) s) : AllInv s :=
  (reach.sound Sound (fun _ => Sound.initial) fun _ registered => system_keeps registered).allInv

abbrev SampleState := St Bool Unit Unit Unit Unit Unit Unit Unit Unit Unit Unit

/-- Two agents, of which `false` is the root, and one egress kind that takes internal data. -/
def sampleStart : SampleState where
  agentActive A := A = false
  agentParent _ _ := False
  agentCap A _ := A = false
  taintLevels _ _ := False
  integLevels _ _ := False
  pending _ := none
  challenges _ := none
  consumedIds _ := False
  consumedAttestations _ := False
  consumedCrossings _ := False
  crossingGrants _ _ := none
  toolRegistered _ := False
  egressAllowCeiling _ := some .«internal»
  egressInspectCeiling _ := none
  mode := .enforce
  rootAgent := false

def samplePolicy : ActionPolicySnapshot Unit Unit Unit Unit where
  tool := ()
  requiredCaps _ := False
  confClearance := .sensitive
  integFloor := .standard
  integInspect := .untrusted
  outputConf := .«internal»
  outputInteg := .trusted
  declaredEgress _ := True
  policyDigest := ()

def sampleRegistered : SampleState := { sampleStart with toolRegistered _ := True }

def sampleDelegated : SampleState :=
  { sampleRegistered with
    agentActive _ := True
    agentParent C P := C = true ∧ P = false }

def sampleIngested : SampleState :=
  { sampleDelegated with
    taintLevels A L := A = true ∧ L = .«internal»
    integLevels A L := A = true ∧ L = .trusted }

def sampleBegun : SampleState :=
  { sampleIngested with
    pending _ := some ⟨true, samplePolicy, fun _ => True, .plain, .permitted, True, False⟩
    consumedIds _ := True }

theorem sample_delegated : (delegate false true).guard sampleRegistered ∧
    (delegate false true).next sampleRegistered sampleDelegated := by
  refine ⟨by simp [delegate, sampleRegistered, sampleStart], ?_⟩
  ext <;> simp [sampleDelegated, sampleRegistered, sampleStart, dropPendingOf, dropChallengesOf, dropGrantsOf]

theorem sample_ingested : (ingest true none .«internal» .trusted .permitted).guard sampleDelegated ∧
    (ingest true none .«internal» .trusted .permitted).next sampleDelegated sampleIngested := by
  constructor
  · simp [ingest, ingestHolds, ingestConfHold, ingestClearHold, ingestIntegHold, sampleDelegated,
      sampleRegistered, sampleStart]
  · ext <;> simp [sampleIngested, sampleDelegated, sampleRegistered, sampleStart]

theorem sample_allowed : beginAllow sampleIngested true samplePolicy (fun _ => True) True := by
  have taints : ∀ L, speculativeTaint sampleIngested true L → L = .«internal» := by
    rintro L (⟨-, same⟩ | ⟨I, J, present, -⟩)
    · exact same
    · cases present
  have integs : ∀ L, speculativeInteg sampleIngested true L → L = .trusted := by
    rintro L (⟨-, same⟩ | ⟨I, J, present, -⟩)
    · exact same
    · cases present
  have idle {p : Prop} : ∀ I J, sampleIngested.pending I = some J → p := fun I J present => by cases present
  refine ⟨fun C needed => needed.elim, trivial, ⟨fun L held => ?_, fun I J present => idle I J present, ?_⟩,
    ⟨fun L E held _ => ?_, fun I J E present => idle I J present, fun E _ => ?_⟩,
    fun L held => ?_, fun I J present => idle I J present, ?_⟩
  · rw [taints L held]
    exact Nat.le_succ 1
  · exact Nat.le_succ 1
  · rw [taints L held]
    exact ⟨_, rfl, Nat.le_refl 1⟩
  · exact ⟨_, rfl, Nat.le_refl 1⟩
  · rw [integs L held]
    exact Nat.le_succ 1
  · exact Nat.le_succ 1

theorem sample_begun : (beginInvocation true () () samplePolicy (fun _ => True) () True .allow).guard
      sampleIngested ∧
    (beginInvocation true () () samplePolicy (fun _ => True) () True .allow).next
      sampleIngested sampleBegun := by
  constructor
  · refine ⟨trivial, by decide, trivial, Nat.zero_le 1, rfl, id, rfl, fun _ _ => trivial,
      fun _ => ⟨(), trivial⟩, fun _ => sample_allowed, ?_, ?_, ?_⟩ <;> exact fun other => by cases other
  · ext <;> simp [sampleBegun, sampleIngested, sampleDelegated, sampleRegistered, sampleStart, beginRecord]

/-- A worker that took in internal data has a permitted invocation in flight. -/
theorem kav_sound_sample : AllInv sampleBegun := by
  have start : Kav.Reachable (system Bool Unit Unit Unit Unit Unit Unit Unit Unit Unit Unit) sampleStart :=
    .init (by simp [system, initial, sampleStart])
  have fresh : (registerTool ()).guard sampleStart := by simp [registerTool, sampleStart]
  have registers : (registerTool ()).next sampleStart sampleRegistered := by
    ext <;> simp [sampleRegistered, sampleStart]
  have registered := start.step (show ("register_tool", Kav.close1 registerTool) ∈ _ by simp [system])
    ⟨(), fresh⟩ ⟨(), fresh, registers⟩
  have delegated := registered.step (show ("delegate", Kav.close2 delegate) ∈ _ by simp [system])
    ⟨_, _, sample_delegated.1⟩ ⟨_, _, sample_delegated⟩
  have ingested := delegated.step (show ("ingest", Kav.close5 ingest) ∈ _ by simp [system])
    ⟨_, _, _, _, _, sample_ingested.1⟩ ⟨_, _, _, _, _, sample_ingested⟩
  have begun := ingested.step (show ("begin_invocation", Kav.close8 beginInvocation) ∈ _ by simp [system])
    ⟨_, _, _, _, _, _, _, _, sample_begun.1⟩ ⟨_, _, _, _, _, _, _, _, sample_begun⟩
  exact kav_sound begun

end System

end Tzimtzum
