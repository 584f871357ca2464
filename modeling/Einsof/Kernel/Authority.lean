import Einsof.Kernel.Forest

namespace Argus

variable {s s' : KernelState} {bg : BackgroundTheory} {c : KernelCommand} {a b : AgentId} {cap : CapKind}

/-- An edge between two active agents. -/
def KernelState.LiveEdge (s : KernelState) (child parent : AgentId) : Prop :=
  s.agentParent.get child = some parent ∧ child ∈ s.agentActive ∧ parent ∈ s.agentActive

/-- A live parent holds whatever its child holds, and `root` everything. -/
structure Attenuated (s : KernelState) : Prop where
  edges : ∀ child parent, s.agentParent.get child = some parent → parent ∈ s.agentActive →
    ∀ cap, s.HasCap child cap → s.HasCap parent cap
  root : ∀ cap, s.HasCap AgentId.root cap

theorem Attenuated.initial : Attenuated KernelState.initial where
  edges child parent edge := by cases edge
  root cap := (KernelState.initial_hasCap _ _).mpr rfl

theorem hasCap_endow {granted : CapKind} {child : AgentId} :
    { s with agentCap := s.agentCap.insertInto child granted }.HasCap b cap ↔
      s.HasCap b cap ∨ (b = child ∧ cap = granted) :=
  VecMap.mem_insertInto

theorem Attenuated.keep (before : Attenuated s) (forest : Forest bg s) (step : TreeStep bg c s s') :
    Attenuated s' := by
  obtain ⟨edges, rootCaps⟩ := before
  cases step with
  | still active parent caps =>
    have held : ∀ b cap, s'.HasCap b cap ↔ s.HasCap b cap := by
      intro b cap
      rw [KernelState.HasCap, caps]
      rfl
    refine ⟨fun child above edge live cap => ?_, fun cap => (held _ _).mpr (rootCaps cap)⟩
    rw [parent] at edge
    rw [active] at live
    rw [held, held]
    exact edges child above edge live cap
  | enroll grantor grantee _ active fresh notRoot childless result =>
    subst result
    have below : grantee ≠ AgentId.root := fun same => fresh (same ▸ forest.rooted)
    refine ⟨fun child above edge live cap holds => ?_, fun cap => enroll_hasCap.mpr ⟨rootCaps cap, below.symm⟩⟩
    -- the newcomer holds nothing, so its own edge asks nothing; no kept edge leads to it
    obtain ⟨holds, other⟩ := enroll_hasCap.mp holds
    rw [enroll_edges childless, if_neg other] at edge
    have spared : above ≠ grantee := fun same => childless child (same ▸ edge)
    have was : above ∈ s.agentActive := (VecSet.mem_insert.mp live).resolve_right spared
    exact enroll_hasCap.mpr ⟨edges child above edge was cap holds, spared⟩
  | endow parent child granted edge held result =>
    subst result
    refine ⟨fun c above link live cap holds => ?_, fun cap => hasCap_endow.mpr (.inl (rootCaps cap))⟩
    apply hasCap_endow.mpr
    rcases hasCap_endow.mp holds with holds | ⟨rfl, rfl⟩
    · exact .inl (edges c above link live cap holds)
    · have same : parent = above := Option.some.inj (edge.symm.trans link)
      exact .inl (same ▸ held)
  | clear a parent edge result =>
    subst result
    have below : a ≠ AgentId.root := forest.notRoot edge
    refine ⟨fun child above link live cap holds => ?_,
      fun cap => clearAgent_hasCap.mpr ⟨rootCaps cap, below.symm⟩⟩
    obtain ⟨holds, other⟩ := clearAgent_hasCap.mp holds
    rw [clearAgent_parent, if_neg other] at link
    obtain ⟨was, spared⟩ := VecSet.mem_remove.mp live
    exact clearAgent_hasCap.mpr ⟨edges child above link was cap holds, spared⟩

theorem reachable_attenuated (reach : (kernel bg).Reachable s) : Attenuated s := by
  have both : Forest bg s ∧ Attenuated s := by
    apply reach.invariant ⟨Forest.initial bg, Attenuated.initial⟩
    intro s c s' r before accepted
    exact ⟨before.1.keep (tree_step accepted), before.2.keep before.1 (tree_step accepted)⟩
  exact both.2

theorem Attenuated.chain (attenuated : Attenuated s)
    (chain : Relation.ReflTransGen s.LiveEdge a b) (held : s.HasCap a cap) : s.HasCap b cap := by
  induction chain with
  | refl => exact held
  | tail _ edge ih => exact attenuated.edges _ _ edge.1 edge.2.2 cap ih

/-- A step after which an active agent is still active takes none of its capabilities. -/
theorem TreeStep.hasCap (step : TreeStep bg c s s') (before : a ∈ s.agentActive) (after : a ∈ s'.agentActive)
    (held : s.HasCap a cap) : s'.HasCap a cap := by
  cases step with
  | still active parent caps => rwa [KernelState.HasCap, caps]
  | enroll grantor grantee _ active fresh notRoot childless result =>
    subst result
    exact enroll_hasCap.mpr ⟨held, fun same => fresh (same ▸ before)⟩
  | endow parent child granted edge holds result =>
    subst result
    exact hasCap_endow.mpr (.inl held)
  | clear b parent edge result =>
    subst result
    exact clearAgent_hasCap.mpr ⟨held, (VecSet.mem_remove.mp after).2⟩

theorem caps_grow (path : (kernel bg).Throughout (a ∈ ·.agentActive) s s') (held : s.HasCap a cap) :
    s'.HasCap a cap := by
  apply path.keep held
  intro u c u' r before after held accepted
  exact (tree_step accepted).hasCap before after held

/-- Authority never exceeds a live ancestor's, the root holds everything, and capabilities only grow:
    between any two moments with the agent active throughout, and so from the begin of an invocation
    for as long as its record is open. -/
theorem authority_attenuates (reach : (kernel bg).Reachable s) :
    (∀ a b, Relation.ReflTransGen s.LiveEdge a b → ∀ cap, s.HasCap a cap → s.HasCap b cap) ∧
    (∀ cap, s.HasCap AgentId.root cap) ∧
    (∀ a s', (kernel bg).Throughout (a ∈ ·.agentActive) s s' → ∀ cap, s.HasCap a cap → s'.HasCap a cap) ∧
    ∀ a inv chal snap egr ah authorized s₁ r s₂,
      (kernel bg).step s (.beginInvocation a inv chal snap egr ah authorized) = .ok (s₁, r) →
      (kernel bg).Throughout (fun u => ∃ j, u.pending.get inv = some j ∧ j.agent = a) s₁ s₂ →
      a ∈ s₂.agentActive ∧ ∀ cap, s.HasCap a cap → s₂.HasCap a cap := by
  have attenuated := reachable_attenuated reach
  refine ⟨fun a b chain cap => attenuated.chain chain, attenuated.root,
    fun a s' path cap => caps_grow path, ?_⟩
  intro a inv chal snap egr ah authorized s₁ r s₂ accepted path
  have owner : ∀ u, (kernel bg).Reachable u → (∃ j, u.pending.get inv = some j ∧ j.agent = a) →
      a ∈ u.agentActive := by
    intro u reached facts
    obtain ⟨j, present, rfl⟩ := facts
    exact (open_grounded reached _ _ _ _ (.pending present)).active
  obtain ⟨guards, effect, -⟩ := beginInvocation_ok.mp accepted
  have started : a ∈ s₁.agentActive := by
    rw [effect.frame]
    exact guards.active
  have active := (path.mono (reach.step accepted) owner).1
  refine ⟨active.last, fun cap held => caps_grow active ?_⟩
  exact (tree_step accepted).hasCap guards.active started held

/-- The sample worker just before its invocation begins. -/
def idleState : KernelState :=
  ((kernel sampleBackground).drive KernelState.initial (sampleCommands.take 4)).1

theorem authority_attenuates_sample :
    idleState.HasCap AgentId.root .networkEgress ∧ sampleState.HasCap ⟨"worker"⟩ .networkEgress := by
  have idle : (kernel sampleBackground).Reachable idleState :=
    Machine.drive_reachable (kernel sampleBackground) (sampleCommands.take 4)
  obtain ⟨chains, -, -, begun⟩ := authority_attenuates idle
  have chain : Relation.ReflTransGen idleState.LiveEdge ⟨"worker"⟩ AgentId.root :=
    .single ⟨by decide, by decide, by decide⟩
  have path : (kernel sampleBackground).Throughout
      (fun u => ∃ j, u.pending.get ⟨"call"⟩ = some j ∧ j.agent = ⟨"worker"⟩) sampleState sampleState :=
    .here ⟨sampleRecord, sample_pending, rfl⟩
  have accepted : (kernel sampleBackground).step idleState (.beginInvocation ⟨"worker"⟩ ⟨"call"⟩
      ⟨"challenge"⟩ sampleSnapshot (VecSet.fromIter [.networkExternal]) ⟨"args"⟩ true) =
      .ok (sampleState, .beginInvocation ⟨"worker"⟩ ⟨"call"⟩ ⟨"mailer"⟩ .allow true) := by
    decide
  constructor
  · exact chains _ _ chain .networkEgress (by decide)
  · exact (begun _ _ _ _ _ _ _ _ _ _ accepted path).2 .networkEgress (by decide)

end Argus
