import Einsof.Base.Lineage
import Einsof.Kernel.Residue

namespace Argus

open Lineage (Ranked Ancestor climb)

/-- What an accepted command does to the agents, their edges and their capabilities. -/
inductive TreeStep (bg : BackgroundTheory) (c : KernelCommand) (s s' : KernelState) : Prop
  | still (active : s'.agentActive = s.agentActive) (parent : s'.agentParent = s.agentParent)
      (caps : s'.agentCap = s.agentCap)
  | enroll (grantor grantee : AgentId) (command : c = .delegate grantor grantee)
      (active : grantor ∈ s.agentActive)
      (fresh : grantee ∉ s.agentActive) (notRoot : grantee ≠ bg.rootAgent)
      (childless : ∀ child, s.agentParent.get child ≠ some grantee)
      (result : s' = Argus.enroll s grantor grantee)
  | endow (parent child : AgentId) (cap : CapKind) (edge : s.agentParent.get child = some parent)
      (held : s.HasCap parent cap)
      (result : s' = { s with agentCap := s.agentCap.insertInto child cap })
  | clear (a parent : AgentId) (edge : s.agentParent.get a = some parent)
      (result : s' = clearAgent s a)

variable {s s' : KernelState} {bg : BackgroundTheory} {c : KernelCommand}

theorem tree_step {r : KernelAction}
    (accepted : (kernel bg).step s c = .ok (s', r)) : TreeStep bg c s s' := by
  cases c with
  | registerTool tool =>
    obtain ⟨-, rfl, -⟩ := registerTool_ok.mp accepted
    exact .still rfl rfl rfl
  | unregisterTool tool =>
    obtain ⟨-, -, -, rfl, -⟩ := unregisterTool_ok.mp accepted
    exact .still rfl rfl rfl
  | delegate grantor grantee =>
    obtain ⟨active, fresh, notRoot, childless, result, -⟩ := delegate_ok.mp accepted
    exact .enroll grantor grantee rfl active fresh notRoot childless result
  | grantCapability parent child cap =>
    obtain ⟨-, -, edge, held, result, -⟩ := grantCapability_ok.mp accepted
    exact .endow parent child cap edge held result
  | grantCrossing grantor agent assignment n =>
    obtain ⟨-, -, -, rfl, -⟩ := grantCrossing_ok.mp accepted
    exact .still rfl rfl rfl
  | revoke parent target =>
    obtain ⟨edge, -, -, -, result, -⟩ := revoke_ok.mp accepted
    exact .clear target parent edge result
  | cascadeRevoke child parent =>
    obtain ⟨edge, -, -, -, result, -⟩ := cascadeRevoke_ok.mp accepted
    exact .clear child parent edge result
  | ingest a src l li =>
    obtain ⟨-, -, d, -, rfl, -⟩ := ingest_ok.mp accepted
    rw [absorb_eq]
    exact .still rfl rfl rfl
  | settleInvocation inv outcome att =>
    obtain ⟨j, -, -, -, -, rfl, -⟩ := settleInvocation_ok.mp accepted
    rw [settled_eq]
    exact .still rfl rfl rfl
  | beginInvocation a inv chal snap egr ah authorized =>
    obtain ⟨-, effect, -⟩ := beginInvocation_ok.mp accepted
    rw [effect.frame]
    exact .still rfl rfl rfl
  | authorizeInspected inv att =>
    obtain ⟨sc, -, -, -, rfl, -⟩ := authorizeInspected_ok.mp accepted
    exact .still rfl rfl rfl
  | crossOutput q =>
    obtain ⟨-, -, -, -, -, d, -, rfl, -⟩ := crossOutput_ok.mp accepted
    rw [crossed_eq]
    exact .still rfl rfl rfl

theorem TreeStep.active {a : AgentId} (step : TreeStep bg c s s') (after : a ∈ s'.agentActive) :
    a ∈ s.agentActive ∨ ∃ grantor, c = .delegate grantor a := by
  cases step with
  | still active parent caps => exact .inl (active ▸ after)
  | endow parent child cap edge held result =>
    subst result
    exact .inl after
  | enroll grantor grantee command active fresh notRoot childless result =>
    subst result
    rcases VecSet.mem_insert.mp after with earlier | rfl
    · exact .inl earlier
    · exact .inr ⟨grantor, command⟩
  | clear b parent edge result =>
    subst result
    exact .inl (VecSet.mem_remove.mp after).1

/-- The edge every agent but the enrolled one keeps. -/
theorem enroll_edges {grantor grantee : AgentId}
    (childless : ∀ child, s.agentParent.get child ≠ some grantee) (c : AgentId) :
    (enroll s grantor grantee).agentParent.get c =
      if c = grantee then some grantor else s.agentParent.get c := by
  by_cases self : c = grantee
  · rw [enroll_parent, if_pos self, if_pos self]
  · rw [if_neg self]
    exact congrArg Compartment.parent (enroll_compartment self childless)

/-- The agents with an edge are the active ones but `root`, and all of them may be revoked. -/
structure Forest (bg : BackgroundTheory) (s : KernelState) : Prop where
  rooted : AgentId.root ∈ s.agentActive
  edges : ∀ a, s.agentParent.get a ≠ none ↔ a ∈ s.agentActive ∧ a ≠ AgentId.root
  revocable : ∀ a, s.agentParent.get a ≠ none → a ≠ bg.rootAgent
  acyclic : ∃ rank, Ranked s.agentParent.get rank

theorem Forest.initial (bg : BackgroundTheory) : Forest bg KernelState.initial where
  rooted := by decide
  edges a := by simp [KernelState.initial]
  revocable a edge := by simp [KernelState.initial] at edge
  acyclic := ⟨fun _ => 0, fun a b edge => by cases edge⟩

theorem Forest.notRoot {a parent : AgentId} (forest : Forest bg s)
    (edge : s.agentParent.get a = some parent) : a ≠ AgentId.root :=
  ((forest.edges a).mp (by rw [edge]; exact Option.some_ne_none parent)).2

theorem Forest.keep (before : Forest bg s) (step : TreeStep bg c s s') : Forest bg s' := by
  cases step with
  | still active parent caps =>
    exact ⟨active ▸ before.rooted, by rw [active, parent]; exact before.edges,
      parent ▸ before.revocable, parent ▸ before.acyclic⟩
  | endow parent child cap edge held result =>
    subst result
    exact ⟨before.rooted, before.edges, before.revocable, before.acyclic⟩
  | enroll grantor grantee _ active fresh notRoot childless result =>
    subst result
    have other : grantor ≠ grantee := fun same => fresh (same ▸ active)
    have below : grantee ≠ AgentId.root := fun same => fresh (same ▸ before.rooted)
    obtain ⟨rank, ranked⟩ := before.acyclic
    refine ⟨VecSet.mem_insert.mpr (.inl before.rooted), fun a => ?_, fun a edge => ?_, _,
      ranked.graft childless other (enroll_edges childless)⟩
    · rw [enroll_edges childless, enroll_agentActive, VecSet.mem_insert]
      by_cases self : a = grantee
      · simp [self, below]
      · simp [self, before.edges]
    · rw [enroll_edges childless] at edge
      by_cases self : a = grantee
      · rwa [self]
      · exact before.revocable a (by rwa [if_neg self] at edge)
  | clear a parent edge result =>
    subst result
    have kept : ∀ b above, (clearAgent s a).agentParent.get b = some above →
        s.agentParent.get b = some above := by
      intro b above edge
      rw [clearAgent_parent] at edge
      split at edge
      · cases edge
      · exact edge
    obtain ⟨rank, ranked⟩ := before.acyclic
    refine ⟨VecSet.mem_remove.mpr ⟨before.rooted, (before.notRoot edge).symm⟩, fun b => ?_,
      fun b edge => ?_, rank, ranked.mono kept⟩
    · rw [clearAgent_parent, clearAgent_agentActive, VecSet.mem_remove]
      by_cases self : b = a
      · simp [self]
      · simp [self, before.edges]
    · obtain ⟨above, link⟩ := Option.ne_none_iff_exists'.mp edge
      exact before.revocable b (by rw [kept b above link]; exact Option.some_ne_none above)

theorem reachable_forest (reach : (kernel bg).Reachable s) : Forest bg s := by
  apply reach.invariant (Forest.initial bg)
  intro s c s' r before accepted
  exact before.keep (tree_step accepted)

/-- Following edges up from anywhere stops in fewer steps than there are active agents, where no edge
    leads on: at the root or at an inactive agent. -/
theorem Forest.climb_stops (forest : Forest bg s) (a : AgentId) :
    ∃ n < s.agentActive.len, ∃ last, climb s.agentParent.get n a = some last ∧
      s.agentParent.get last = none ∧ (last = AgentId.root ∨ last ∉ s.agentActive) := by
  have support : ∀ c p, s.agentParent.get c = some p →
      c ∈ s.agentActive.items.toFinset.erase AgentId.root := by
    intro c p edge
    have active := ((forest.edges c).mp (by rw [edge]; exact Option.some_ne_none p)).1
    exact Finset.mem_erase.mpr ⟨forest.notRoot edge, List.mem_toFinset.mpr active⟩
  obtain ⟨rank, ranked⟩ := forest.acyclic
  obtain ⟨n, few, last, climbed, stops⟩ := ranked.climb_stops support a
  have smaller : (s.agentActive.items.toFinset.erase AgentId.root).card < s.agentActive.len :=
    (Finset.card_erase_lt_of_mem (List.mem_toFinset.mpr forest.rooted)).trans_le
      (List.toFinset_card_le _)
  refine ⟨n, few.trans_lt smaller, last, climbed, stops, ?_⟩
  by_contra neither
  rw [not_or, not_not] at neither
  exact (forest.edges last).mpr ⟨neither.2, neither.1⟩ stops

/-- The delegation graph is a forest over the active agents, with the operator root on top. -/
theorem delegation_forest (root : bg.rootAgent = AgentId.root) (reach : (kernel bg).Reachable s) :
    (s.agentParent.keys.Nodup ∧
      ∀ a, a ∈ s.agentParent.keys ↔ a ∈ s.agentActive ∧ a ≠ AgentId.root) ∧
    (∀ a, ¬ Ancestor s.agentParent.get a a) ∧
    (∀ a ∈ s.agentActive, ∃ n < s.agentActive.len, ∃ last, climb s.agentParent.get n a = some last ∧
      s.agentParent.get last = none ∧ (last = AgentId.root ∨ last ∉ s.agentActive)) ∧
    AgentId.root ∈ s.agentActive ∧ s.agentParent.get AgentId.root = none ∧
    (∀ i j, s.pending.get i = some j → j.agent ≠ AgentId.root) ∧
    ∀ i sc, s.challenges.get i = some sc → sc.agent ≠ AgentId.root := by
  have forest := reachable_forest reach
  have grounded := open_grounded reach
  rw [root] at grounded
  refine ⟨⟨s.agentParent.unique, fun a => ?_⟩, fun a => ?_, fun a _ => forest.climb_stops a,
    forest.rooted, ?_, fun i j present => ?_, fun i sc present => ?_⟩
  · rw [← forest.edges a, ne_eq, VecMap.get_eq_none, not_not]
    rfl
  · obtain ⟨rank, ranked⟩ := forest.acyclic
    exact ranked.irrefl a
  · by_contra parented
    exact ((forest.edges _).mp parented).2 rfl
  · exact (grounded _ _ _ _ (.pending present)).notRoot
  · exact (grounded _ _ _ _ (.challenge present)).notRoot

/-- The worker's line of parents reaches the root in one step, with two agents active. -/
theorem delegation_forest_sample :
    (∀ a ∈ sampleState.agentActive, ∃ n < sampleState.agentActive.len, ∃ last,
      climb sampleState.agentParent.get n a = some last ∧ sampleState.agentParent.get last = none ∧
      (last = AgentId.root ∨ last ∉ sampleState.agentActive)) ∧
    climb sampleState.agentParent.get 1 ⟨"worker"⟩ = some AgentId.root := by
  obtain ⟨-, -, stops, -⟩ := delegation_forest rfl sampleState_reachable
  exact ⟨stops, by decide⟩

end Argus
