import Einsof.Kernel.Forest

namespace Argus

open Lineage (Ancestor Felled Spent)

attribute [ext] KernelState

/-- Clearing keeps a subsequence of every vector, so the order of clearing leaves no trace. -/
theorem clearAgent_comm (s : KernelState) (a b : AgentId) :
    clearAgent (clearAgent s a) b = clearAgent (clearAgent s b) a := by
  apply KernelState.ext
  · exact VecSet.remove_comm _ _ _
  · exact VecMap.remove_comm _ _ _
  · exact VecMap.remove_comm _ _ _
  · exact VecMap.remove_comm _ _ _
  · exact VecMap.remove_comm _ _ _
  · exact VecMap.retain_comm _
  · exact VecMap.retain_comm _
  · rfl
  · rfl
  · rfl
  · exact VecMap.retain_comm _
  · rfl

/-- Clear a list of agents, the last one of the list first. -/
def clearAgents (s : KernelState) (gone : List AgentId) : KernelState :=
  gone.foldr (fun a cleared => clearAgent cleared a) s

theorem clearAgents_cons (s : KernelState) (a : AgentId) (gone : List AgentId) :
    clearAgents s (a :: gone) = clearAgent (clearAgents s gone) a := rfl

theorem clearAgents_perm {s : KernelState} {gone gone' : List AgentId} (perm : gone.Perm gone') :
    clearAgents s gone = clearAgents s gone' :=
  perm.foldr_eq' (fun _ _ _ _ cleared => clearAgent_comm cleared _ _) s

section Cleared

variable {s : KernelState} {gone : List AgentId} {a : AgentId}

theorem clearAgents_active : a ∈ (clearAgents s gone).agentActive ↔ a ∈ s.agentActive ∧ a ∉ gone := by
  induction gone with
  | nil => simp [clearAgents]
  | cons b gone ih =>
    rw [clearAgents_cons, clearAgent_agentActive, VecSet.mem_remove, ih, List.mem_cons, not_or, and_assoc,
      and_comm (a := a ∉ gone)]

theorem clearAgents_parent : (clearAgents s gone).agentParent.get a =
    if a ∈ gone then none else s.agentParent.get a := by
  induction gone with
  | nil => simp [clearAgents]
  | cons b gone ih =>
    rw [clearAgents_cons, clearAgent_parent, ih]
    by_cases self : a = b <;> simp [self]

theorem clearAgents_compartment : (clearAgents s gone).compartment a =
    if a ∈ gone then Compartment.empty else s.compartment a := by
  induction gone with
  | nil => simp [clearAgents]
  | cons b gone ih =>
    rw [clearAgents_cons]
    by_cases self : a = b
    · subst self
      rw [clearAgent_compartment_self, if_pos List.mem_cons_self]
    · rw [clearAgent_compartment self, ih]
      simp [self]

theorem clearAgents_frame : (clearAgents s gone).toolRegistered = s.toolRegistered ∧
    (clearAgents s gone).consumedIds = s.consumedIds ∧
    (clearAgents s gone).consumedAttestations = s.consumedAttestations ∧
    (clearAgents s gone).consumedCrossings = s.consumedCrossings := by
  induction gone with
  | nil => exact ⟨rfl, rfl, rfl, rfl⟩
  | cons b gone ih => exact ih

end Cleared

/-- Accepted `cascadeRevoke` steps from a state, with the agents they cleared, latest first. -/
inductive Cascade (bg : BackgroundTheory) (s₀ : KernelState) : List AgentId → KernelState → Prop
  | start : Cascade bg s₀ [] s₀
  | step {gone : List AgentId} {u u' : KernelState} {child parent : AgentId} {r : KernelAction}
      (before : Cascade bg s₀ gone u)
      (accepted : (kernel bg).step u (.cascadeRevoke child parent) = .ok (u', r)) :
      Cascade bg s₀ (child :: gone) u'

/-- No `cascadeRevoke` is accepted any more. -/
def Drained (bg : BackgroundTheory) (u : KernelState) : Prop :=
  ∀ child parent u' r, (kernel bg).step u (.cascadeRevoke child parent) ≠ .ok (u', r)

/-- Every active agent's line of parents leads to `root`. -/
def Connected (s : KernelState) : Prop :=
  ∀ a ∈ s.agentActive, a = AgentId.root ∨ Ancestor s.agentParent.get a AgentId.root

variable {bg : BackgroundTheory} {s u : KernelState} {gone : List AgentId} {target : AgentId}

theorem Connected.parent_active (connected : Connected s) (forest : Forest bg s) {child parent : AgentId}
    (edge : s.agentParent.get child = some parent) : parent ∈ s.agentActive := by
  have active := ((forest.edges child).mp (by rw [edge]; exact Option.some_ne_none parent)).1
  rcases connected child active with same | above
  · exact absurd same (forest.notRoot edge)
  · rcases Relation.TransGen.head'_iff.mp above with ⟨first, link, rest⟩
    have same : parent = first := Option.some.inj (edge.symm.trans link)
    subst same
    rcases Relation.ReflTransGen.cases_head rest with same | ⟨next, link', -⟩
    · exact same ▸ forest.rooted
    · have parented : s.agentParent.get parent = some next := link'
      exact ((forest.edges parent).mp (by rw [parented]; exact Option.some_ne_none next)).1

/-- Among cleared agents the next candidates are exactly the standing children of a cleared one. -/
theorem cascadeRevoke_iff (forest : Forest bg s) (connected : Connected s) {child parent : AgentId}
    {u' : KernelState} {r : KernelAction} :
    (kernel bg).step (clearAgents s gone) (.cascadeRevoke child parent) = .ok (u', r) ↔
      s.agentParent.get child = some parent ∧ parent ∈ gone ∧ child ∉ gone ∧
      u' = clearAgents s (child :: gone) ∧ r = .cascadeRevoke child parent := by
  refine cascadeRevoke_ok.trans ?_
  rw [clearAgents_parent, clearAgents_active, clearAgents_active]
  constructor
  · intro facts
    rcases facts with ⟨edge, orphan, ⟨-, standing⟩, -, result, action⟩
    rw [if_neg standing] at edge
    have was : parent ∈ s.agentActive := connected.parent_active forest edge
    have fallen : parent ∈ gone := by
      by_contra upright
      exact orphan ⟨was, upright⟩
    exact ⟨edge, fallen, standing, result, action⟩
  · intro facts
    rcases facts with ⟨edge, fallen, standing, result, action⟩
    have parented : s.agentParent.get child ≠ none := by
      rw [edge]
      exact Option.some_ne_none parent
    refine ⟨by rwa [if_neg standing], fun active => active.2 fallen,
      ⟨((forest.edges child).mp parented).1, standing⟩, forest.revocable child parented, result, action⟩

/-- A cascade after a revocation fells the target's subtree, in whatever order it runs. -/
theorem Cascade.felled (forest : Forest bg s) (connected : Connected s)
    (cascade : Cascade bg (clearAgent s target) gone u) :
    Felled s.agentParent.get target (gone ++ [target]) ∧ u = clearAgents s (gone ++ [target]) := by
  induction cascade with
  | start => exact ⟨.target, rfl⟩
  | step before accepted ih =>
    rcases ih with ⟨felled, rfl⟩
    obtain ⟨edge, orphan, standing, rfl, -⟩ := (cascadeRevoke_iff forest connected).mp accepted
    exact ⟨felled.next edge orphan standing, rfl⟩

theorem drained_iff_spent (forest : Forest bg s) (connected : Connected s) :
    Drained bg (clearAgents s gone) ↔ Spent s.agentParent.get gone := by
  constructor
  · intro drained child above edge orphan
    by_contra standing
    exact drained child above _ _
      ((cascadeRevoke_iff forest connected).mpr ⟨edge, orphan, standing, rfl, rfl⟩)
  · intro spent child above u' r accepted
    obtain ⟨edge, orphan, standing, -, -⟩ := (cascadeRevoke_iff forest connected).mp accepted
    exact standing (spent child above edge orphan)

theorem Cascade.length_lt (forest : Forest bg s) (connected : Connected s)
    (active : target ∈ s.agentActive) (cascade : Cascade bg (clearAgent s target) gone u) :
    gone.length < s.agentActive.len := by
  obtain ⟨felled, -⟩ := cascade.felled forest connected
  have inside : gone ++ [target] ⊆ s.agentActive.items := by
    intro d member
    rcases felled.mem_below member with rfl | below
    · exact active
    · rcases Relation.TransGen.head'_iff.mp below with ⟨above, edge, -⟩
      have parented : s.agentParent.get d = some above := edge
      exact ((forest.edges d).mp (by rw [parented]; exact Option.some_ne_none above)).1
  have bound := (felled.nodup.subperm inside).length_le
  rw [List.length_append, List.length_singleton] at bound
  exact bound

/-- Every cascade can be carried on until it is drained. -/
theorem Cascade.complete {gone : List AgentId} {u : KernelState} (forest : Forest bg s)
    (connected : Connected s) (active : target ∈ s.agentActive)
    (cascade : Cascade bg (clearAgent s target) gone u) :
    ∃ gone' u', Cascade bg (clearAgent s target) gone' u' ∧ Drained bg u' := by
  by_cases drained : Drained bg u
  · exact ⟨gone, u, cascade, drained⟩
  · simp only [Drained, not_forall, not_not] at drained
    obtain ⟨child, parent, u', r, accepted⟩ := drained
    have bound := cascade.length_lt forest connected active
    exact (cascade.step accepted).complete forest connected active
termination_by s.agentActive.len - gone.length
decreasing_by
  simp only [List.length_cons]
  omega

/-- Revoking an agent and draining the cascade removes exactly its subtree, in any order. -/
theorem cascade_removes_subtree (reach : (kernel bg).Reachable s) (connected : Connected s)
    {parent : AgentId} {s₀ : KernelState} {r : KernelAction}
    (accepted : (kernel bg).step s (.revoke parent target) = .ok (s₀, r)) :
    (∀ gone u, Cascade bg s₀ gone u → gone.length < s.agentActive.len) ∧
    (∀ gone u, Cascade bg s₀ gone u →
      (∃ d ∈ u.agentActive, Ancestor s.agentParent.get d target) →
      ∃ child above u' r, (kernel bg).step u (.cascadeRevoke child above) = .ok (u', r)) ∧
    ∃ final, (∃ gone, Cascade bg s₀ gone final ∧ Drained bg final) ∧
      (∀ gone u, Cascade bg s₀ gone u → Drained bg u → u = final) ∧
      (∀ d, d = target ∨ Ancestor s.agentParent.get d target →
        final.compartment d = Compartment.empty) ∧
      (∀ b, b ≠ target → ¬ Ancestor s.agentParent.get b target →
        final.compartment b = s.compartment b) ∧
      final.toolRegistered = s.toolRegistered ∧ final.consumedIds = s.consumedIds ∧
      final.consumedAttestations = s.consumedAttestations ∧
      final.consumedCrossings = s.consumedCrossings := by
  have forest := reachable_forest reach
  obtain ⟨-, -, active, -, rfl, -⟩ := revoke_ok.mp accepted
  refine ⟨fun gone u cascade => cascade.length_lt forest connected active, ?_, ?_⟩
  · intro gone u cascade live
    obtain ⟨d, standing, below⟩ := live
    obtain ⟨felled, rfl⟩ := cascade.felled forest connected
    obtain ⟨child, above, edge, orphan, upright⟩ :=
      felled.progress below (clearAgents_active.mp standing).2
    exact ⟨child, above, _, _,
      (cascadeRevoke_iff forest connected).mpr ⟨edge, orphan, upright, rfl, rfl⟩⟩
  · obtain ⟨last, final, cascade, drained⟩ := Cascade.start.complete forest connected active
    obtain ⟨felled, same⟩ := cascade.felled forest connected
    have spent := (drained_iff_spent forest connected).mp (same ▸ drained)
    refine ⟨final, ⟨last, cascade, drained⟩, ?_, ?_, ?_, same ▸ clearAgents_frame⟩
    · intro gone u other drained'
      obtain ⟨felled', rfl⟩ := other.felled forest connected
      have spent' := (drained_iff_spent forest connected).mp drained'
      rw [same]
      exact clearAgents_perm (felled'.perm felled spent' spent)
    · intro d below
      rw [same, clearAgents_compartment, if_pos ((felled.exact spent).mpr below)]
    · intro b other apart
      rw [same, clearAgents_compartment, if_neg]
      intro member
      exact ((felled.exact spent).mp member).elim other apart

/-- A lead below `root` with a worker of its own. -/
def teamCommands : List KernelCommand :=
  [.delegate AgentId.root ⟨"lead"⟩, .delegate ⟨"lead"⟩ ⟨"worker"⟩]

def teamState : KernelState := ((kernel sampleBackground).drive KernelState.initial teamCommands).1

theorem teamState_connected : Connected teamState := by
  have lead : Lineage.Edge teamState.agentParent.get ⟨"lead"⟩ AgentId.root := by
    unfold Lineage.Edge
    decide
  have worker : Lineage.Edge teamState.agentParent.get ⟨"worker"⟩ ⟨"lead"⟩ := by
    unfold Lineage.Edge
    decide
  have agents : teamState.agentActive.items = [AgentId.root, ⟨"lead"⟩, ⟨"worker"⟩] := by decide
  intro a active
  rw [VecSet.mem_def, agents] at active
  simp only [List.mem_cons, List.not_mem_nil, or_false] at active
  rcases active with rfl | rfl | rfl
  · exact .inl rfl
  · exact .inr (.single lead)
  · exact .inr (.head worker (.single lead))

/-- Revoking the lead leaves one cascade to run, and it ends with the worker gone as well. -/
theorem cascade_removes_subtree_sample :
    ∃ final, (∀ gone u, Cascade sampleBackground (clearAgent teamState ⟨"lead"⟩) gone u →
        Drained sampleBackground u → u = final) ∧
      final.compartment ⟨"worker"⟩ = Compartment.empty ∧
      final.compartment AgentId.root = teamState.compartment AgentId.root := by
  have reach : (kernel sampleBackground).Reachable teamState :=
    Machine.drive_reachable (kernel sampleBackground) teamCommands
  have accepted : (kernel sampleBackground).step teamState (.revoke AgentId.root ⟨"lead"⟩) =
      .ok (clearAgent teamState ⟨"lead"⟩, .revoke AgentId.root ⟨"lead"⟩) := by
    decide
  have worker : Lineage.Edge teamState.agentParent.get ⟨"worker"⟩ ⟨"lead"⟩ := by
    unfold Lineage.Edge
    decide
  obtain ⟨-, -, final, -, unique, cleared, spared, -⟩ :=
    cascade_removes_subtree reach teamState_connected accepted
  refine ⟨final, unique, cleared _ (.inr (.single worker)), spared _ (by decide) ?_⟩
  intro below
  rcases Relation.TransGen.head'_iff.mp below with ⟨above, edge, -⟩
  have none : teamState.agentParent.get AgentId.root = none := by decide
  exact absurd (none.symm.trans edge) (by simp)

end Argus
