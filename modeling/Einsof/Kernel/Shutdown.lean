import Einsof.Base.Winding
import Einsof.Kernel.Authority
import Einsof.Kernel.Cascade
import Einsof.Kernel.Order

namespace Argus

theorem VecSet.len_remove {T : Type*} [DecidableEq T] {s : VecSet T} {x : T} (member : x ∈ s) :
    (s.remove x).len + 1 = s.len := by
  have erased : (s.remove x).items = s.items.erase x := by
    rw [VecSet.remove_items, s.unique.erase_eq_filter]
    apply List.filter_congr
    intro y _
    by_cases same : y = x <;> simp [same]
  have some : 0 < s.items.length := List.length_pos_of_mem member
  rw [VecSet.len, VecSet.len, erased, List.length_erase_of_mem member]
  omega

/-- The commands that take an agent or a tool away. -/
def KernelCommand.dismantles : KernelCommand → Bool
  | .unregisterTool _ | .revoke _ _ | .cascadeRevoke _ _ => true
  | _ => false

/-- The agents but `root`, and the tools. -/
def KernelState.standing (s : KernelState) : Nat := s.agentActive.len - 1 + s.toolRegistered.len

/-- What is left of `s` after clearing some agents but `root`, and unregistering some tools. -/
def Ruin (bg : BackgroundTheory) (s u : KernelState) : Prop :=
  (kernel bg).Reachable u ∧ ∃ gone, gone.Nodup ∧ (∀ a ∈ gone, a ∈ s.agentActive ∧ a ≠ AgentId.root) ∧
    u = { clearAgents s gone with toolRegistered := u.toolRegistered }

variable {s u u' : KernelState} {bg : BackgroundTheory} {c : KernelCommand} {r : KernelAction}
  {a parent : AgentId}

theorem Forest.standing_pos (forest : Forest bg u) : 0 < u.agentActive.len :=
  List.length_pos_of_mem forest.rooted

theorem Ruin.clear (ruin : Ruin bg s u) (reach : (kernel bg).Reachable (clearAgent u a))
    (edge : u.agentParent.get a = some parent) :
    Ruin bg s (clearAgent u a) ∧ (clearAgent u a).standing + 1 = u.standing := by
  obtain ⟨reached, gone, distinct, below, same⟩ := ruin
  have forest := reachable_forest reached
  have active : a ∈ u.agentActive := ((forest.edges a).mp (by rw [edge]; exact Option.some_ne_none _)).1
  have member : a ∈ s.agentActive ∧ a ∉ gone := by
    rw [same] at active
    exact clearAgents_active.mp active
  refine ⟨⟨reach, a :: gone, List.nodup_cons.mpr ⟨member.2, distinct⟩, ?_, ?_⟩, ?_⟩
  · intro b listed
    rcases List.mem_cons.mp listed with rfl | earlier
    · exact ⟨member.1, forest.notRoot edge⟩
    · exact below b earlier
  · generalize u.toolRegistered = tools at same
    subst same
    rfl
  · have fewer := VecSet.len_remove active
    have rooted := (reachable_forest reach).standing_pos
    rw [clearAgent_agentActive] at rooted
    rw [KernelState.standing, KernelState.standing, clearAgent_agentActive, clearAgent_toolRegistered]
    omega

theorem ruin_keep (ruin : Ruin bg s u) (kind : c.dismantles = true)
    (accepted : (kernel bg).step u c = .ok (u', r)) : Ruin bg s u' ∧ u'.standing + 1 = u.standing := by
  have reach := ruin.1.step accepted
  cases c with
  | unregisterTool tool =>
    obtain ⟨known, -, -, rfl, -⟩ := unregisterTool_ok.mp accepted
    obtain ⟨reached, gone, distinct, below, same⟩ := ruin
    refine ⟨⟨reach, gone, distinct, below, ?_⟩, ?_⟩
    · exact congrArg (fun v => { v with toolRegistered := u.toolRegistered.remove tool }) same
    · have fewer := VecSet.len_remove known
      simp only [KernelState.standing]
      omega
  | revoke parent target =>
    obtain ⟨edge, -, -, -, rfl, -⟩ := revoke_ok.mp accepted
    exact ruin.clear reach edge
  | cascadeRevoke child parent =>
    obtain ⟨edge, -, -, -, rfl, -⟩ := cascadeRevoke_ok.mp accepted
    exact ruin.clear reach edge
  | _ => cases kind

/-- An active agent but `root` is revoked under an active parent and cascade-revoked otherwise. -/
theorem Forest.removable (forest : Forest bg u) (active : a ∈ u.agentActive) (below : a ≠ AgentId.root) :
    ∃ c u' r, c.dismantles = true ∧ (kernel bg).step u c = .ok (u', r) := by
  have parented := (forest.edges a).mpr ⟨active, below⟩
  obtain ⟨parent, edge⟩ := Option.ne_none_iff_exists'.mp parented
  have spared := forest.revocable a parented
  by_cases live : parent ∈ u.agentActive
  · exact ⟨.revoke parent a, _, _, rfl, revoke_ok.mpr ⟨edge, live, active, spared, rfl, rfl⟩⟩
  · exact ⟨.cascadeRevoke a parent, _, _, rfl, cascadeRevoke_ok.mpr ⟨edge, live, active, spared, rfl, rfl⟩⟩

/-- With `root` alone nothing is in flight. -/
theorem alone_idle (root : bg.rootAgent = AgentId.root) (reach : (kernel bg).Reachable u)
    (alone : ∀ a ∈ u.agentActive, a = AgentId.root) :
    (∀ i, u.pending.get i = none) ∧ ∀ i, u.challenges.get i = none := by
  have grounded := open_grounded reach
  constructor
  · intro i
    cases present : u.pending.get i with
    | none => rfl
    | some j =>
      have owner := grounded _ _ _ _ (.pending present)
      exact absurd ((alone _ owner.active).trans root.symm) owner.notRoot
  · intro i
    cases present : u.challenges.get i with
    | none => rfl
    | some sc =>
      have owner := grounded _ _ _ _ (.challenge present)
      exact absurd ((alone _ owner.active).trans root.symm) owner.notRoot

theorem winds (root : bg.rootAgent = AgentId.root) :
    (kernel bg).Winds (·.dismantles = true) (Ruin bg s) KernelState.standing where
  keep u c u' r ruin kind accepted := ruin_keep ruin kind accepted
  next u ruin left := by
    have forest := reachable_forest ruin.1
    by_cases alone : ∀ a ∈ u.agentActive, a = AgentId.root
    · obtain ⟨idle, idle'⟩ := alone_idle root ruin.1 alone
      have single : u.agentActive.len ≤ 1 := by
        have inside : u.agentActive.items ⊆ [AgentId.root] := fun a member => by simp [alone a member]
        exact (u.agentActive.unique.subperm inside).length_le
      have tools : u.toolRegistered.items ≠ [] := by
        intro none
        simp only [KernelState.standing, VecSet.len, none, List.length_nil] at left single
        omega
      obtain ⟨tool, known⟩ := List.exists_mem_of_ne_nil _ tools
      refine ⟨.unregisterTool tool, _, _, rfl, unregisterTool_ok.mpr ⟨known, ?_, ?_, rfl, rfl⟩⟩
      · intro i j present
        cases (idle i).symm.trans present
      · intro i sc present
        cases (idle' i).symm.trans present
    · simp only [not_forall] at alone
      obtain ⟨a, active, below⟩ := alone
      exact forest.removable active below

section Restart

def rootOnly {V : Type*} (m : VecMap AgentId V) : VecMap AgentId V :=
  m.forEntries VecMap.new fun kept a v => if a = AgentId.root then kept.insert a v else kept

/-- The initial state, but for what `root` holds and for the ids that are spent. -/
def KernelState.restarted (s : KernelState) : KernelState :=
  { KernelState.initial with
    taintLevels := rootOnly s.taintLevels
    integLevels := rootOnly s.integLevels
    consumedIds := s.consumedIds
    consumedAttestations := s.consumedAttestations
    consumedCrossings := s.consumedCrossings
    crossingGrants := s.crossingGrants.forEntries VecMap.new fun kept key g =>
      if key.agent = AgentId.root then kept.insert key g else kept }

theorem rootOnly_get {V : Type*} (m : VecMap AgentId V) (a : AgentId) :
    (rootOnly m).get a = if a = AgentId.root then m.get a else none := by
  have rebuilt := VecMap.get_rebuild m (fun a v => if a = AgentId.root then some v else none)
    (fun kept a v => if a = AgentId.root then kept.insert a v else kept)
    (by intro kept k v; by_cases root : k = AgentId.root <;> simp [root]) a
  rw [rootOnly, rebuilt]
  by_cases root : a = AgentId.root <;> cases m.get a <;> simp [root]

theorem restarted_crossingGrants (key : CrossingKey) : s.restarted.crossingGrants.get key =
    if key.agent = AgentId.root then s.crossingGrants.get key else none := by
  have rebuilt := VecMap.get_rebuild s.crossingGrants
    (fun key g => if key.agent = AgentId.root then some g else none)
    (fun kept key g => if key.agent = AgentId.root then kept.insert key g else kept)
    (by intro kept k g; by_cases root : k.agent = AgentId.root <;> simp [root]) key
  rw [KernelState.restarted, rebuilt]
  by_cases root : key.agent = AgentId.root <;> cases s.crossingGrants.get key <;> simp [root]

/-- Only the compartment of `root` is left, and it is the one that `s` had. -/
theorem Ruin.compartment (ruin : Ruin bg s u) (alone : ∀ a ∈ u.agentActive, a = AgentId.root)
    (a : AgentId) : u.compartment a =
      if a = AgentId.root then s.compartment a else Compartment.empty := by
  by_cases root : a = AgentId.root
  · rw [if_pos root, root]
    obtain ⟨-, gone, -, below, same⟩ := ruin
    have kept : AgentId.root ∉ gone := fun listed => (below _ listed).2 rfl
    have left := @clearAgents_compartment s gone AgentId.root
    rw [if_neg kept] at left
    rw [same]
    exact left
  · rw [if_neg root]
    exact reachable_noResidue ruin.1 a fun active => root (alone a active)

theorem Ruin.restarted (root : bg.rootAgent = AgentId.root) (ruin : Ruin bg s u)
    (alone : ∀ a ∈ u.agentActive, a = AgentId.root) (bare : ∀ tool, tool ∉ u.toolRegistered) :
    u.Same s.restarted := by
  have forest := reachable_forest ruin.1
  have caps := (reachable_attenuated ruin.1).root
  obtain ⟨idle, idle'⟩ := alone_idle root ruin.1 alone
  have left := ruin.compartment alone
  obtain ⟨-, gone, -, -, same⟩ := ruin
  obtain ⟨-, ids, attestations, crossings⟩ := @clearAgents_frame s gone
  have powerless : ∀ a, a ≠ AgentId.root → u.agentCap.get a = none := by
    intro a other
    simpa [other, KernelState.compartment, Compartment.empty] using congrArg Compartment.caps (left a)
  have holder : ∀ a cap, u.HasCap a cap ↔ a = AgentId.root := by
    intro a cap
    refine ⟨fun held => ?_, fun root => root ▸ caps cap⟩
    by_contra other
    obtain ⟨members, found, -⟩ := VecMap.mem_getSetOrEmpty.mp held
    cases (powerless a other).symm.trans found
  have taints : ∀ a, u.taintLevels.get a = (rootOnly s.taintLevels).get a := by
    intro a
    rw [rootOnly_get]
    refine (congrArg Compartment.taints (left a)).trans ?_
    rw [apply_ite Compartment.taints]
    rfl
  have integs : ∀ a, u.integLevels.get a = (rootOnly s.integLevels).get a := by
    intro a
    rw [rootOnly_get]
    refine (congrArg Compartment.integs (left a)).trans ?_
    rw [apply_ite Compartment.integs]
    rfl
  have grants : ∀ key, u.crossingGrants.get key = s.restarted.crossingGrants.get key := by
    intro key
    rw [restarted_crossingGrants]
    have held := congrFun (congrArg Compartment.grants (left key.agent)) key.assignment
    rw [apply_ite Compartment.grants, ite_apply] at held
    exact held
  exact {
    agentActive := fun a => by
      refine ⟨fun active => VecSet.mem_insert.mpr (.inr (alone a active)), fun member => ?_⟩
      rcases VecSet.mem_insert.mp member with old | rfl
      · exact absurd old VecSet.mem_new
      · exact forest.rooted
    agentParent := fun a => by
      have orphan : u.agentParent.get a = none := by
        by_contra parented
        have child := (forest.edges a).mp parented
        exact child.2 (alone a child.1)
      rw [orphan]
      exact .none
    agentCap := by
      apply VecMap.same_of_members
      · intro a
        by_cases root : a = AgentId.root
        · obtain ⟨members, found, -⟩ := VecMap.mem_getSetOrEmpty.mp (caps .ipc)
          have initial : KernelState.initial.agentCap.containsKey AgentId.root = true := by decide
          rw [root, VecMap.containsKey_eq, found]
          exact initial.symm
        · rw [VecMap.containsKey_eq, powerless a root]
          simp [KernelState.restarted, KernelState.initial, root]
      · intro a cap
        exact (holder a cap).trans (KernelState.initial_hasCap a cap).symm
    taintLevels := fun a => by
      rw [taints]
      exact VecMap.Same.refl .refl _ a
    integLevels := fun a => by
      rw [integs]
      exact VecMap.Same.refl .refl _ a
    pending := fun i => by
      rw [idle]
      exact .none
    challenges := fun i => by
      rw [idle']
      exact .none
    consumedIds := by
      rw [same]
      exact ids ▸ .refl _
    consumedAttestations := by
      rw [same]
      exact attestations ▸ .refl _
    consumedCrossings := by
      rw [same]
      exact crossings ▸ .refl _
    crossingGrants := fun key => by
      rw [grants]
      exact VecMap.Same.refl (fun _ => rfl) _ key
    toolRegistered := fun tool => ⟨fun known => absurd known (bare tool), fun known => absurd known VecSet.mem_new⟩ }

end Restart

theorem Forest.alone (forest : Forest bg u) (none : u.standing = 0) :
    (∀ a ∈ u.agentActive, a = AgentId.root) ∧ u.toolRegistered = VecSet.new := by
  simp only [KernelState.standing, VecSet.len, Nat.add_eq_zero_iff] at none
  refine ⟨fun a active => ?_, VecSet.ext_items (List.length_eq_zero_iff.mp none.2)⟩
  by_contra below
  have pair : [a, AgentId.root] ⊆ u.agentActive.items := by
    intro b member
    simp only [List.mem_cons, List.not_mem_nil, or_false] at member
    rcases member with rfl | rfl
    · exact active
    · exact forest.rooted
  have distinct : [a, AgentId.root].Nodup := by simp [below]
  have two := (distinct.subperm pair).length_le
  simp only [List.length_cons, List.length_nil] at two
  omega

theorem Ruin.unique {v : KernelState} (ruin : Ruin bg s u) (ruin' : Ruin bg s v) (none : u.standing = 0)
    (none' : v.standing = 0) : u = v := by
  obtain ⟨alone, bare⟩ := (reachable_forest ruin.1).alone none
  obtain ⟨alone', bare'⟩ := (reachable_forest ruin'.1).alone none'
  obtain ⟨-, gone, distinct, below, same⟩ := ruin
  obtain ⟨-, gone', distinct', below', same'⟩ := ruin'
  have all : ∀ {w : KernelState} {gone : List AgentId}, (∀ a ∈ w.agentActive, a = AgentId.root) →
      (∀ a ∈ gone, a ∈ s.agentActive ∧ a ≠ AgentId.root) →
      w = { clearAgents s gone with toolRegistered := w.toolRegistered } →
      ∀ a, a ∈ gone ↔ a ∈ s.agentActive ∧ a ≠ AgentId.root := by
    intro w gone alone below same a
    refine ⟨below a, fun other => ?_⟩
    by_contra spared
    have active : a ∈ w.agentActive := by
      rw [same]
      exact clearAgents_active.mpr ⟨other.1, spared⟩
    exact other.2 (alone a active)
  have perm : gone.Perm gone' := by
    rw [List.perm_ext_iff_of_nodup distinct distinct']
    intro a
    rw [all alone below same, all alone' below' same']
  rw [same, same', bare, bare', clearAgents_perm perm]

/-- Revocations, cascade revocations and unregistrations wind a kernel down, in whatever order they
    are accepted: one is accepted until there have been as many as agents but `root` and tools, and
    then the state is the one to start again from. -/
theorem shutdown (root : bg.rootAgent = AgentId.root) (reach : (kernel bg).Reachable s) :
    (∀ n u, (kernel bg).Winding (·.dismantles = true) s n u →
      n + u.standing = s.standing ∧ ((kernel bg).Wound (·.dismantles = true) u ↔ n = s.standing)) ∧
    ∃ final : KernelState, (kernel bg).Winding (·.dismantles = true) s s.standing final ∧
      final.Same s.restarted ∧
      ∀ n u, (kernel bg).Winding (·.dismantles = true) s n u →
        (kernel bg).Wound (·.dismantles = true) u → u = final := by
  have initial : Ruin bg s s := ⟨reach, [], List.nodup_nil, by simp, rfl⟩
  have winds := winds (s := s) root
  obtain ⟨final, winding⟩ := Machine.Winding.complete winds initial .start
  obtain ⟨ruin, count⟩ := winding.keep winds initial
  obtain ⟨alone, bare⟩ := (reachable_forest ruin.1).alone (by omega)
  refine ⟨fun n u path => ⟨?_, path.wound_iff winds initial⟩, final, winding, ?_, fun n u path wound => ?_⟩
  · rw [Nat.add_comm]
    exact (path.keep winds initial).2
  · exact ruin.restarted root alone fun tool known => VecSet.mem_new (bare ▸ known)
  · obtain ⟨ruin', count'⟩ := path.keep winds initial
    have all := (path.wound_iff winds initial).mp wound
    exact ruin'.unique ruin (by omega) (by omega)

/-- The team of two below `root` is taken down in two steps, and no sooner. -/
theorem shutdown_sample : ∃ final : KernelState, final.Same teamState.restarted ∧
    (kernel sampleBackground).Winding (·.dismantles = true) teamState 2 final := by
  have reach : (kernel sampleBackground).Reachable teamState :=
    Machine.drive_reachable (kernel sampleBackground) teamCommands
  obtain ⟨-, final, winding, same, -⟩ := shutdown rfl reach
  have two : teamState.standing = 2 := by decide
  exact ⟨final, same, two ▸ winding⟩

end Argus
