import Einsof.Native.Order

namespace Argus

theorem perm_of_insertionSort {α : Type} (r : α → α → Prop) [DecidableRel r] {xs ys : List α}
    (sorted : xs.insertionSort r = ys.insertionSort r) : xs.Perm ys := by
  have read := List.perm_insertionSort r ys
  rw [← sorted] at read
  exact (List.perm_insertionSort r xs).symm.trans read

section Members

variable {T : Type} {s t : VecSet T}

theorem sortByTag_iff [CanonicalTag T] [LawfulTag T] : sortByTag s.items = sortByTag t.items ↔ s.Same t := by
  refine ⟨fun sorted => ?_, sortByTag_same⟩
  have perm := perm_of_insertionSort _ sorted
  exact fun x => perm.mem_iff

theorem sortStrings_iff {val : T → String} (injective : Function.Injective val) :
    sortStrings (s.items.map val) = sortStrings (t.items.map val) ↔ s.Same t :=
  ⟨fun sorted => VecSet.same_of_map_perm injective (perm_of_insertionSort _ sorted),
    fun same => sortStrings_same same val⟩

end Members

theorem sortStringMap_iff {K V W U : Type} [DecidableEq K] {R : V → W → Prop} {m : VecMap K V}
    {n : VecMap K W} {key : K → String} (injective : Function.Injective key) {f : V → U} {g : W → U}
    (alike : ∀ v w, f v = g w ↔ R v w) :
    sortStringMap (m.entries.map fun e => (key e.1, f e.2)) =
      sortStringMap (n.entries.map fun e => (key e.1, g e.2)) ↔ m.Same R n := by
  constructor
  · intro sorted
    exact VecMap.same_of_map_perm injective (fun v w => (alike v w).mp) (perm_of_insertionSort _ sorted)
  · intro same
    exact sortStringMap_same same injective fun v w => (alike v w).mpr

theorem agents_injective : Function.Injective AgentId.val := fun _ _ => congrArg AgentId.mk

theorem invocations_injective : Function.Injective InvocationId.val := fun _ _ => congrArg InvocationId.mk

theorem admissionFromKernel_injective : Function.Injective AdmissionN.fromKernel := by
  intro x y alike
  cases x with
  | plain => cases y <;> first | rfl | cases alike
  | bypassed => cases y <;> first | rfl | cases alike
  | inspected attestation =>
    cases y with
    | plain => cases alike
    | bypassed => cases alike
    | inspected attestation' => exact congrArg (Admission.inspected ⟨·⟩) (AdmissionN.inspected.inj alike)

section Values

theorem policyFromKernel_iff {p q : ActionPolicySnapshot} :
    policyFromKernel p = policyFromKernel q ↔ p.Same q := by
  refine ⟨fun alike => ?_, policyFromKernel_same⟩
  obtain ⟨tool, caps, clearance, floor, inspect, conf, integ, egress, digest⟩ :=
    ActionPolicySnapshotN.mk.inj alike
  exact ⟨congrArg ToolId.mk tool, sortByTag_iff.mp caps, clearance, floor, inspect, conf, integ,
    sortByTag_iff.mp egress, congrArg PolicyDigest.mk digest⟩

theorem pendingFromKernel_iff {j k : PendingInvocation} :
    pendingFromKernel j = pendingFromKernel k ↔ j.Same k := by
  refine ⟨fun alike => ?_, pendingFromKernel_same⟩
  obtain ⟨agent, policy, egress, admission, disposition, authorized, quarantined⟩ :=
    PendingInvocationN.mk.inj alike
  exact ⟨agents_injective agent, policyFromKernel_iff.mp policy, sortByTag_iff.mp egress,
    admissionFromKernel_injective admission, disposition, authorized, quarantined⟩

theorem challengeFromKernel_iff {x y : ChallengeScope} :
    challengeFromKernel x = challengeFromKernel y ↔ x.Same y := by
  refine ⟨fun alike => ?_, challengeFromKernel_same⟩
  obtain ⟨challenge, agent, policy, egress, argsHash, authorized⟩ := ChallengeScopeN.mk.inj alike
  exact ⟨congrArg ChallengeId.mk challenge, agents_injective agent, policyFromKernel_iff.mp policy,
    sortByTag_iff.mp egress, congrArg ContentHash.mk argsHash, authorized⟩

end Values

theorem sortGrants_iff {m n : VecMap CrossingKey CrossingGrant} :
    (m.entries.map fun e => ((e.1.agent.val, e.1.assignment.val), e.2)).insertionSort grantLe =
      (n.entries.map fun e => ((e.1.agent.val, e.1.assignment.val), e.2)).insertionSort grantLe ↔
        m.Same Eq n :=
  ⟨fun sorted => VecMap.same_of_map_perm crossingKeys_injective (fun _ _ same => same)
    (perm_of_insertionSort _ sorted), sortGrants_same⟩

/-- The observed state is a canonical form: two states are observed alike exactly when they are the same
    up to the order of set members and map entries. -/
theorem observation_canonical {s t : KernelState} :
    StateN.fromKernel s = StateN.fromKernel t ↔ s.Same t := by
  refine ⟨fun alike => ?_, fromKernel_same⟩
  obtain ⟨active, parent, cap, taint, integ, pending, challenges, ids, attestations, crossings, grants,
    tools⟩ := StateN.mk.inj alike
  exact {
    agentActive := (sortStrings_iff agents_injective).mp active
    agentParent := (sortStringMap_iff agents_injective fun _ _ => agents_injective.eq_iff).mp parent
    agentCap := (sortStringMap_iff agents_injective fun _ _ => sortByTag_iff).mp cap
    taintLevels := (sortStringMap_iff agents_injective fun _ _ => sortByTag_iff).mp taint
    integLevels := (sortStringMap_iff agents_injective fun _ _ => sortByTag_iff).mp integ
    pending := (sortStringMap_iff invocations_injective fun _ _ => pendingFromKernel_iff).mp pending
    challenges := (sortStringMap_iff invocations_injective fun _ _ => challengeFromKernel_iff).mp challenges
    consumedIds := (sortStrings_iff invocations_injective).mp ids
    consumedAttestations := (sortStrings_iff fun _ _ => congrArg AttestationId.mk).mp attestations
    consumedCrossings := (sortStrings_iff fun _ _ => congrArg CrossingId.mk).mp crossings
    crossingGrants := sortGrants_iff.mp grants
    toolRegistered := (sortStrings_iff fun _ _ => congrArg ToolId.mk).mp tools }

end Argus
