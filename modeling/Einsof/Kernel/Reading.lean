import Einsof.Kernel.View

/-! Every gate and every effect of the kernel reads labels, records and grants through a party's view. -/

namespace Argus

variable {L : LabelView} {P : Party} {bg : BackgroundTheory} {s s' t : KernelState} {a b grantor : AgentId}
  {inv : InvocationId}

section Bands

variable {l k : ConfLevel} {i j : IntegLevel}

theorem ConfLevel.le_trans {m : ConfLevel} (first : k ≤ l) (second : l ≤ m) : k ≤ m := by
  rw [ConfLevel.le_iff_rank] at first second ⊢
  exact Nat.le_trans first second

theorem IntegLevel.le_refl (i : IntegLevel) : i ≤ i := IntegLevel.le_iff_rank.mpr (Nat.le_refl _)

theorem IntegLevel.le_trans {m : IntegLevel} (first : i ≤ j) (second : j ≤ m) : i ≤ m := by
  rw [IntegLevel.le_iff_rank] at first second ⊢
  exact Nat.le_trans first second

theorem below_lower (c : ConfLevel) : IsLowerSet {l | l ≤ c} := fun _ _ => ConfLevel.le_trans

theorem above_upper (f : IntegLevel) : IsUpperSet {l | f ≤ l} :=
  fun _ _ above floor => IntegLevel.le_trans floor above

theorem flowArm_lower (strict vouched : Bool) (e : EgressKind) :
    IsLowerSet {l | bg.FlowArm strict vouched l e} := by
  intro l k below arm
  rcases arm with allowed | ⟨relaxed, inspected, vouches⟩
  · obtain ⟨c, ceiling, under⟩ := BackgroundTheory.flowAllows_iff.mp allowed
    exact .inl (BackgroundTheory.flowAllows_iff.mpr ⟨c, ceiling, ConfLevel.le_trans below under⟩)
  · obtain ⟨c, ceiling, under⟩ := BackgroundTheory.flowInspects_iff.mp inspected
    exact .inr ⟨relaxed, BackgroundTheory.flowInspects_iff.mpr ⟨c, ceiling, ConfLevel.le_trans below under⟩,
      vouches⟩

theorem flowHolds_lower (r : PendingInvocation) : IsLowerSet {l | bg.FlowHolds r l} := by
  intro l k below holds e channel
  have arm : bg.FlowArm false r.vouched k e :=
    flowArm_lower false r.vouched e below ((holds e channel).imp id fun gate => ⟨rfl, gate⟩)
  exact arm.imp id fun gate => gate.2

theorem integArm_upper (snap : ActionPolicySnapshot) (strict vouched : Bool) :
    IsUpperSet {l | snap.IntegArm strict vouched l} := by
  intro i j above arm
  rcases arm with floor | ⟨relaxed, inspect, vouches⟩
  · exact .inl (IntegLevel.le_trans floor above)
  · exact .inr ⟨relaxed, IntegLevel.le_trans inspect above, vouches⟩

theorem integHolds_upper (r : PendingInvocation) : IsUpperSet {l | r.IntegHolds l} := by
  intro i j above holds
  rcases holds with floor | ⟨inspect, vouches⟩
  · exact .inl (IntegLevel.le_trans floor above)
  · exact .inr ⟨IntegLevel.le_trans inspect above, vouches⟩

/-- What a release must not exceed for the receiver's open work to take it. -/
theorem received_lower (u : KernelState) (a : AgentId) :
    IsLowerSet {l | u.PendingOf a (bg.FlowHolds · l) ∧ u.PendingOf a (·.ClearHolds l)} := by
  intro l k below both
  refine ⟨fun i j present own => flowHolds_lower j below (both.1 i j present own), fun i j present own => ?_⟩
  exact ConfLevel.le_trans below (both.2 i j present own)

theorem received_upper (u : KernelState) (a : AgentId) : IsUpperSet {l | u.PendingOf a (·.IntegHolds l)} :=
  fun _ _ above all i j present own => integHolds_upper j above (all i j present own)

end Bands

section Reads

theorem Separated.agent_of_pending (before : Separated P bg s) {j : PendingInvocation}
    (present : s.pending.get inv = some j) : P.invocations inv = P.agents j.agent :=
  (before.owners _ _ _ _ (.pending present)).invocation

theorem Separated.agent_of_challenge (before : Separated P bg s) {sc : ChallengeScope}
    (present : s.challenges.get inv = some sc) : P.invocations inv = P.agents sc.agent :=
  (before.owners _ _ _ _ (.challenge present)).invocation

/-- The operator named by the background is active only as the built-in root. -/
theorem Forest.operator (forest : Forest bg s) :
    bg.rootAgent ∈ s.agentActive ↔ bg.rootAgent = AgentId.root := by
  constructor
  · intro active
    by_contra other
    exact forest.revocable _ ((forest.edges _).mpr ⟨active, other⟩) rfl
  · intro same
    exact same ▸ forest.rooted

variable (seen : Seen L P s t) (here : Separated P bg s) (there : Separated P bg t)

include seen here there

theorem active_seen (above : P.above a = true) : a ∈ s.agentActive ↔ a ∈ t.agentActive := by
  rcases Party.above_iff.mp above with own | rfl
  · exact seen.active a own
  · exact iff_of_true here.forest.rooted there.forest.rooted

theorem hasCap_seen (above : P.above a = true) (cap : CapKind) : s.HasCap a cap ↔ t.HasCap a cap := by
  rcases Party.above_iff.mp above with own | rfl
  · exact seen.caps a own cap
  · exact iff_of_true (here.attenuated.root cap) (there.attenuated.root cap)

theorem pendingOf_seen (own : P.agents a = true) (good : PendingInvocation → Prop) :
    s.PendingOf a good ↔ t.PendingOf a good := by
  constructor
  · intro all i j present owner
    refine all i j ?_ owner
    rw [seen.pending i ((there.agent_of_pending present).trans (owner ▸ own)), present]
  · intro all i j present owner
    refine all i j ?_ owner
    rw [← seen.pending i ((here.agent_of_pending present).trans (owner ▸ own)), present]

theorem inFlight_seen (own : P.agents a = true) : srcInFlight s a = srcInFlight t a := by
  have alike := not_congr (pendingOf_seen seen here there own fun _ => False)
  rw [Bool.eq_iff_iff, srcInFlight_iff, srcInFlight_iff]
  simpa [KernelState.PendingOf] using alike

theorem isParent_seen (own : P.agents a = true) (notRoot : a ≠ AgentId.root) :
    isParent s a = isParent t a := by
  rw [Bool.eq_iff_iff, isParent_iff, isParent_iff]
  constructor
  · intro ⟨child, edge⟩
    have mine := ((here.edges child a edge).resolve_left notRoot).symm.trans own
    exact ⟨child, (seen.parent child mine).symm.trans edge⟩
  · intro ⟨child, edge⟩
    have mine := ((there.edges child a edge).resolve_left notRoot).symm.trans own
    exact ⟨child, (seen.parent child mine).trans edge⟩

theorem toolInUse_seen {tool : ToolId} (own : P.tools tool = true) : toolInUse s tool = toolInUse t tool := by
  have mine : ∀ {u i a snap egr}, Separated P bg u → u.Open i a snap egr → snap.tool = tool →
      P.invocations i = true := by
    intro u i a snap egr before opened same
    have owned := before.owners i a snap egr opened
    exact owned.invocation.trans (owned.tools (same ▸ own))
  rw [Bool.eq_iff_iff, toolInUse_iff, toolInUse_iff]
  constructor
  · intro used
    rcases used with ⟨i, j, present, same⟩ | ⟨i, sc, present, same⟩
    · exact .inl ⟨i, j, (seen.pending i (mine here (.pending present) same)).symm.trans present, same⟩
    · exact .inr ⟨i, sc, (seen.challenges i (mine here (.challenge present) same)).symm.trans present, same⟩
  · intro used
    rcases used with ⟨i, j, present, same⟩ | ⟨i, sc, present, same⟩
    · exact .inl ⟨i, j, (seen.pending i (mine there (.pending present) same)).trans present, same⟩
    · exact .inr ⟨i, sc, (seen.challenges i (mine there (.challenge present) same)).trans present, same⟩

theorem speculativeTaint_seen (own : P.agents a = true) {p : ConfLevel → Prop}
    (lower : IsLowerSet {l | p l}) :
    (∀ l ∈ s.speculativeTaint a, p l) ↔ ∀ l ∈ t.speculativeTaint a, p l := by
  have split : ∀ u : KernelState, (∀ l ∈ u.speculativeTaint a, p l) ↔
      (∀ l, u.Taints a l → p l) ∧ u.PendingOf a (p ·.policy.outputConf) := by
    intro u
    simp only [KernelState.mem_speculativeTaint, or_imp, forall_and, forall_exists_index, and_imp,
      KernelState.PendingOf]
    refine and_congr Iff.rfl ⟨fun all i j present own => all _ i j present own rfl, ?_⟩
    intro all l i j present own same
    exact same ▸ all i j present own
  rw [split, split, pendingOf_seen seen here there own]
  exact and_congr_left' (seen.taints a own p (L.lower p lower))

theorem speculativeInteg_seen (own : P.agents a = true) {p : IntegLevel → Prop}
    (upper : IsUpperSet {l | p l}) :
    (∀ l ∈ s.speculativeInteg a, p l) ↔ ∀ l ∈ t.speculativeInteg a, p l := by
  have split : ∀ u : KernelState, (∀ l ∈ u.speculativeInteg a, p l) ↔
      (∀ l, u.Integs a l → p l) ∧ u.PendingOf a (p ·.policy.outputInteg) := by
    intro u
    simp only [KernelState.mem_speculativeInteg, or_imp, forall_and, forall_exists_index, and_imp,
      KernelState.PendingOf]
    refine and_congr Iff.rfl ⟨fun all i j present own => all _ i j present own rfl, ?_⟩
    intro all l i j present own same
    exact same ▸ all i j present own
  rw [split, split, pendingOf_seen seen here there own]
  exact and_congr_left' (seen.integs a own p (L.upper p upper))

end Reads

section Guards

variable (seen : Seen L P s t)

include seen

theorem checkCapability_seen (own : P.agents a = true) (snap : ActionPolicySnapshot) :
    checkCapability s a snap = checkCapability t a snap := by
  rw [Bool.eq_iff_iff, checkCapability_iff, checkCapability_iff]
  exact forall₂_congr fun cap _ => seen.caps a own cap

theorem beginRefusal_seen (own : P.agents a = true) (mine : P.invocations inv = true)
    {snap : ActionPolicySnapshot} (uses : P.uses snap.tool = true) (egr : VecSet EgressKind) :
    beginRefusal s bg a inv snap egr = beginRefusal t bg a inv snap egr := by
  simp only [beginRefusal, VecSet.contains_iff, VecMap.containsKey_eq, seen.active a own,
    seen.tools _ uses, seen.pending inv mine, seen.challenges inv mine, seen.consumedIds inv mine]

theorem dominated_seen {src : Option AgentId} (own : ∀ b, src = some b → P.agents b = true) (l : ConfLevel)
    (li : IntegLevel) : dominated s src l li = dominated t src l li := by
  rw [Bool.eq_iff_iff, dominated_iff, dominated_iff]
  refine forall₂_congr fun b same => and_congr ?_ ?_
  · exact seen.taints b (own b same) _ (L.lower _ (below_lower l))
  · exact seen.integs b (own b same) _ (L.upper _ (above_upper li))

theorem crossBranch_seen {q : CrossInput} (own : P.agents q.rcv = true)
    (evidence : ∀ e, q.evidence = some e → P.attestations e.id = true) :
    crossBranch s q = crossBranch t q := by
  have fresh : evidenceOk s q = evidenceOk t q := by
    rw [Bool.eq_iff_iff, evidenceOk_iff, evidenceOk_iff]
    refine exists_congr fun e => and_congr_right fun same => ?_
    rw [seen.attestations _ (evidence e same)]
  have endorsed : endorsedOk s q = endorsedOk t q := by
    rw [endorsedOk, endorsedOk, fresh, VecMap.getCloned_eq_get, VecMap.getCloned_eq_get,
      seen.grants ⟨q.rcv, q.assignment⟩ own]
  rw [crossBranch, crossBranch, endorsed]

theorem crossBound_seen {q : CrossInput} (own : P.agents q.src = true) : crossBound s q = crossBound t q := by
  rw [Bool.eq_iff_iff, crossBound_iff, crossBound_iff]
  refine and_congr_right' (and_congr_right' (imp_congr_right fun _ => ?_))
  exact seen.taints _ own _ (L.lower _ (below_lower q.releasedConf))

/-- The labels a crossing releases, put to the tests of the view. -/
theorem releasesConf_seen {q : CrossInput} (own : P.agents q.src = true) (branch : CrossBranch) :
    TestedAlike L.conf {l | releasesConf s q branch l} {l | releasesConf t q branch l} := by
  cases branch with
  | endorsed => exact .refl _ _
  | unendorsed => exact seen.taints _ own
  | fail => exact .refl _ _

theorem releasesInteg_seen {q : CrossInput} (own : P.agents q.src = true) (branch : CrossBranch) :
    TestedAlike L.integ {l | releasesInteg s q branch l} {l | releasesInteg t q branch l} := by
  cases branch with
  | endorsed => exact .refl _ _
  | unendorsed => exact seen.integs _ own
  | fail => exact .refl _ _

variable (here : Separated P bg s) (there : Separated P bg t)

include here there

theorem checkClearance_seen (own : P.agents a = true) (snap : ActionPolicySnapshot) :
    checkClearance s a snap = checkClearance t a snap := by
  rw [Bool.eq_iff_iff, checkClearance_iff, checkClearance_iff, pendingOf_seen seen here there own,
    speculativeTaint_seen seen here there own (below_lower _)]

theorem checkFlow_seen (own : P.agents a = true) (snap : ActionPolicySnapshot) (egr : VecSet EgressKind)
    (strict : Bool) : checkFlow s bg a snap egr strict = checkFlow t bg a snap egr strict := by
  have lower : IsLowerSet {l | ∀ e ∈ egr, bg.FlowArm strict true l e} :=
    fun l k below all e channel => flowArm_lower strict true e below (all e channel)
  rw [Bool.eq_iff_iff, checkFlow_iff, checkFlow_iff, pendingOf_seen seen here there own,
    speculativeTaint_seen seen here there own lower]

theorem checkInteg_seen (own : P.agents a = true) (snap : ActionPolicySnapshot) (strict : Bool) :
    checkInteg s a snap strict = checkInteg t a snap strict := by
  rw [Bool.eq_iff_iff, checkInteg_iff, checkInteg_iff, pendingOf_seen seen here there own,
    speculativeInteg_seen seen here there own (integArm_upper snap strict true)]

theorem beginAdmissible_seen (own : P.agents a = true) (snap : ActionPolicySnapshot)
    (egr : VecSet EgressKind) (authorized : Bool) :
    beginAdmissible s bg a snap egr authorized = beginAdmissible t bg a snap egr authorized := by
  rw [beginAdmissible, beginAdmissible, checkCapability_seen seen own,
    checkClearance_seen seen here there own, checkFlow_seen seen here there own,
    checkInteg_seen seen here there own]

theorem beginVerdict_seen (own : P.agents a = true) (snap : ActionPolicySnapshot)
    (egr : VecSet EgressKind) (authorized : Bool) :
    beginVerdict s bg a snap egr authorized = beginVerdict t bg a snap egr authorized := by
  rw [beginVerdict, beginVerdict, beginAdmissible_seen seen here there own, beginStrict, beginStrict,
    checkCapability_seen seen own, checkClearance_seen seen here there own,
    checkFlow_seen seen here there own, checkInteg_seen seen here there own]

theorem denyReason_seen (own : P.agents a = true) (snap : ActionPolicySnapshot) (egr : VecSet EgressKind)
    (authorized : Bool) : denyReason s bg a snap egr authorized = denyReason t bg a snap egr authorized := by
  rw [denyReason, denyReason, checkCapability_seen seen own,
    checkClearance_seen seen here there own, checkFlow_seen seen here there own]

theorem authorizeAdmits_seen {sc : ChallengeScope} (present : s.challenges.get inv = some sc)
    (mine : P.invocations inv = true) : authorizeAdmits s bg inv sc = authorizeAdmits t bg inv sc := by
  have owned := here.owners _ _ _ _ (.challenge present)
  have own := owned.invocation.symm.trans mine
  have active : s.agentActive.contains sc.agent = t.agentActive.contains sc.agent := by
    rw [Bool.eq_iff_iff, VecSet.contains_iff, VecSet.contains_iff, seen.active _ own]
  have tools : s.toolRegistered.contains sc.policy.tool = t.toolRegistered.contains sc.policy.tool := by
    rw [Bool.eq_iff_iff, VecSet.contains_iff, VecSet.contains_iff, seen.tools _ (owned.uses own)]
  rw [authorizeAdmits, authorizeAdmits, active, tools, VecMap.containsKey_eq, VecMap.containsKey_eq,
    seen.pending inv mine, beginAdmissible_seen seen here there own]

theorem ingestHolds_seen (own : P.agents a = true) (l : ConfLevel) (li : IntegLevel) :
    ingestHolds s bg a l li = ingestHolds t bg a l li := by
  rw [Bool.eq_iff_iff, ingestHolds_iff, ingestHolds_iff, pendingOf_seen seen here there own,
    pendingOf_seen seen here there own, pendingOf_seen seen here there own]

theorem crossHolds_seen {q : CrossInput} (source : P.agents q.src = true) (own : P.agents q.rcv = true)
    (branch : CrossBranch) : crossHolds s bg q branch = crossHolds t bg q branch := by
  have pending := fun good => pendingOf_seen seen here there own good
  rw [Bool.eq_iff_iff, crossHolds_iff, crossHolds_iff]
  simp only [pending]
  exact and_congr (releasesConf_seen seen source branch _ (L.lower _ (received_lower t q.rcv)))
    (releasesInteg_seen seen source branch _ (L.upper _ (received_upper t q.rcv)))

end Guards

section Effects

variable (seen : Seen L P s t)

include seen

theorem enroll_seen : Seen L P (enroll s grantor a) (enroll t grantor a) where
  active b own := by
    rw [enroll_agentActive, enroll_agentActive, VecSet.mem_insert, VecSet.mem_insert, seen.active b own]
  parent b own := by rw [enroll_parent, enroll_parent, seen.parent b own]
  caps b own cap := by rw [enroll_hasCap, enroll_hasCap, seen.caps b own]
  taints b own := by
    simp only [enroll_taints]
    exact (seen.taints b own).restrict _
  integs b own := by
    simp only [enroll_integs]
    exact (seen.integs b own).restrict _
  pending i own := by rw [enroll_pending, enroll_pending, seen.pending i own]
  challenges i own := by rw [enroll_challenges, enroll_challenges, seen.challenges i own]
  consumedIds := seen.consumedIds
  attestations := seen.attestations
  crossings := seen.crossings
  grants key own := by rw [enroll_crossingGrants, enroll_crossingGrants, seen.grants key own]
  tools := seen.tools

theorem clearAgent_seen : Seen L P (clearAgent s a) (clearAgent t a) where
  active b own := by
    rw [clearAgent_agentActive, clearAgent_agentActive, VecSet.mem_remove, VecSet.mem_remove, seen.active b own]
  parent b own := by rw [clearAgent_parent, clearAgent_parent, seen.parent b own]
  caps b own cap := by rw [clearAgent_hasCap, clearAgent_hasCap, seen.caps b own]
  taints b own := by
    simp only [clearAgent_taints]
    exact (seen.taints b own).restrict _
  integs b own := by
    simp only [clearAgent_integs]
    exact (seen.integs b own).restrict _
  pending i own := by rw [clearAgent_pending, clearAgent_pending, seen.pending i own]
  challenges i own := by rw [clearAgent_challenges, clearAgent_challenges, seen.challenges i own]
  consumedIds := seen.consumedIds
  attestations := seen.attestations
  crossings := seen.crossings
  grants key own := by rw [clearAgent_crossingGrants, clearAgent_crossingGrants, seen.grants key own]
  tools := seen.tools

theorem endow_seen (cap : CapKind) : Seen L P { s with agentCap := s.agentCap.insertInto a cap }
    { t with agentCap := t.agentCap.insertInto a cap } :=
  { seen with caps := fun b own other => by rw [hasCap_endow, hasCap_endow, seen.caps b own] }

theorem registered_seen (tool : ToolId) : Seen L P { s with toolRegistered := s.toolRegistered.insert tool }
    { t with toolRegistered := t.toolRegistered.insert tool } :=
  { seen with tools := fun other own => by rw [VecSet.mem_insert, VecSet.mem_insert, seen.tools other own] }

theorem unregistered_seen (tool : ToolId) : Seen L P { s with toolRegistered := s.toolRegistered.remove tool }
    { t with toolRegistered := t.toolRegistered.remove tool } :=
  { seen with tools := fun other own => by rw [VecSet.mem_remove, VecSet.mem_remove, seen.tools other own] }

theorem granted_seen (key : CrossingKey) (g : CrossingGrant) :
    Seen L P { s with crossingGrants := s.crossingGrants.insert key g }
      { t with crossingGrants := t.crossingGrants.insert key g } :=
  { seen with grants := fun other own => by rw [VecMap.get_insert, VecMap.get_insert, seen.grants other own] }

theorem absorb_seen (l : ConfLevel) (li : IntegLevel) (d : Disposition) :
    Seen L P (absorb s a l li d) (absorb t a l li d) := by
  have taints : ∀ b, P.agents b = true → TestedAlike L.conf {k | (absorb s a l li d).Taints b k}
      {k | (absorb t a l li d).Taints b k} := by
    intro b own
    simp only [absorb_taints]
    exact (seen.taints b own).union (.refl _ _)
  have integs : ∀ b, P.agents b = true → TestedAlike L.integ {k | (absorb s a l li d).Integs b k}
      {k | (absorb t a l li d).Integs b k} := by
    intro b own
    simp only [absorb_integs]
    exact (seen.integs b own).union (.refl _ _)
  have pending : ∀ i, P.invocations i = true →
      (absorb s a l li d).pending.get i = (absorb t a l li d).pending.get i := by
    intro i own
    rw [absorb_pending, absorb_pending, seen.pending i own]
  rw [absorb_eq, absorb_eq] at taints integs pending ⊢
  exact { seen with taints := taints, integs := integs, pending := pending }

theorem settled_seen (inv : InvocationId) (outcome : Outcome) (att : Option ResolutionAttestation)
    (j : PendingInvocation) : Seen L P (settled s inv outcome att j) (settled t inv outcome att j) := by
  have taints : ∀ b, P.agents b = true → TestedAlike L.conf {k | (settled s inv outcome att j).Taints b k}
      {k | (settled t inv outcome att j).Taints b k} := by
    intro b own
    simp only [settled_taints]
    exact (seen.taints b own).union (.refl _ _)
  have integs : ∀ b, P.agents b = true → TestedAlike L.integ {k | (settled s inv outcome att j).Integs b k}
      {k | (settled t inv outcome att j).Integs b k} := by
    intro b own
    simp only [settled_integs]
    exact (seen.integs b own).union (.refl _ _)
  have pending : ∀ i, P.invocations i = true →
      (settled s inv outcome att j).pending.get i = (settled t inv outcome att j).pending.get i := by
    intro i own
    rw [settled_pending, settled_pending, seen.pending i own]
  have attestations : ∀ x, P.attestations x = true → (x ∈ (settled s inv outcome att j).consumedAttestations ↔
      x ∈ (settled t inv outcome att j).consumedAttestations) := by
    intro x own
    rw [settled_consumedAttestations, settled_consumedAttestations, seen.attestations x own]
  rw [settled_eq, settled_eq] at taints integs pending attestations ⊢
  exact { seen with taints := taints, integs := integs, pending := pending, attestations := attestations }

theorem pend_seen (inv : InvocationId) (j : PendingInvocation) : Seen L P (s.pend inv j) (t.pend inv j) :=
  { seen with
    pending := fun i own => by rw [pend_pending, pend_pending, seen.pending i own]
    consumedIds := fun i own => by
      rw [KernelState.pend, KernelState.pend, VecSet.mem_insert, VecSet.mem_insert, seen.consumedIds i own] }

theorem challenge_seen (inv : InvocationId) (sc : ChallengeScope) :
    Seen L P (s.challenge inv sc) (t.challenge inv sc) :=
  { seen with
    challenges := fun i own => by rw [challenge_challenges, challenge_challenges, seen.challenges i own]
    consumedIds := fun i own => by
      rw [KernelState.challenge, KernelState.challenge, VecSet.mem_insert, VecSet.mem_insert,
        seen.consumedIds i own] }

theorem resolve_seen (inv : InvocationId) (sc : ChallengeScope) (x : AttestationId) (admitted : Bool) :
    Seen L P (resolve s inv sc x admitted) (resolve t inv sc x admitted) :=
  { seen with
    pending := fun i own => by rw [resolve_pending, resolve_pending, seen.pending i own]
    challenges := fun i own => by rw [resolve_challenges, resolve_challenges, seen.challenges i own]
    attestations := fun y own => by
      rw [resolve, resolve, VecSet.mem_insert, VecSet.mem_insert, seen.attestations y own] }

theorem crossed_seen {q : CrossInput} (source : P.agents q.src = true) (branch : CrossBranch) (d : Disposition) :
    Seen L P (crossed s q branch d) (crossed t q branch d) := by
  have taints : ∀ b, P.agents b = true → TestedAlike L.conf {k | (crossed s q branch d).Taints b k}
      {k | (crossed t q branch d).Taints b k} := by
    intro b own
    simp only [crossed_taints, and_comm (a := b = q.rcv)]
    exact (seen.taints b own).union ((releasesConf_seen seen source branch).restrict _)
  have integs : ∀ b, P.agents b = true → TestedAlike L.integ {k | (crossed s q branch d).Integs b k}
      {k | (crossed t q branch d).Integs b k} := by
    intro b own
    simp only [crossed_integs, and_comm (a := b = q.rcv)]
    exact (seen.integs b own).union ((releasesInteg_seen seen source branch).restrict _)
  have pending : ∀ i, P.invocations i = true →
      (crossed s q branch d).pending.get i = (crossed t q branch d).pending.get i := by
    intro i own
    rw [crossed_pending, crossed_pending, seen.pending i own]
  have grants : ∀ key : CrossingKey, P.agents key.agent = true →
      (crossed s q branch d).crossingGrants.get key = (crossed t q branch d).crossingGrants.get key := by
    intro key own
    rw [crossed_crossingGrants, crossed_crossingGrants, seen.grants key own]
  have attestations : ∀ x, P.attestations x = true → (x ∈ (crossed s q branch d).consumedAttestations ↔
      x ∈ (crossed t q branch d).consumedAttestations) := by
    intro x own
    rw [crossed_consumedAttestations, crossed_consumedAttestations, seen.attestations x own]
  rw [crossed_eq, crossed_eq] at taints integs pending grants attestations ⊢
  exact
    { seen with
      taints := taints
      integs := integs
      pending := pending
      grants := grants
      attestations := attestations
      crossings := fun x own => by rw [VecSet.mem_insert, VecSet.mem_insert, seen.crossings x own] }

end Effects

end Argus
