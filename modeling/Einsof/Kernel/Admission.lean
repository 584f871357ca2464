import Einsof.Kernel.Residue

namespace Argus

/-- How much a verdict lets through. -/
def Verdict.permissiveness : Verdict → Nat
  | .deny => 0
  | .inspectionRequired => 1
  | .allow => 2

/-- The steps that deliver labels to an agent or open work for it. -/
def KernelCommand.burdens : KernelCommand → Bool
  | .ingest _ _ _ _ | .crossOutput _ | .beginInvocation _ _ _ _ _ _ _ | .authorizeInspected _ _ => true
  | _ => false

/-- Every label and every record of `s` is still there in `s'`, a record up to its disposition, and no
    agent has gained a capability. -/
structure Accumulates (s s' : KernelState) : Prop where
  caps : ∀ a cap, s'.HasCap a cap → s.HasCap a cap
  taints : ∀ a l, s.Taints a l → s'.Taints a l
  integs : ∀ a l, s.Integs a l → s'.Integs a l
  records : ∀ i j, s.pending.get i = some j →
    ∃ j', s'.pending.get i = some j' ∧ j' = { j with disposition := j'.disposition }

variable {s s' : KernelState} {bg : BackgroundTheory} {a : AgentId} {snap : ActionPolicySnapshot}
  {egr : VecSet EgressKind} {authorized strict : Bool}

namespace Accumulates

section Gates

variable (grows : Accumulates s s')

include grows

/-- A gate over the records of an agent that does not read the disposition passes less often. -/
theorem pendingOf {good : PendingInvocation → Prop}
    (frozen : ∀ j d, good { j with disposition := d } → good j) (passes : s'.PendingOf a good) :
    s.PendingOf a good := by
  intro i j present own
  obtain ⟨j', present', same⟩ := grows.records i j present
  have owner : j'.agent = a := by rw [same]; exact own
  have here := passes i j' present' owner
  rw [same] at here
  exact frozen j _ here

/-- What the records of an agent put out they go on putting out. -/
theorem outputs (out : ActionPolicySnapshot → Prop)
    (held : ∃ i j, s.pending.get i = some j ∧ j.agent = a ∧ out j.policy) :
    ∃ i j, s'.pending.get i = some j ∧ j.agent = a ∧ out j.policy := by
  obtain ⟨i, j, present, own, output⟩ := held
  obtain ⟨j', present', same⟩ := grows.records i j present
  have owner : j'.agent = a := by rw [same]; exact own
  have policy : j'.policy = j.policy := by rw [same]
  rw [← policy] at output
  exact ⟨i, j', present', owner, output⟩

theorem speculativeTaint {l : ConfLevel} (held : l ∈ s.speculativeTaint a) :
    l ∈ s'.speculativeTaint a := by
  rw [KernelState.mem_speculativeTaint] at held ⊢
  rcases held with label | output
  · exact .inl (grows.taints a l label)
  · exact .inr (grows.outputs (·.outputConf = l) output)

theorem speculativeInteg {l : IntegLevel} (held : l ∈ s.speculativeInteg a) :
    l ∈ s'.speculativeInteg a := by
  rw [KernelState.mem_speculativeInteg] at held ⊢
  rcases held with label | output
  · exact .inl (grows.integs a l label)
  · exact .inr (grows.outputs (·.outputInteg = l) output)

theorem checkCapability (passes : Argus.checkCapability s' a snap = true) :
    Argus.checkCapability s a snap = true := by
  rw [checkCapability_iff] at passes ⊢
  intro cap required
  exact grows.caps a cap (passes cap required)

theorem checkClearance (passes : Argus.checkClearance s' a snap = true) :
    Argus.checkClearance s a snap = true := by
  rw [checkClearance_iff] at passes ⊢
  obtain ⟨held, others, self⟩ := passes
  refine ⟨?_, grows.pendingOf (fun _ _ holds => holds) others, self⟩
  intro l member
  exact held l (grows.speculativeTaint member)

theorem checkFlow (passes : Argus.checkFlow s' bg a snap egr strict = true) :
    Argus.checkFlow s bg a snap egr strict = true := by
  rw [checkFlow_iff] at passes ⊢
  obtain ⟨held, others, self⟩ := passes
  refine ⟨?_, grows.pendingOf (fun _ _ holds => holds) others, self⟩
  intro l member
  exact held l (grows.speculativeTaint member)

theorem checkInteg (passes : Argus.checkInteg s' a snap strict = true) :
    Argus.checkInteg s a snap strict = true := by
  rw [checkInteg_iff] at passes ⊢
  obtain ⟨held, others, self⟩ := passes
  refine ⟨?_, grows.pendingOf (fun _ _ holds => holds) others, self⟩
  intro l member
  exact held l (grows.speculativeInteg member)

/-- The two gates differ in nothing but their strictness. -/
theorem gates
    (passes : (Argus.checkCapability s' a snap && authorized && Argus.checkClearance s' a snap &&
      Argus.checkFlow s' bg a snap egr strict && Argus.checkInteg s' a snap strict) = true) :
    (Argus.checkCapability s a snap && authorized && Argus.checkClearance s a snap &&
      Argus.checkFlow s bg a snap egr strict && Argus.checkInteg s a snap strict) = true := by
  simp only [Bool.and_eq_true] at passes ⊢
  obtain ⟨⟨⟨⟨capable, vouched⟩, clear⟩, flow⟩, integ⟩ := passes
  exact ⟨⟨⟨⟨grows.checkCapability capable, vouched⟩, grows.checkClearance clear⟩,
    grows.checkFlow flow⟩, grows.checkInteg integ⟩

theorem beginStrict (passes : Argus.beginStrict s' bg a snap egr authorized = true) :
    Argus.beginStrict s bg a snap egr authorized = true := grows.gates passes

theorem beginAdmissible (passes : Argus.beginAdmissible s' bg a snap egr authorized = true) :
    Argus.beginAdmissible s bg a snap egr authorized = true := grows.gates passes

theorem verdict : (beginVerdict s' bg a snap egr authorized).permissiveness ≤
    (beginVerdict s bg a snap egr authorized).permissiveness := by
  unfold beginVerdict
  by_cases allows : Argus.beginStrict s' bg a snap egr authorized = true
  · rw [if_pos allows, if_pos (grows.beginStrict allows)]
  · rw [if_neg allows]
    by_cases inspects : Argus.beginAdmissible s' bg a snap egr authorized = true
    · rw [if_pos inspects, if_pos (grows.beginAdmissible inspects)]
      split <;> decide
    · rw [if_neg inspects]
      exact Nat.zero_le _

end Gates

section Steps

variable {inv : InvocationId}

theorem of_kept (records : ∀ i j, s.pending.get i = some j → s'.pending.get i = some j)
    (caps : s'.agentCap = s.agentCap) (taints : s'.taintLevels = s.taintLevels)
    (integs : s'.integLevels = s.integLevels) : Accumulates s s' where
  caps a cap held := by
    rw [KernelState.HasCap, caps] at held
    exact held
  taints a l held := by
    rw [KernelState.Taints, taints]
    exact held
  integs a l held := by
    rw [KernelState.Integs, integs]
    exact held
  records i j present := ⟨j, records i j present, rfl⟩

theorem of_pend {j : PendingInvocation} (vacant : s.pending.get inv = none) :
    Accumulates s (s.pend inv j) := by
  refine of_kept ?_ rfl rfl rfl
  intro i k present
  have elsewhere : i ≠ inv := by
    intro here
    rw [here, vacant] at present
    cases present
  rw [pend_pending, if_neg elsewhere, present]

theorem of_resolve {sc : ChallengeScope} {x : AttestationId} {admitted : Bool}
    (vacant : admitted = true → s.pending.get inv = none) :
    Accumulates s (resolve s inv sc x admitted) := by
  refine of_kept ?_ rfl rfl rfl
  intro i k present
  have elsewhere : ¬ (i = inv ∧ admitted = true) := by
    intro here
    rw [here.1, vacant here.2] at present
    cases present
  rw [resolve_pending, if_neg elsewhere, present]

theorem of_delivery {b : AgentId} {d : Disposition}
    (records : ∀ i, s'.pending.get i = (s.pending.get i).map (demotedIf (d = .monitorBypassed) b))
    (caps : s'.agentCap = s.agentCap) (taints : ∀ a l, s.Taints a l → s'.Taints a l)
    (integs : ∀ a l, s.Integs a l → s'.Integs a l) : Accumulates s s' where
  caps a cap held := by
    rw [KernelState.HasCap, caps] at held
    exact held
  taints := taints
  integs := integs
  records i j present := by
    refine ⟨_, by rw [records, present, Option.map_some], ?_⟩
    exact demotedIf_eq _ b j

theorem of_step {c : KernelCommand} {r : KernelAction} (burdens : c.burdens = true)
    (accepted : (kernel bg).step s c = .ok (s', r)) : Accumulates s s' := by
  cases c with
  | ingest b src l li =>
    obtain ⟨-, -, d, -, rfl, -⟩ := ingest_ok.mp accepted
    refine .of_delivery (fun _ => absorb_pending) (by rw [absorb_eq]) ?_ ?_
    · intro a l held
      exact absorb_taints.mpr (.inl held)
    · intro a l held
      exact absorb_integs.mpr (.inl held)
  | crossOutput q =>
    obtain ⟨-, -, -, -, -, d, -, rfl, -⟩ := crossOutput_ok.mp accepted
    refine .of_delivery (fun _ => crossed_pending) (by rw [crossed_eq]) ?_ ?_
    · intro a l held
      exact crossed_taints.mpr (.inl held)
    · intro a l held
      exact crossed_integs.mpr (.inl held)
  | beginInvocation b inv chal snap egr ah authorized =>
    obtain ⟨guards, effect, -⟩ := beginInvocation_ok.mp accepted
    generalize beginVerdict s bg b snap egr authorized = verdict at effect
    generalize bg.mode = mode at effect
    cases effect with
    | permit => exact .of_pend guards.notPending
    | inspect => exact .of_kept (fun _ _ present => present) rfl rfl rfl
    | bypass => exact .of_pend guards.notPending
  | authorizeInspected inv att =>
    obtain ⟨sc, -, -, -, rfl, -⟩ := authorizeInspected_ok.mp accepted
    apply of_resolve
    intro admitted
    exact (authorizeAdmits_iff.mp (Bool.and_eq_true_iff.mp admitted).2).1.notPending
  | registerTool tool => cases burdens
  | unregisterTool tool => cases burdens
  | delegate grantor grantee => cases burdens
  | grantCapability parent child cap => cases burdens
  | grantCrossing grantor agent assignment n => cases burdens
  | revoke parent target => cases burdens
  | cascadeRevoke child parent => cases burdens
  | settleInvocation inv outcome att => cases burdens

end Steps

end Accumulates

/-- Admission is antitone: whatever an agent is delivered or begins, nobody's request is judged more
    permissively afterwards. -/
theorem admission_antitone {c : KernelCommand} {r : KernelAction} (burdens : c.burdens = true)
    (accepted : (kernel bg).step s c = .ok (s', r)) (a : AgentId) (snap : ActionPolicySnapshot)
    (egr : VecSet EgressKind) (authorized : Bool) :
    (beginVerdict s' bg a snap egr authorized).permissiveness ≤
      (beginVerdict s bg a snap egr authorized).permissiveness :=
  (Accumulates.of_step burdens accepted).verdict

/-- A bypassed delivery of restricted data, against a call that was allowed before. -/
theorem admission_antitone_sample :
    ∃ s' r, (kernel (sampleBackground.setMode .monitor)).step sampleState
        (.ingest ⟨"worker"⟩ none .restricted .untrusted) = .ok (s', r) ∧
      (beginVerdict s' (sampleBackground.setMode .monitor) ⟨"worker"⟩ sampleSnapshot
        (VecSet.fromIter [.networkExternal]) true).permissiveness ≤
      (beginVerdict sampleState (sampleBackground.setMode .monitor) ⟨"worker"⟩ sampleSnapshot
        (VecSet.fromIter [.networkExternal]) true).permissiveness := by
  have delivered : (kernel (sampleBackground.setMode .monitor)).step sampleState
      (.ingest ⟨"worker"⟩ none .restricted .untrusted) =
        .ok (absorb sampleState ⟨"worker"⟩ .restricted .untrusted .monitorBypassed,
          .ingest ⟨"worker"⟩ none .restricted .untrusted .monitorBypassed) := by decide
  exact ⟨_, _, delivered, admission_antitone rfl delivered _ _ _ _⟩

end Argus
