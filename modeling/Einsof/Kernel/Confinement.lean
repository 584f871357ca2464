import Einsof.Base.Confinement
import Einsof.Kernel.Effects

namespace Argus

inductive Label
  | conf (l : ConfLevel)
  | integ (l : IntegLevel)

def KernelState.Holds (s : KernelState) (a : AgentId) : Label → Prop
  | .conf l => s.Taints a l
  | .integ l => s.Integs a l

/-- The labels a record's owner absorbs when it settles. -/
def PendingInvocation.Outputs (j : PendingInvocation) : Label → Prop
  | .conf l => l = j.policy.outputConf
  | .integ l => l = j.policy.outputInteg

def BackgroundTheory.Admits (bg : BackgroundTheory) (j : PendingInvocation) : Label → Prop
  | .conf l => bg.FlowHolds j l ∧ j.ClearHolds l
  | .integ l => j.IntegHolds l

/-- The kernel's gates as a label dimension over its pending records. -/
def gates (bg : BackgroundTheory) : Dimension AgentId PendingInvocation Label where
  owner j := j.agent
  contained j := j.disposition = .permitted
  outputs := PendingInvocation.Outputs
  admits := bg.Admits

/-- The live gate a record passed when it was admitted, read against the state before admission. -/
structure Admitted (s : KernelState) (bg : BackgroundTheory) (j : PendingInvocation) : Prop where
  authorized : j.authorized = true
  capable : ∀ c ∈ j.policy.requiredCaps, s.HasCap j.agent c
  clear : ∀ l ∈ s.speculativeTaint j.agent, j.ClearHolds l
  clearOthers : s.PendingOf j.agent (·.ClearHolds j.policy.outputConf)
  clearSelf : j.ClearHolds j.policy.outputConf
  flow : ∀ l ∈ s.speculativeTaint j.agent, bg.FlowHolds j l
  flowOthers : s.PendingOf j.agent (bg.FlowHolds · j.policy.outputConf)
  flowSelf : bg.FlowHolds j j.policy.outputConf
  integ : ∀ l ∈ s.speculativeInteg j.agent, j.IntegHolds l
  integOthers : s.PendingOf j.agent (·.IntegHolds j.policy.outputInteg)
  integSelf : j.IntegHolds j.policy.outputInteg

theorem BackgroundTheory.FlowArm.holds {bg : BackgroundTheory} {strict v w : Bool} {l : ConfLevel}
    {e : EgressKind} (arm : bg.FlowArm strict v l e) (vouched : strict = false → v = true → w = true) :
    bg.flowAllows l e = true ∨ (bg.flowInspects l e = true ∧ w = true) := by
  rcases arm with allows | ⟨lax, inspects, known⟩
  · exact .inl allows
  · exact .inr ⟨inspects, vouched lax known⟩

theorem ActionPolicySnapshot.IntegArm.holds {j : PendingInvocation} {strict v : Bool} {l : IntegLevel}
    (arm : j.policy.IntegArm strict v l) (vouched : strict = false → v = true → j.vouched = true) :
    j.IntegHolds l := by
  rcases arm with allows | ⟨lax, inspects, known⟩
  · exact .inl allows
  · exact .inr ⟨inspects, vouched lax known⟩

theorem Admitted.of_gate {s : KernelState} {bg : BackgroundTheory} {j : PendingInvocation}
    {strict : Bool} (vouched : strict = false → j.vouched = true) (authorized : j.authorized = true)
    (capable : checkCapability s j.agent j.policy = true)
    (clear : checkClearance s j.agent j.policy = true)
    (flow : checkFlow s bg j.agent j.policy j.egress strict = true)
    (integ : checkInteg s j.agent j.policy strict = true) : Admitted s bg j := by
  obtain ⟨clear₁, clear₂, clear₃⟩ := checkClearance_iff.mp clear
  obtain ⟨flow₁, flow₂, flow₃⟩ := checkFlow_iff.mp flow
  obtain ⟨integ₁, integ₂, integ₃⟩ := checkInteg_iff.mp integ
  exact
    { authorized
      capable := checkCapability_iff.mp capable
      clear := clear₁
      clearOthers := clear₂
      clearSelf := clear₃
      flow := fun l held e member => (flow₁ l held e member).holds fun lax _ => vouched lax
      flowOthers := fun i k present own e member => (flow₂ i k present own e member).holds fun _ h => h
      flowSelf := fun e member => (flow₃ e member).holds fun lax _ => vouched lax
      integ := fun l held => (integ₁ l held).holds fun lax _ => vouched lax
      integOthers := fun i k present own => (integ₂ i k present own).holds fun _ h => h
      integSelf := integ₃.holds fun lax _ => vouched lax }

theorem admitted_of_allow {s : KernelState} {bg : BackgroundTheory} {a : AgentId}
    {snap : ActionPolicySnapshot} {egr : VecSet EgressKind} {authorized : Bool}
    (allow : beginVerdict s bg a snap egr authorized = .allow) :
    Admitted s bg ⟨a, snap, egr, .plain, .permitted, authorized, false⟩ := by
  have strict : beginStrict s bg a snap egr authorized = true := by
    unfold beginVerdict at allow
    split at allow
    · assumption
    · split at allow <;> cases allow
  simp only [beginStrict, Bool.and_eq_true] at strict
  rcases strict with ⟨⟨⟨⟨capable, authorized⟩, clear⟩, flow⟩, integ⟩
  exact Admitted.of_gate (fun lax => absurd lax (by decide)) authorized capable clear flow integ

theorem admitted_of_inspected {s : KernelState} {bg : BackgroundTheory} {inv : InvocationId}
    {sc : ChallengeScope} {x : AttestationId} (admits : authorizeAdmits s bg inv sc = true) :
    Admitted s bg ⟨sc.agent, sc.policy, sc.egress, .inspected x, .permitted, sc.authorized, false⟩ := by
  have gate : beginAdmissible s bg sc.agent sc.policy sc.egress sc.authorized = true := by
    simp only [authorizeAdmits, Bool.and_eq_true] at admits
    exact admits.2
  simp only [beginAdmissible, Bool.and_eq_true] at gate
  rcases gate with ⟨⟨⟨⟨capable, authorized⟩, clear⟩, flow⟩, integ⟩
  exact Admitted.of_gate (fun _ => rfl) authorized capable clear flow integ

/-- A step moves the labels and the pending records by one of the confinement-keeping moves. -/
def LabelStep (bg : BackgroundTheory) (s s' : KernelState) : Prop :=
  (gates bg).Step s.Holds s.pending.get s'.Holds s'.pending.get

theorem holds_ext {s s' : KernelState} (taint : s'.taintLevels = s.taintLevels)
    (integ : s'.integLevels = s.integLevels) : s'.Holds = s.Holds := by
  funext a l
  cases l <;> simp only [KernelState.Holds, KernelState.Taints, KernelState.Integs, taint, integ]

namespace LabelStep

variable {bg : BackgroundTheory} {s s' : KernelState}

theorem of_same (items : s'.pending = s.pending) (taint : s'.taintLevels = s.taintLevels)
    (integ : s'.integLevels = s.integLevels) : LabelStep bg s s' := by
  refine .restrict ?_ (fun a l held => holds_ext taint integ ▸ held)
  intro i j' present permitted
  exact ⟨j', items ▸ present, permitted, rfl, fun _ h => h, fun _ h => h⟩

theorem of_filter {a : AgentId}
    (items : ∀ i, s'.pending.get i = (s.pending.get i).filter (·.agent ≠ a))
    (taint : ∀ b l, s'.Taints b l ↔ s.Taints b l ∧ b ≠ a)
    (integ : ∀ b l, s'.Integs b l ↔ s.Integs b l ∧ b ≠ a) : LabelStep bg s s' := by
  refine .restrict ?_ ?_
  · intro i j' present permitted
    rw [items, Option.filter_eq_some_iff] at present
    exact ⟨j', present.1, permitted, rfl, fun _ h => h, fun _ h => h⟩
  · intro b label held
    rcases label with l | l
    · exact ((taint b l).mp held).1
    · exact ((integ b l).mp held).1

/-- A release into `a` under its holds, or one that demotes `a`'s records. -/
theorem of_release {a : AgentId} {d : Disposition} {conf : ConfLevel → Prop} {integs : IntegLevel → Prop}
    (items : ∀ i, s'.pending.get i = (s.pending.get i).map (demotedIf (d = .monitorBypassed) a))
    (taint : ∀ b l, s'.Taints b l ↔ s.Taints b l ∨ (b = a ∧ conf l))
    (integ : ∀ b l, s'.Integs b l ↔ s.Integs b l ∨ (b = a ∧ integs l))
    (decides : HoldDecides bg ((∀ l, conf l → s.PendingOf a (bg.FlowHolds · l) ∧
      s.PendingOf a (·.ClearHolds l)) ∧ ∀ l, integs l → s.PendingOf a (·.IntegHolds l)) d) :
    LabelStep bg s s' := by
  rcases decides with ⟨holds, rfl⟩ | ⟨-, -, rfl⟩
  · refine .absorb ?_ ?_
    · funext i
      have same : demotedIf (Disposition.permitted = .monitorBypassed) a = id := by
        funext j; simp [demotedIf]
      rw [items, same, Option.map_id_fun, id_eq]
    · intro i j present _ label held
      rcases label with l | l
      · refine ((taint _ l).mp held).imp_right ?_
        intro facts
        rcases facts with ⟨own, released⟩
        exact ⟨(holds.1 l released).1 i j present own, (holds.1 l released).2 i j present own⟩
      · refine ((integ _ l).mp held).imp_right ?_
        intro facts
        rcases facts with ⟨own, released⟩
        exact holds.2 l released i j present own
  · refine .demote a ?_ ?_
    · intro i j present permitted
      rw [items, Option.map_eq_some_iff] at present
      rcases present with ⟨k, earlier, rfl⟩
      simp only [demotedIf, if_true] at permitted ⊢
      obtain ⟨other, same⟩ := KernelState.demoted_permitted permitted
      rw [same]
      exact ⟨other, earlier⟩
    · intro b label other held
      rcases label with l | l
      · exact ((taint b l).mp held).resolve_right fun own => other own.1
      · exact ((integ b l).mp held).resolve_right fun own => other own.1

theorem of_entry {inv : InvocationId} {j : PendingInvocation} (gate : Admitted s bg j)
    (items : ∀ i, s'.pending.get i = if i = inv then some j else s.pending.get i)
    (taint : s'.taintLevels = s.taintLevels) (integ : s'.integLevels = s.integLevels) :
    LabelStep bg s s' := by
  refine .enter inv j (holds_ext taint integ) ?_ ?_ ?_ ?_
  · intro i j' present
    rw [items] at present
    split at present
    · rename_i here
      cases present
      exact .inl ⟨here, rfl⟩
    · exact .inr present
  · intro i k present _ own label out
    rcases label with l | l
    · cases out
      exact ⟨gate.flowOthers i k present own, gate.clearOthers i k present own⟩
    · cases out
      exact gate.integOthers i k present own
  · intro label exposed
    rcases label with l | l
    · have speculative : l ∈ s.speculativeTaint j.agent := by
        rw [KernelState.mem_speculativeTaint]
        rcases exposed with held | ⟨i, k, present, own, _, out⟩
        · exact .inl held
        · exact .inr ⟨i, k, present, own, out.symm⟩
      exact ⟨gate.flow l speculative, gate.clear l speculative⟩
    · have speculative : l ∈ s.speculativeInteg j.agent := by
        rw [KernelState.mem_speculativeInteg]
        rcases exposed with held | ⟨i, k, present, own, _, out⟩
        · exact .inl held
        · exact .inr ⟨i, k, present, own, out.symm⟩
      exact gate.integ l speculative
  · intro label out
    rcases label with l | l
    · cases out
      exact ⟨gate.flowSelf, gate.clearSelf⟩
    · cases out
      exact gate.integSelf

theorem of_settle_permitted {inv : InvocationId} {outcome : Outcome} {att : Option ResolutionAttestation}
    {j : PendingInvocation} (present : s.pending.get inv = some j)
    (permitted : j.disposition = .permitted) : LabelStep bg s (settled s inv outcome att j) := by
  have kept : ∀ i, (settled s inv outcome att j).pending.get i = if i = inv then
      if outcome = .ambiguous then some { j with quarantined := true } else none
    else s.pending.get i := by
    intro i
    have same : demotedIf (j.disposition ≠ .permitted) j.agent = id := by
      funext k; simp [demotedIf, permitted]
    rw [settled_pending, same, Option.map_id_fun, id_eq]
  by_cases ambiguous : outcome = .ambiguous
  · refine .restrict ?_ ?_
    · intro i j' now claims
      rw [kept, if_pos ambiguous] at now
      split at now
      · rename_i same
        subst same
        cases now
        exact ⟨j, present, permitted, rfl, fun l h => by cases l <;> exact h,
          fun l h => by cases l <;> exact h⟩
      · exact ⟨j', now, claims, rfl, fun _ h => h, fun _ h => h⟩
    · intro b label held
      rcases label with l | l
      · exact (settled_taints.mp held).resolve_right fun own => own.1 ambiguous
      · exact (settled_integs.mp held).resolve_right fun own => own.1 ambiguous
  · refine .settle inv j present permitted ?_ ?_
    · intro i j' now
      rw [kept, if_neg ambiguous] at now
      split at now
      · cases now
      · exact now
    · intro b label held
      rcases label with l | l
      · exact (settled_taints.mp held).imp_right And.right
      · exact (settled_integs.mp held).imp_right And.right

/-- Settling a bypassed record gives up its owner's other claims. -/
theorem of_settle_bypassed {inv : InvocationId} {outcome : Outcome} {att : Option ResolutionAttestation}
    {j : PendingInvocation} (bypassed : j.disposition ≠ .permitted) :
    LabelStep bg s (settled s inv outcome att j) := by
  refine .demote j.agent ?_ ?_
  · intro i k now claims
    rw [settled_pending, Option.map_eq_some_iff] at now
    rcases now with ⟨k, earlier, rfl⟩
    simp only [demotedIf, bypassed, ne_eq, not_false_eq_true, if_true] at claims ⊢
    obtain ⟨other, same⟩ := KernelState.demoted_permitted claims
    rw [same]
    refine ⟨other, ?_⟩
    split at earlier
    · split at earlier
      · cases earlier
        exact absurd rfl other
      · cases earlier
    · exact earlier
  · intro b label other held
    rcases label with l | l
    · exact (settled_taints.mp held).resolve_right fun own => other own.2.1
    · exact (settled_integs.mp held).resolve_right fun own => other own.2.1

theorem of_begin {a : AgentId} {inv : InvocationId} {chal : ChallengeId}
    {snap : ActionPolicySnapshot} {egr : VecSet EgressKind} {ah : ContentHash} {authorized : Bool}
    (effect : BeginEffect s a inv chal snap egr ah authorized (beginVerdict s bg a snap egr authorized)
      bg.mode s') : LabelStep bg s s' := by
  generalize same : beginVerdict s bg a snap egr authorized = verdict at effect
  generalize bg.mode = mode at effect
  cases effect with
  | permit => exact .of_entry (admitted_of_allow same) (fun _ => pend_pending) rfl rfl
  | inspect => exact .of_same rfl rfl rfl
  | bypass =>
    refine .restrict ?_ (fun _ _ held => holds_ext rfl rfl ▸ held)
    intro i j' present permitted
    rw [pend_pending] at present
    split at present
    · cases present
      cases permitted
    · exact ⟨j', present, permitted, rfl, fun _ h => h, fun _ h => h⟩

theorem of_resolve {inv : InvocationId} {sc : ChallengeScope} {x : AttestationId} {admitted : Bool}
    (gate : admitted = true → authorizeAdmits s bg inv sc = true) :
    LabelStep bg s (resolve s inv sc x admitted) := by
  cases admitted with
  | true =>
    exact .of_entry (admitted_of_inspected (gate rfl)) (fun _ => VecMap.get_insert _ _ _ _) rfl rfl
  | false => exact .of_same rfl rfl rfl

end LabelStep

theorem label_step {bg : BackgroundTheory} {s s' : KernelState} {c : KernelCommand} {r : KernelAction}
    (accepted : (kernel bg).step s c = .ok (s', r)) : LabelStep bg s s' := by
  cases c with
  | registerTool tool =>
    obtain ⟨-, rfl, -⟩ := registerTool_ok.mp accepted
    exact .of_same rfl rfl rfl
  | unregisterTool tool =>
    obtain ⟨-, -, -, rfl, -⟩ := unregisterTool_ok.mp accepted
    exact .of_same rfl rfl rfl
  | delegate grantor grantee =>
    obtain ⟨-, -, -, -, rfl, -⟩ := delegate_ok.mp accepted
    exact .of_filter (fun _ => enroll_pending) (fun _ _ => enroll_taints) (fun _ _ => enroll_integs)
  | grantCapability parent child cap =>
    obtain ⟨-, -, -, -, rfl, -⟩ := grantCapability_ok.mp accepted
    exact .of_same rfl rfl rfl
  | grantCrossing grantor agent assignment n =>
    obtain ⟨-, -, -, rfl, -⟩ := grantCrossing_ok.mp accepted
    exact .of_same rfl rfl rfl
  | revoke parent target =>
    obtain ⟨-, -, -, -, rfl, -⟩ := revoke_ok.mp accepted
    exact .of_filter (fun _ => clearAgent_pending) (fun _ _ => clearAgent_taints)
      (fun _ _ => clearAgent_integs)
  | cascadeRevoke child parent =>
    obtain ⟨-, -, -, -, rfl, -⟩ := cascadeRevoke_ok.mp accepted
    exact .of_filter (fun _ => clearAgent_pending) (fun _ _ => clearAgent_taints)
      (fun _ _ => clearAgent_integs)
  | ingest a src l li =>
    obtain ⟨-, -, d, decides, rfl, -⟩ := ingest_ok.mp accepted
    refine .of_release (fun _ => absorb_pending) (fun _ _ => absorb_taints) (fun _ _ => absorb_integs) ?_
    simpa only [forall_eq, and_assoc] using decides
  | settleInvocation inv outcome att =>
    obtain ⟨j, present, -, -, -, rfl, -⟩ := settleInvocation_ok.mp accepted
    by_cases permitted : j.disposition = .permitted
    · exact .of_settle_permitted present permitted
    · exact .of_settle_bypassed permitted
  | beginInvocation a inv chal snap egr ah authorized =>
    obtain ⟨-, effect, -⟩ := beginInvocation_ok.mp accepted
    exact .of_begin effect
  | authorizeInspected inv att =>
    obtain ⟨sc, -, -, -, rfl, -⟩ := authorizeInspected_ok.mp accepted
    exact .of_resolve fun admitted => (Bool.and_eq_true_iff.mp admitted).2
  | crossOutput q =>
    obtain ⟨-, -, -, -, -, d, decides, rfl, -⟩ := crossOutput_ok.mp accepted
    rw [crossHolds_iff] at decides
    exact .of_release (fun _ => crossed_pending) (fun _ _ => crossed_taints) (fun _ _ => crossed_integs)
      decides

theorem gates_confined {bg : BackgroundTheory} {s : KernelState} (reach : (kernel bg).Reachable s) :
    (gates bg).Confined s.Holds s.pending.get :=
  reach.invariant (.initial fun _ => rfl) fun _ _ _ _ before accepted =>
    (label_step accepted).confined before

/-- Where a pending record of the new state comes from. -/
inductive RecordOrigin (bg : BackgroundTheory) (s : KernelState) (i : InvocationId)
    (j' : PendingInvocation) : Prop
  | kept (j : PendingInvocation) (earlier : s.pending.get i = some j)
      (same : j' = { j with disposition := j'.disposition, quarantined := j'.quarantined })
      (claim : j'.disposition = j.disposition ∨ j'.disposition = .monitorBypassed)
  | admitted (gate : Admitted s bg j') (claim : j'.disposition = .permitted)
  | bypassed (monitor : bg.mode = .monitor) (claim : j'.disposition = .monitorBypassed)

namespace RecordOrigin

variable {bg : BackgroundTheory} {s : KernelState} {i : InvocationId} {j' : PendingInvocation}

theorem of_same (present : s.pending.get i = some j') : RecordOrigin bg s i j' :=
  .kept j' present rfl (.inl rfl)

theorem of_filter {a : AgentId} (present : (s.pending.get i).filter (·.agent ≠ a) = some j') :
    RecordOrigin bg s i j' := by
  rw [Option.filter_eq_some_iff] at present
  exact .of_same present.1

theorem of_demotion {p : Prop} [Decidable p] {a : AgentId}
    (present : (s.pending.get i).map (demotedIf p a) = some j') : RecordOrigin bg s i j' := by
  obtain ⟨j, earlier, rfl⟩ := Option.map_eq_some_iff.mp present
  refine .kept j earlier ?_ (demotedIf_disposition p a j)
  rw [demotedIf_quarantined]
  exact demotedIf_eq p a j

theorem of_settle {inv : InvocationId} {outcome : Outcome} {att : Option ResolutionAttestation}
    {j : PendingInvocation} (open_ : s.pending.get inv = some j)
    (present : (settled s inv outcome att j).pending.get i = some j') : RecordOrigin bg s i j' := by
  rw [settled_pending, Option.map_eq_some_iff] at present
  rcases present with ⟨k, earlier, rfl⟩
  have origin : ∃ j₀, s.pending.get i = some j₀ ∧ k = { j₀ with quarantined := k.quarantined } := by
    split at earlier
    · split at earlier
      · rename_i here _
        cases earlier
        exact ⟨j, here ▸ open_, rfl⟩
      · cases earlier
    · exact ⟨k, earlier, rfl⟩
  rcases origin with ⟨j₀, was, same⟩
  have disposed : k.disposition = j₀.disposition := by rw [same]
  refine .kept j₀ was ?_ ?_
  · rw [demotedIf_eq, same]
  · rw [← disposed]
    exact demotedIf_disposition _ _ _

end RecordOrigin

theorem record_step {bg : BackgroundTheory} {s s' : KernelState} {c : KernelCommand} {r : KernelAction}
    (accepted : (kernel bg).step s c = .ok (s', r)) {i : InvocationId} {j' : PendingInvocation}
    (present : s'.pending.get i = some j') : RecordOrigin bg s i j' := by
  cases c with
  | registerTool tool =>
    obtain ⟨-, rfl, -⟩ := registerTool_ok.mp accepted
    exact .of_same present
  | unregisterTool tool =>
    obtain ⟨-, -, -, rfl, -⟩ := unregisterTool_ok.mp accepted
    exact .of_same present
  | delegate grantor grantee =>
    obtain ⟨-, -, -, -, rfl, -⟩ := delegate_ok.mp accepted
    exact .of_filter (enroll_pending.symm.trans present)
  | grantCapability parent child cap =>
    obtain ⟨-, -, -, -, rfl, -⟩ := grantCapability_ok.mp accepted
    exact .of_same present
  | grantCrossing grantor agent assignment n =>
    obtain ⟨-, -, -, rfl, -⟩ := grantCrossing_ok.mp accepted
    exact .of_same present
  | revoke parent target =>
    obtain ⟨-, -, -, -, rfl, -⟩ := revoke_ok.mp accepted
    exact .of_filter (clearAgent_pending.symm.trans present)
  | cascadeRevoke child parent =>
    obtain ⟨-, -, -, -, rfl, -⟩ := cascadeRevoke_ok.mp accepted
    exact .of_filter (clearAgent_pending.symm.trans present)
  | ingest a src l li =>
    obtain ⟨-, -, d, -, rfl, -⟩ := ingest_ok.mp accepted
    exact .of_demotion (absorb_pending.symm.trans present)
  | settleInvocation inv outcome att =>
    obtain ⟨j, open_, -, -, -, rfl, -⟩ := settleInvocation_ok.mp accepted
    exact .of_settle open_ present
  | beginInvocation a inv chal snap egr ah authorized =>
    obtain ⟨-, effect, -⟩ := beginInvocation_ok.mp accepted
    generalize same : beginVerdict s bg a snap egr authorized = verdict at effect
    generalize moded : bg.mode = mode at effect
    cases effect with
    | inspect => exact .of_same present
    | permit =>
      rw [pend_pending] at present
      split at present
      · cases present
        exact .admitted (admitted_of_allow same) rfl
      · exact .of_same present
    | bypass =>
      rw [pend_pending] at present
      split at present
      · cases present
        exact .bypassed moded rfl
      · exact .of_same present
  | authorizeInspected inv att =>
    obtain ⟨sc, -, -, -, rfl, -⟩ := authorizeInspected_ok.mp accepted
    rw [resolve_pending] at present
    split at present
    · rename_i here
      cases present
      exact .admitted (admitted_of_inspected (Bool.and_eq_true_iff.mp here.2).2) rfl
    · exact .of_same present
  | crossOutput q =>
    obtain ⟨-, -, -, -, -, d, -, rfl, -⟩ := crossOutput_ok.mp accepted
    exact .of_demotion (crossed_pending.symm.trans present)

/-- The owner of a record that is still pending has lost no capability. -/
theorem caps_step {bg : BackgroundTheory} {s s' : KernelState} {c : KernelCommand} {r : KernelAction}
    (accepted : (kernel bg).step s c = .ok (s', r)) {i : InvocationId} {j' : PendingInvocation}
    (present : s'.pending.get i = some j') {cap : CapKind} (held : s.HasCap j'.agent cap) :
    s'.HasCap j'.agent cap := by
  cases c with
  | delegate grantor grantee =>
    obtain ⟨-, -, -, -, rfl, -⟩ := delegate_ok.mp accepted
    rw [enroll_pending, Option.filter_eq_some_iff, decide_eq_true_eq] at present
    exact enroll_hasCap.mpr ⟨held, present.2⟩
  | revoke parent target =>
    obtain ⟨-, -, -, -, rfl, -⟩ := revoke_ok.mp accepted
    rw [clearAgent_pending, Option.filter_eq_some_iff, decide_eq_true_eq] at present
    exact clearAgent_hasCap.mpr ⟨held, present.2⟩
  | cascadeRevoke child parent =>
    obtain ⟨-, -, -, -, rfl, -⟩ := cascadeRevoke_ok.mp accepted
    rw [clearAgent_pending, Option.filter_eq_some_iff, decide_eq_true_eq] at present
    exact clearAgent_hasCap.mpr ⟨held, present.2⟩
  | grantCapability parent child granted =>
    obtain ⟨-, -, -, -, rfl, -⟩ := grantCapability_ok.mp accepted
    exact VecMap.mem_insertInto.mpr (.inl held)
  | registerTool tool =>
    obtain ⟨-, rfl, -⟩ := registerTool_ok.mp accepted
    exact held
  | unregisterTool tool =>
    obtain ⟨-, -, -, rfl, -⟩ := unregisterTool_ok.mp accepted
    exact held
  | grantCrossing grantor agent assignment n =>
    obtain ⟨-, -, -, rfl, -⟩ := grantCrossing_ok.mp accepted
    exact held
  | ingest a src l li =>
    obtain ⟨-, -, d, -, rfl, -⟩ := ingest_ok.mp accepted
    rwa [absorb_eq]
  | settleInvocation inv outcome att =>
    obtain ⟨j, -, -, -, -, rfl, -⟩ := settleInvocation_ok.mp accepted
    rwa [settled_eq]
  | beginInvocation a inv chal snap egr ah authorized =>
    obtain ⟨-, effect, -⟩ := beginInvocation_ok.mp accepted
    rwa [effect.frame]
  | authorizeInspected inv att =>
    obtain ⟨sc, -, -, -, rfl, -⟩ := authorizeInspected_ok.mp accepted
    exact held
  | crossOutput q =>
    obtain ⟨-, -, -, -, -, d, -, rfl, -⟩ := crossOutput_ok.mp accepted
    rwa [crossed_eq]

/-- A permitted record was authorized and its agent holds what its policy requires. -/
def Empowered (s : KernelState) : Prop :=
  ∀ i j, s.pending.get i = some j → j.disposition = .permitted →
    j.authorized = true ∧ ∀ c ∈ j.policy.requiredCaps, s.HasCap j.agent c

theorem permitted_empowered {bg : BackgroundTheory} {s : KernelState} (reach : (kernel bg).Reachable s) :
    Empowered s := by
  refine reach.invariant (fun i j present => by cases present) ?_
  intro s c s' r before accepted i j' present permitted
  cases record_step accepted present with
  | kept j earlier same claim =>
    have was : j.disposition = .permitted := by
      rcases claim with claim | claim
      · rw [← claim, permitted]
      · rw [permitted] at claim
        cases claim
    obtain ⟨authorized, capable⟩ := before i j earlier was
    rw [same] at present ⊢
    exact ⟨authorized, fun cap required => caps_step accepted present (capable cap required)⟩
  | admitted gate claim =>
    exact ⟨gate.authorized, fun cap required => caps_step accepted present (gate.capable cap required)⟩
  | bypassed monitor claim =>
    rw [permitted] at claim
    cases claim

/-- Confidentiality confinement: whatever a permitted record's agent holds, or will hold once its
    permitted records finish, may leave by every egress channel of the record and is cleared for it. -/
theorem confidentiality_confined {bg : BackgroundTheory} {s : KernelState}
    (reach : (kernel bg).Reachable s) {i : InvocationId} {j : PendingInvocation}
    (present : s.pending.get i = some j) (permitted : j.disposition = .permitted) {l : ConfLevel}
    (exposed : s.Taints j.agent l ∨ ∃ k other, s.pending.get k = some other ∧
      other.agent = j.agent ∧ other.disposition = .permitted ∧ other.policy.outputConf = l) :
    (∀ e ∈ j.egress, (∃ c, bg.allowCeiling.get e = some c ∧ l ≤ c) ∨
      ((∃ c, bg.inspectCeiling.get e = some c ∧ l ≤ c) ∧ ∃ x, j.admission = .inspected x)) ∧
    l ≤ j.policy.confClearance := by
  obtain ⟨flow, clear⟩ := gates_confined reach i j present permitted (.conf l) (exposed.imp_right
    fun ⟨k, other, there, own, claims, out⟩ => ⟨k, other, there, own, claims, out.symm⟩)
  refine ⟨fun e member => ?_, clear⟩
  rw [← BackgroundTheory.flowAllows_iff, ← BackgroundTheory.flowInspects_iff,
    ← PendingInvocation.vouched_iff]
  exact flow e member

/-- A worker holding internal data, with one permitted invocation on a declared channel. -/
def sampleBackground : BackgroundTheory :=
  BackgroundTheory.builder.setEgressCeilings .networkExternal (some .«internal») (some .sensitive)

def sampleSnapshot : ActionPolicySnapshot where
  tool := ⟨"mailer"⟩
  requiredCaps := VecSet.fromIter [.networkEgress]
  confClearance := .sensitive
  integFloor := .standard
  integInspect := .untrusted
  outputConf := .«internal»
  outputInteg := .trusted
  declaredEgress := VecSet.fromIter [.networkExternal]
  policyDigest := ⟨"policy"⟩

def sampleCommands : List KernelCommand :=
  [.registerTool ⟨"mailer"⟩, .delegate AgentId.root ⟨"worker"⟩,
    .grantCapability AgentId.root ⟨"worker"⟩ .networkEgress,
    .ingest ⟨"worker"⟩ none .«internal» .trusted,
    .beginInvocation ⟨"worker"⟩ ⟨"call"⟩ ⟨"challenge"⟩ sampleSnapshot
      (VecSet.fromIter [.networkExternal]) ⟨"args"⟩ true]

def sampleState : KernelState := ((kernel sampleBackground).drive KernelState.initial sampleCommands).1

/-- The worker's first call is settled; it takes in more, has a second call inspected and loses sight of
    it, and waits for the inspection of a third. -/
def workedCommands : List KernelCommand :=
  sampleCommands ++
    [.settleInvocation ⟨"call"⟩ .success none,
      .ingest ⟨"worker"⟩ none .sensitive .trusted,
      .beginInvocation ⟨"worker"⟩ ⟨"second"⟩ ⟨"challenge"⟩ sampleSnapshot
        (VecSet.fromIter [.networkExternal]) ⟨"args"⟩ true,
      .beginInvocation ⟨"worker"⟩ ⟨"third"⟩ ⟨"challenge"⟩ sampleSnapshot
        (VecSet.fromIter [.networkExternal]) ⟨"args"⟩ true,
      .authorizeInspected ⟨"second"⟩ ⟨⟨"look"⟩, ⟨"second"⟩, ⟨"challenge"⟩, ⟨"args"⟩, ⟨"policy"⟩, true⟩,
      .settleInvocation ⟨"second"⟩ .ambiguous none]

def workedState : KernelState := ((kernel sampleBackground).drive KernelState.initial workedCommands).1

def workedActions : List KernelAction :=
  ((kernel sampleBackground).drive KernelState.initial workedCommands).2

theorem worked_run : (kernel sampleBackground).Run (workedCommands.zip workedActions) workedState := by
  have all : ((kernel sampleBackground).drive KernelState.initial workedCommands).2.length =
      workedCommands.length := by decide
  exact Machine.Run.start.drive_all all

def sampleRecord : PendingInvocation :=
  ⟨⟨"worker"⟩, sampleSnapshot, VecSet.fromIter [.networkExternal], .plain, .permitted, true, false⟩

theorem sample_pending : sampleState.pending.get ⟨"call"⟩ = some sampleRecord := by decide

theorem confidentiality_confined_sample :
    (∀ e ∈ sampleRecord.egress,
      (∃ c, sampleBackground.allowCeiling.get e = some c ∧ ConfLevel.«internal» ≤ c) ∨
      ((∃ c, sampleBackground.inspectCeiling.get e = some c ∧ ConfLevel.«internal» ≤ c) ∧
        ∃ x, sampleRecord.admission = .inspected x)) ∧
    ConfLevel.«internal» ≤ sampleRecord.policy.confClearance :=
  confidentiality_confined (Machine.drive_reachable (kernel sampleBackground) sampleCommands)
    sample_pending rfl (.inl (by decide))

/-- Integrity confinement, the dual statement, and the authority a permitted record rests on. -/
theorem integrity_confined {bg : BackgroundTheory} {s : KernelState}
    (reach : (kernel bg).Reachable s) {i : InvocationId} {j : PendingInvocation}
    (present : s.pending.get i = some j) (permitted : j.disposition = .permitted) :
    (∀ l, (s.Integs j.agent l ∨ ∃ k other, s.pending.get k = some other ∧ other.agent = j.agent ∧
        other.disposition = .permitted ∧ other.policy.outputInteg = l) →
      j.policy.integFloor ≤ l ∨ (j.policy.integInspect ≤ l ∧ ∃ x, j.admission = .inspected x)) ∧
    j.authorized = true ∧ ∀ c ∈ j.policy.requiredCaps, s.HasCap j.agent c := by
  refine ⟨fun l exposed => ?_, permitted_empowered reach i j present permitted⟩
  rw [← PendingInvocation.vouched_iff]
  exact gates_confined reach i j present permitted (.integ l) (exposed.imp_right
    fun ⟨k, other, there, own, claims, out⟩ => ⟨k, other, there, own, claims, out.symm⟩)

theorem integrity_confined_sample :
    (∀ l, (sampleState.Integs sampleRecord.agent l ∨ ∃ k other, sampleState.pending.get k = some other ∧
        other.agent = sampleRecord.agent ∧ other.disposition = .permitted ∧
        other.policy.outputInteg = l) →
      sampleRecord.policy.integFloor ≤ l ∨
        (sampleRecord.policy.integInspect ≤ l ∧ ∃ x, sampleRecord.admission = .inspected x)) ∧
    sampleRecord.authorized = true ∧
    ∀ c ∈ sampleRecord.policy.requiredCaps, sampleState.HasCap sampleRecord.agent c :=
  integrity_confined (Machine.drive_reachable (kernel sampleBackground) sampleCommands) sample_pending rfl

end Argus
