import Einsof.Kernel.Transitions

namespace Argus

theorem latch_iff {ok : Bool} {p : Prop} [Decidable p] :
    (if ¬ p then false else ok) = true ↔ ok = true ∧ p := by
  by_cases h : p <;> simp [h]

/-- The two arms of a gate: the strict one allows, the other also inspects a vouched party. -/
theorem arm_iff {strict allows inspects vouched : Bool} :
    (if strict = true then allows else allows || (inspects && vouched)) = true ↔
      allows = true ∨ (strict = false ∧ inspects = true ∧ vouched = true) := by
  cases strict <;> simp

theorem arm_self_iff {strict allows inspects : Bool} :
    (if strict = true then allows else allows || inspects) = true ↔
      allows = true ∨ (strict = false ∧ inspects = true ∧ true = true) := by
  cases strict <;> simp

/-- The flow gate of one record against one level: every attested channel allows it, or inspects it
    with the record vouched. -/
def BackgroundTheory.FlowHolds (bg : BackgroundTheory) (j : PendingInvocation) (l : ConfLevel) : Prop :=
  ∀ e ∈ j.egress, bg.flowAllows l e = true ∨ (bg.flowInspects l e = true ∧ j.vouched = true)

def PendingInvocation.ClearHolds (j : PendingInvocation) (l : ConfLevel) : Prop :=
  l ≤ j.policy.confClearance

def PendingInvocation.IntegHolds (j : PendingInvocation) (l : IntegLevel) : Prop :=
  j.policy.integFloor ≤ l ∨ (j.policy.integInspect ≤ l ∧ j.vouched = true)

def KernelState.PendingOf (s : KernelState) (a : AgentId) (good : PendingInvocation → Prop) : Prop :=
  ∀ i j, s.pending.get i = some j → j.agent = a → good j

theorem toolInUse_iff {s : KernelState} {tool : ToolId} :
    toolInUse s tool = true ↔ (∃ i j, s.pending.get i = some j ∧ j.policy.tool = tool) ∨
      ∃ i sc, s.challenges.get i = some sc ∧ sc.policy.tool = tool := by
  simp only [toolInUse, VecMap.forEntries_latch_true, Bool.false_eq_true, false_or]

theorem isParent_iff {s : KernelState} {a : AgentId} :
    isParent s a = true ↔ ∃ child, s.agentParent.get child = some a := by
  simp only [isParent, VecMap.forEntries_latch_true, Bool.false_eq_true, false_or, exists_eq_right]

@[simp] theorem parentOk_iff {s : KernelState} {child parent : AgentId} :
    parentOk s child parent = true ↔ s.agentParent.get child = some parent := by
  unfold parentOk
  cases found : s.agentParent.get child <;> simp [found]

theorem srcInFlight_iff {s : KernelState} {src : AgentId} :
    srcInFlight s src = true ↔ ∃ i j, s.pending.get i = some j ∧ j.agent = src := by
  simp only [srcInFlight, VecMap.forEntries_latch_true, Bool.false_eq_true, false_or]

theorem ingestConfHold_iff {s : KernelState} {bg : BackgroundTheory} {a : AgentId} {l : ConfLevel} :
    ingestConfHold s bg a l = true ↔ s.PendingOf a (bg.FlowHolds · l) := by
  rw [ingestConfHold, VecMap.forEntries_all (fun _ j => j.agent = a → bg.FlowHolds j l)]
  · simp only [true_and, KernelState.PendingOf]
  · intro ok i j
    by_cases own : j.agent = a
    · simp only [own, if_true, VecSet.foldl_latch_items, not_not, BackgroundTheory.FlowHolds,
        Bool.or_eq_true, Bool.and_eq_true, forall_const]
    · simp only [own, if_false, false_implies, and_true]

theorem ingestClearHold_iff {s : KernelState} {a : AgentId} {l : ConfLevel} :
    ingestClearHold s a l = true ↔ s.PendingOf a (·.ClearHolds l) := by
  simp only [ingestClearHold, VecMap.forEntries_latch_false, true_and, not_and, not_not,
    ConfLevel.le_iff, KernelState.PendingOf, PendingInvocation.ClearHolds]

theorem ingestIntegHold_iff {s : KernelState} {a : AgentId} {l : IntegLevel} :
    ingestIntegHold s a l = true ↔ s.PendingOf a (·.IntegHolds l) := by
  rw [ingestIntegHold, VecMap.forEntries_all (fun _ j => j.agent = a → j.IntegHolds l)]
  · simp only [true_and, KernelState.PendingOf]
  · intro ok i j
    by_cases own : j.agent = a
    · simp only [own, if_true, latch_iff, Bool.or_eq_true, Bool.and_eq_true, IntegLevel.le_iff,
        PendingInvocation.IntegHolds, forall_const]
    · simp only [own, if_false, false_implies, and_true]

theorem ingestHolds_iff {s : KernelState} {bg : BackgroundTheory} {a : AgentId} {l : ConfLevel}
    {li : IntegLevel} : ingestHolds s bg a l li = true ↔ s.PendingOf a (bg.FlowHolds · l) ∧
      s.PendingOf a (·.ClearHolds l) ∧ s.PendingOf a (·.IntegHolds li) := by
  simp only [ingestHolds, Bool.and_eq_true, ingestConfHold_iff, ingestClearHold_iff,
    ingestIntegHold_iff, and_assoc]

theorem dominated_iff {s : KernelState} {src : Option AgentId} {l : ConfLevel} {li : IntegLevel} :
    dominated s src l li = true ↔ ∀ b, src = some b →
      (∀ k, s.Taints b k → k ≤ l) ∧ ∀ k, s.Integs b k → li ≤ k := by
  cases src with
  | none => simp [dominated]
  | some b =>
    simp only [dominated, VecSet.foldl_latch_items, not_not, true_and, ConfLevel.le_iff,
      IntegLevel.le_iff, Option.some.injEq, forall_eq', KernelState.Taints, KernelState.Integs]

/-- How a hold decides: permitted when it passes, bypassed when it fails under monitor mode. -/
def HoldDecides (bg : BackgroundTheory) (holds : Prop) (d : Disposition) : Prop :=
  (holds ∧ d = .permitted) ∨ (¬ holds ∧ bg.mode = .monitor ∧ d = .monitorBypassed)

theorem holdDisposition_eq_some {bg : BackgroundTheory} {holds : Bool} {d : Disposition} :
    holdDisposition bg holds = some d ↔ HoldDecides bg (holds = true) d := by
  unfold holdDisposition HoldDecides
  cases holds <;> by_cases monitor : bg.mode = .monitor <;> simp [monitor, eq_comm]

theorem checkCapability_iff {s : KernelState} {a : AgentId} {snap : ActionPolicySnapshot} :
    checkCapability s a snap = true ↔ ∀ c ∈ snap.requiredCaps, s.HasCap a c := by
  simp only [checkCapability, VecSet.foldl_latch_items, not_not, true_and, VecMap.setContains_iff,
    KernelState.HasCap]

theorem checkClearance_iff {s : KernelState} {a : AgentId} {snap : ActionPolicySnapshot} :
    checkClearance s a snap = true ↔ (∀ l ∈ s.speculativeTaint a, l ≤ snap.confClearance) ∧
      s.PendingOf a (·.ClearHolds snap.outputConf) ∧ snap.outputConf ≤ snap.confClearance := by
  simp only [checkClearance, latch_iff, VecMap.forEntries_latch_false, VecSet.foldl_latch_items, not_not,
    not_and, true_and, ConfLevel.le_iff, KernelState.PendingOf, PendingInvocation.ClearHolds, and_assoc]

/-- The flow band of a gate arm: ALLOW when strict, otherwise ALLOW, or INSPECT when vouched. -/
def BackgroundTheory.FlowArm (bg : BackgroundTheory) (strict vouched : Bool) (l : ConfLevel)
    (e : EgressKind) : Prop :=
  bg.flowAllows l e = true ∨ (strict = false ∧ bg.flowInspects l e = true ∧ vouched = true)

theorem checkFlow_iff {s : KernelState} {bg : BackgroundTheory} {a : AgentId}
    {snap : ActionPolicySnapshot} {egr : VecSet EgressKind} {strict : Bool} :
    checkFlow s bg a snap egr strict = true ↔
      (∀ l ∈ s.speculativeTaint a, ∀ e ∈ egr, bg.FlowArm strict true l e) ∧
      s.PendingOf a (fun j => ∀ e ∈ j.egress, bg.FlowArm strict j.vouched snap.outputConf e) ∧
      ∀ e ∈ egr, bg.FlowArm strict true snap.outputConf e := by
  simp only [checkFlow]
  rw [VecSet.foldl_latch_items, VecMap.forEntries_all (fun _ j => j.agent = a →
      ∀ e ∈ j.egress, bg.FlowArm strict j.vouched snap.outputConf e),
    VecSet.foldl_all_items (fun l => ∀ e ∈ egr, bg.FlowArm strict true l e)]
  · simp only [not_not, true_and, and_assoc, arm_self_iff, KernelState.PendingOf, BackgroundTheory.FlowArm]
  · intro ok l
    simp only [VecSet.foldl_latch_items, not_not, arm_self_iff, BackgroundTheory.FlowArm]
  · intro ok i j
    by_cases own : j.agent = a
    · simp only [own, if_true, VecSet.foldl_latch_items, not_not, arm_iff, BackgroundTheory.FlowArm,
        forall_const]
    · simp only [own, if_false, false_implies, and_true]

def ActionPolicySnapshot.IntegArm (snap : ActionPolicySnapshot) (strict vouched : Bool)
    (l : IntegLevel) : Prop :=
  snap.integFloor ≤ l ∨ (strict = false ∧ snap.integInspect ≤ l ∧ vouched = true)

theorem checkInteg_iff {s : KernelState} {a : AgentId} {snap : ActionPolicySnapshot} {strict : Bool} :
    checkInteg s a snap strict = true ↔
      (∀ l ∈ s.speculativeInteg a, snap.IntegArm strict true l) ∧
      s.PendingOf a (fun j => j.policy.IntegArm strict j.vouched snap.outputInteg) ∧
      snap.IntegArm strict true snap.outputInteg := by
  simp only [checkInteg]
  rw [latch_iff, VecMap.forEntries_all (fun _ j => j.agent = a →
      j.policy.IntegArm strict j.vouched snap.outputInteg), VecSet.foldl_latch_items]
  · simp only [not_not, true_and, and_assoc, arm_self_iff, IntegLevel.le_iff, KernelState.PendingOf,
      ActionPolicySnapshot.IntegArm]
  · intro ok i j
    by_cases own : j.agent = a
    · simp only [own, if_true, latch_iff, arm_iff, IntegLevel.le_iff, ActionPolicySnapshot.IntegArm,
        forall_const]
    · simp only [own, if_false, false_implies, and_true]

theorem egressNarrows_iff {egr declared : VecSet EgressKind} :
    egressNarrows egr declared = true ↔ ∀ e ∈ egr, e ∈ declared := by
  simp only [egressNarrows, VecSet.foldl_latch_items, not_not, true_and, VecSet.contains_iff]

theorem egressCovers_iff {declared egr : VecSet EgressKind} :
    egressCovers declared egr = true ↔ (∃ e, e ∈ declared) → ∃ e, e ∈ egr := by
  unfold egressCovers
  by_cases empty : declared.isEmpty = true
  · have none := VecSet.isEmpty_iff.mp empty
    simp [empty, none]
  · have some : ∃ e, e ∈ declared := by simpa using empty
    rw [if_neg empty, Bool.not_eq_true', ← Bool.not_eq_true, VecSet.isEmpty_iff, not_forall]
    simp only [not_not, some, true_implies]

theorem crossBound_iff {s : KernelState} {q : CrossInput} : crossBound s q = true ↔
    q.releasedInteg ≤ q.tInteg ∧ (∀ c, q.tConf = some c → q.releasedConf ≤ c) ∧
      (q.tConf = none → ∀ l, s.Taints q.src l → l ≤ q.releasedConf) := by
  unfold crossBound
  rw [latch_iff, and_comm]
  cases bound : q.tConf with
  | some c => simp
  | none => simp only [VecSet.foldl_latch_items, not_not, true_and, ConfLevel.le_iff, IntegLevel.le_iff,
      KernelState.Taints, reduceCtorEq, false_implies, implies_true, true_implies]

theorem evidenceOk_iff {s : KernelState} {q : CrossInput} : evidenceOk s q = true ↔
    ∃ e, q.evidence = some e ∧ e.positive = true ∧ e.id ∉ s.consumedAttestations ∧
      e.output = q.outputHash ∧ e.src = q.src ∧ e.rcv = q.rcv ∧ e.descriptor = q.descriptor ∧
      e.assignment = q.assignment := by
  unfold evidenceOk
  cases q.evidence <;> simp [and_assoc]

theorem endorsedOk_iff {s : KernelState} {q : CrossInput} : endorsedOk s q = true ↔
    (∃ e, q.evidence = some e ∧ e.positive = true ∧ e.id ∉ s.consumedAttestations ∧
      e.output = q.outputHash ∧ e.src = q.src ∧ e.rcv = q.rcv ∧ e.descriptor = q.descriptor ∧
      e.assignment = q.assignment) ∧
    ∃ g, s.crossingGrants.get ⟨q.rcv, q.assignment⟩ = some g ∧ 0 < g.remaining := by
  unfold endorsedOk
  rw [latch_iff, evidenceOk_iff, and_comm]
  cases found : s.crossingGrants.get ⟨q.rcv, q.assignment⟩ <;> simp [found]

theorem crossBranch_endorsed {s : KernelState} {q : CrossInput} :
    crossBranch s q = .endorsed ↔ endorsedOk s q = true := by
  unfold crossBranch
  cases endorsedOk s q <;> cases q.fallback <;> simp

end Argus
