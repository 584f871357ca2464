import Einsof.Base.Retry
import Einsof.Kernel.Confinement

namespace Argus

/-- How the sender of an accepted command is refused when it sends the command again right away, told
    from the record of the first time; the other three are accepted again. -/
def KernelAction.again (mode : Mode) : KernelAction → Option KernelError
  | .registerTool _ => some .toolAlreadyRegistered
  | .unregisterTool _ => some .toolNotRegistered
  | .delegate _ _ => some .agentAlreadyActive
  | .grantCapability _ _ _ => none
  | .grantCrossing _ _ _ _ => none
  | .revoke _ _ => some .notDirectChild
  | .cascadeRevoke _ _ => some .notDirectChild
  | .ingest _ _ _ _ _ => none
  | .beginInvocation _ _ _ verdict _ =>
    -- a challenge is open under the id, in place of a record
    if verdict = .inspectionRequired ∧ mode = .enforce then some .invocationReplayed
    else some .invocationExists
  | .authorizeInspected _ _ _ => some .challengeNotOpen
  | .settleInvocation _ _ _ outcome _ _ _ =>
    if outcome = .ambiguous then some .quarantineResolutionRequired else some .notPending
  | .crossOutput _ _ _ _ _ => some .crossingReplayed

variable {s s' : KernelState} {bg : BackgroundTheory} {r : KernelAction}

section Ingest

variable {a : AgentId} {l : ConfLevel} {li : IntegLevel} {d : Disposition}

/-- Gates over the records do not read the disposition that an ingest demotes. -/
theorem absorb_pendingOf {good : PendingInvocation → Prop}
    (frozen : ∀ j d, good { j with disposition := d } ↔ good j) :
    (absorb s a l li d).PendingOf a good ↔ s.PendingOf a good := by
  have same : ∀ j, good (demotedIf (d = .monitorBypassed) a j) ↔ good j := by
    intro j
    rw [demotedIf_eq]
    exact frozen j _
  simp only [KernelState.PendingOf, absorb_pending, Option.map_eq_some_iff]
  constructor
  · intro holds i j present own
    exact (same j).mp (holds i _ ⟨j, present, rfl⟩ ((demotedIf_agent _ _ _).trans own))
  · intro holds i j' present own
    obtain ⟨j, present, rfl⟩ := present
    exact (same j).mpr (holds i j present ((demotedIf_agent _ _ _).symm.trans own))

theorem demoteAllOf_of_demoted (done : ∀ i j, s.pending.get i = some j → KernelState.demoted a j = j) :
    s.demoteAllOf a = s := by
  have fixed : (s.demoteAllOf a).pending = s.pending :=
    VecMap.rebuild_of_fixed (fun _ j => some (KernelState.demoted a j)) (fun _ _ _ => rfl)
      fun i j present => congrArg some (done i j present)
  rw [KernelState.demoteAllOf] at fixed ⊢
  exact congrArg (fun p => { s with pending := p }) fixed

theorem absorb_twice : absorb (absorb s a l li d) a l li d = absorb s a l li d := by
  have taint : (s.taintLevels.insertInto a l).insertInto a l = s.taintLevels.insertInto a l :=
    VecMap.insertInto_of_mem (VecMap.mem_insertInto.mpr (.inr ⟨rfl, rfl⟩))
  have integ : (s.integLevels.insertInto a li).insertInto a li = s.integLevels.insertInto a li :=
    VecMap.insertInto_of_mem (VecMap.mem_insertInto.mpr (.inr ⟨rfl, rfl⟩))
  simp only [absorb_eq, taint, integ]
  by_cases bypassed : d = .monitorBypassed
  · simp only [bypassed, if_true]
    rw [demoteAllOf_of_demoted]
    intro i j present
    rw [KernelState.demoteAllOf_get, Option.map_eq_some_iff] at present
    obtain ⟨j, -, rfl⟩ := present
    unfold KernelState.demoted
    split <;> rfl
  · simp only [bypassed, if_false]

theorem ingest_again {src : Option AgentId} (accepted : ingest s bg a src l li = .ok (s', r)) :
    ingest s' bg a src l li = .ok (s', r) := by
  obtain ⟨active, dominated, d, decides, rfl, rfl⟩ := ingest_ok.mp accepted
  refine ingest_ok.mpr ⟨by rwa [absorb_eq], fun b named => ⟨fun k held => ?_, fun k held => ?_⟩, d, ?_,
    absorb_twice.symm, rfl⟩
  · rcases absorb_taints.mp held with before | ⟨-, rfl⟩
    · exact (dominated b named).1 k before
    · exact ConfLevel.le_refl k
  · rcases absorb_integs.mp held with before | ⟨-, rfl⟩
    · exact (dominated b named).2 k before
    · exact IntegLevel.le_iff_rank.mpr (Nat.le_refl _)
  · rwa [absorb_pendingOf fun _ _ => Iff.rfl, absorb_pendingOf fun _ _ => Iff.rfl,
      absorb_pendingOf fun _ _ => Iff.rfl]

end Ingest

theorem begin_again {a : AgentId} {inv : InvocationId} {chal : ChallengeId} {snap : ActionPolicySnapshot}
    {egr : VecSet EgressKind} {ah : ContentHash} {authorized : Bool}
    (accepted : beginInvocation s bg a inv chal snap egr ah authorized = .ok (s', r)) :
    ∃ e, r.again bg.mode = some e ∧
      beginInvocation s' bg a inv chal snap egr ah authorized = .error e := by
  obtain ⟨guards, effect, rfl⟩ := beginInvocation_ok.mp accepted
  have active : s'.agentActive.contains a = true := by
    rw [effect.frame]
    exact VecSet.contains_iff.mpr guards.active
  have registered : s'.toolRegistered.contains snap.tool = true := by
    rw [effect.frame]
    exact VecSet.contains_iff.mpr guards.registered
  have coherent : snap.integInspect.le snap.integFloor = true := IntegLevel.le_iff.mpr guards.coherent
  have spent : s'.consumedIds.contains inv = true := by
    rw [effect.frame]
    exact VecSet.contains_iff.mpr (VecSet.mem_insert.mpr (.inr rfl))
  have refused : beginRefusal s' bg a inv snap egr =
      if s'.pending.containsKey inv then some .invocationExists else some .invocationReplayed := by
    simp only [beginRefusal, active, registered, coherent, spent, guards.notRoot, not_true_eq_false, if_true,
      if_false]
  rw [beginInvocation, refused, KernelAction.again]
  generalize beginVerdict s bg a snap egr authorized = verdict at effect
  generalize bg.mode = mode at effect
  cases effect with
  | permit => exact ⟨.invocationExists, rfl, by simp [KernelState.pend]⟩
  | inspect => exact ⟨.invocationReplayed, rfl, by simp [KernelState.challenge, guards.notPending]⟩
  | bypass _ gated => exact ⟨.invocationExists, by simp, by simp [KernelState.pend]⟩

theorem settle_again {inv : InvocationId} {outcome : Outcome} {att : Option ResolutionAttestation}
    (accepted : settleInvocation s inv outcome att = .ok (s', r)) :
    ∃ e, r.again bg.mode = some e ∧ settleInvocation s' inv outcome att = .error e := by
  obtain ⟨j, present, active, live, evidence, rfl, rfl⟩ := settleInvocation_ok.mp accepted
  have agents : (settled s inv outcome att j).agentActive = s.agentActive := by rw [settled_eq]
  rw [KernelAction.again, settleInvocation, VecMap.getCloned_eq_get, settled_pending, agents]
  by_cases ambiguous : outcome = .ambiguous
  · -- the record stays, quarantined, and now needs an ordinary outcome
    have admissible : (demotedIf (j.disposition ≠ .permitted) j.agent
        { j with quarantined := true }).disposition ≠ .blocked := by
      rcases demotedIf_disposition (j.disposition ≠ .permitted) j.agent { j with quarantined := true } with
        same | bypassed
      · rwa [same]
      · rw [bypassed]
        decide
    refine ⟨.quarantineResolutionRequired, by simp [ambiguous], ?_⟩
    simp [ambiguous, demotedIf_agent, active, admissible, settleRefusal]
  · exact ⟨.notPending, by simp [ambiguous], by simp [ambiguous]⟩

theorem cross_again {q : CrossInput} (accepted : crossOutput s bg q = .ok (s', r)) :
    ∃ e, r.again bg.mode = some e ∧ crossOutput s' bg q = .error e := by
  obtain ⟨source, receiver, idle, fresh, bound, d, decides, rfl, rfl⟩ := crossOutput_ok.mp accepted
  have still : srcInFlight (crossed s q (crossBranch s q) d) q.src = false := by
    rw [← Bool.not_eq_true, srcInFlight_iff]
    intro facts
    obtain ⟨i, j', present, own⟩ := facts
    rw [crossed_pending, Option.map_eq_some_iff] at present
    obtain ⟨j, present, rfl⟩ := present
    exact idle i j present ((demotedIf_agent _ _ _).symm.trans own)
  have agents : (crossed s q (crossBranch s q) d).agentActive = s.agentActive := by rw [crossed_eq]
  have spent : (crossed s q (crossBranch s q) d).consumedCrossings.contains q.crossing = true := by
    rw [crossed_eq]
    exact VecSet.contains_iff.mpr (VecSet.mem_insert.mpr (.inr rfl))
  refine ⟨.crossingReplayed, rfl, ?_⟩
  rw [crossOutput, agents, still, spent]
  simp [source, receiver]

/-- Sent again right after it was accepted, a command is refused with the error its record names, or
    it is accepted with the same record and leaves the very same state. -/
theorem step_again {c : KernelCommand} (accepted : (kernel bg).step s c = .ok (s', r)) :
    (kernel bg).step s' c = match r.again bg.mode with
      | some e => .error e
      | none => .ok (s', r) := by
  have refused : ∀ {e x}, r.again bg.mode = some e → x = .error e → x = (match r.again bg.mode with
      | some e => .error e
      | none => .ok (s', r) : Except KernelError (KernelState × KernelAction)) := by
    intro e x named answer
    rw [named, answer]
  cases c with
  | registerTool tool =>
    obtain ⟨-, rfl, rfl⟩ := registerTool_ok.mp accepted
    exact refused rfl (by simp [kernel, KernelCommand.apply, registerTool])
  | unregisterTool tool =>
    obtain ⟨-, -, -, rfl, rfl⟩ := unregisterTool_ok.mp accepted
    exact refused rfl (by simp [kernel, KernelCommand.apply, unregisterTool])
  | delegate grantor grantee =>
    obtain ⟨active, -, -, -, rfl, rfl⟩ := delegate_ok.mp accepted
    exact refused rfl (by simp [kernel, KernelCommand.apply, delegate, active])
  | grantCapability parent child cap =>
    obtain ⟨active, active', edge, held, rfl, rfl⟩ := grantCapability_ok.mp accepted
    refine grantCapability_ok.mpr ⟨active, active', edge, VecMap.mem_insertInto.mpr (.inl held), ?_, rfl⟩
    rw [VecMap.insertInto_of_mem (VecMap.mem_insertInto.mpr (.inr ⟨rfl, rfl⟩))]
  | grantCrossing grantor agent assignment n =>
    obtain ⟨root, active, active', rfl, rfl⟩ := grantCrossing_ok.mp accepted
    refine grantCrossing_ok.mpr ⟨root, active, active', ?_, rfl⟩
    have same : (s.crossingGrants.insert ⟨agent, assignment⟩ ⟨n, n⟩).insert ⟨agent, assignment⟩ ⟨n, n⟩ =
        s.crossingGrants.insert ⟨agent, assignment⟩ ⟨n, n⟩ :=
      VecMap.upsert_of_fixed (by rw [VecMap.get_insert, if_pos rfl]) rfl
    rw [same]
  | revoke parent target =>
    obtain ⟨-, -, -, -, rfl, rfl⟩ := revoke_ok.mp accepted
    exact refused rfl (by simp [kernel, KernelCommand.apply, revoke])
  | cascadeRevoke child parent =>
    obtain ⟨-, -, -, -, rfl, rfl⟩ := cascadeRevoke_ok.mp accepted
    exact refused rfl (by simp [kernel, KernelCommand.apply, cascadeRevoke])
  | ingest a src l li =>
    have again := ingest_again accepted
    obtain ⟨-, -, d, -, -, rfl⟩ := ingest_ok.mp accepted
    exact again
  | settleInvocation inv outcome att =>
    obtain ⟨e, named, answer⟩ := settle_again accepted
    exact refused named answer
  | beginInvocation a inv chal snap egr ah authorized =>
    obtain ⟨e, named, answer⟩ := begin_again accepted
    exact refused named answer
  | authorizeInspected inv att =>
    obtain ⟨sc, -, -, -, rfl, rfl⟩ := authorizeInspected_ok.mp accepted
    exact refused rfl (by simp [kernel, KernelCommand.apply, authorizeInspected])
  | crossOutput q =>
    obtain ⟨e, named, answer⟩ := cross_again accepted
    exact refused named answer

theorem settles (bg : BackgroundTheory) (c : KernelCommand) : (kernel bg).Settles c := by
  intro s s' r accepted
  have answer := step_again accepted
  cases named : r.again bg.mode with
  | none =>
    rw [named] at answer
    rw [Machine.attempt_ok answer]
  | some e =>
    rw [named] at answer
    rw [Machine.attempt_error answer]

/-- A sender that repeats every command until it hears an answer leaves the state of sending each of
    them once, and each repetition of an accepted command is answered as its record foretells. -/
theorem resend_harmless (bg : BackgroundTheory) :
    (∀ s c s' r, (kernel bg).step s c = .ok (s', r) →
      (kernel bg).step s' c = match r.again bg.mode with
        | some e => .error e
        | none => .ok (s', r)) ∧
    ∀ cs ds, Machine.Resent cs ds → ∀ s,
      ((kernel bg).attempts s ds).1 = ((kernel bg).attempts s cs).1 ∧
      ((kernel bg).attempts s cs).2.Sublist ((kernel bg).attempts s ds).2 :=
  ⟨fun _ _ _ _ => step_again, fun _ _ resent => resent.attempts (settles bg)⟩

/-- The worker is delegated three times over and registers its tool twice. -/
theorem resend_harmless_sample :
    ((kernel sampleBackground).attempts KernelState.initial
      [.delegate AgentId.root ⟨"worker"⟩, .delegate AgentId.root ⟨"worker"⟩,
        .delegate AgentId.root ⟨"worker"⟩, .registerTool ⟨"mailer"⟩, .registerTool ⟨"mailer"⟩]).1 =
    ((kernel sampleBackground).attempts KernelState.initial
      [.delegate AgentId.root ⟨"worker"⟩, .registerTool ⟨"mailer"⟩]).1 ∧
    (kernel sampleBackground).step (enroll KernelState.initial AgentId.root ⟨"worker"⟩)
      (.delegate AgentId.root ⟨"worker"⟩) = .error .agentAlreadyActive := by
  obtain ⟨answer, state⟩ := resend_harmless sampleBackground
  have accepted : (kernel sampleBackground).step KernelState.initial (.delegate AgentId.root ⟨"worker"⟩) =
      .ok (enroll KernelState.initial AgentId.root ⟨"worker"⟩, .delegate AgentId.root ⟨"worker"⟩) := by
    decide
  exact ⟨(state _ _ (.send _ 2 (.send _ 1 .nil)) _).1, answer _ _ _ _ accepted⟩

end Argus
