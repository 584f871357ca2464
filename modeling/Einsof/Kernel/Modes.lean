import Einsof.Kernel.Confinement

namespace Argus

variable {s s' : KernelState} {bg : BackgroundTheory} {mode mode' : Mode}

/-- The errors by which the begin gates deny. -/
def KernelError.isGate : KernelError → Bool
  | .capabilityMissing | .authorizerDenied | .clearanceDenied | .flowGateBlocked
  | .integrityFloorDenied => true
  | _ => false

/-- What the two modes answer where a hold decides: monitor commits as permitted exactly what enforce
    commits, bypasses exactly what enforce refuses with the hold error, and refuses the rest alike. -/
structure HoldTrial (enforced monitored : Except KernelError (KernelState × KernelAction))
    (action : Disposition → KernelAction) (held : KernelError) : Prop where
  permitted : ∀ s', monitored = .ok (s', action .permitted) ↔ enforced = .ok (s', action .permitted)
  bypassed : (∃ s', monitored = .ok (s', action .monitorBypassed)) ↔ enforced = .error held
  refused : ∀ e, monitored = .error e ↔ enforced = .error e ∧ e ≠ held
  enforces : ∀ s' r, enforced = .ok (s', r) → r = action .permitted
  monitors : ∀ s' r, monitored = .ok (s', r) → r = action .permitted ∨ r = action .monitorBypassed

/-- What the two modes answer to one begin: the same verdict, an Allow with the same result, a gate
    error of enforce exactly where monitor commits a Deny, and the same structural refusals. -/
structure BeginTrial (enforced monitored : Except KernelError (KernelState × KernelAction))
    (action : Verdict → KernelAction) : Prop where
  allow : ∀ s', monitored = .ok (s', action .allow) ↔ enforced = .ok (s', action .allow)
  inspect : (∃ s', monitored = .ok (s', action .inspectionRequired)) ↔
    ∃ s', enforced = .ok (s', action .inspectionRequired)
  deny : (∃ s', monitored = .ok (s', action .deny)) ↔ ∃ e, e.isGate = true ∧ enforced = .error e
  refused : ∀ e, monitored = .error e ↔ enforced = .error e ∧ e.isGate = false
  enforces : ∀ s' r, enforced = .ok (s', r) → r = action .allow ∨ r = action .inspectionRequired
  monitors : ∀ s' r, monitored = .ok (s', r) → ∃ verdict, r = action verdict

/-- The commands whose transition reads the mode. -/
def KernelCommand.consultsMode : KernelCommand → Bool
  | .ingest _ _ _ _ | .beginInvocation _ _ _ _ _ _ _ | .crossOutput _ => true
  | _ => false

theorem holdDisposition_enforce {holds : Bool} :
    holdDisposition (bg.setMode .enforce) holds = if holds then some .permitted else none := by
  cases holds <;> rfl

theorem holdDisposition_monitor {holds : Bool} : holdDisposition (bg.setMode .monitor) holds =
    some (if holds then .permitted else .monitorBypassed) := by
  cases holds <;> rfl

section SetMode

variable {a : AgentId} {snap : ActionPolicySnapshot} {egr : VecSet EgressKind} {authorized : Bool}

theorem flowHolds_setMode : (bg.setMode mode).FlowHolds = bg.FlowHolds := rfl

theorem flowArm_setMode : (bg.setMode mode).FlowArm = bg.FlowArm := rfl

theorem ingestConfHold_setMode {l : ConfLevel} :
    ingestConfHold s (bg.setMode mode) a l = ingestConfHold s bg a l := by
  rw [Bool.eq_iff_iff, ingestConfHold_iff, ingestConfHold_iff, flowHolds_setMode]

theorem ingestHolds_setMode {l : ConfLevel} {li : IntegLevel} :
    ingestHolds s (bg.setMode mode) a l li = ingestHolds s bg a l li := by
  rw [ingestHolds, ingestHolds, ingestConfHold_setMode]

theorem crossHolds_setMode {q : CrossInput} {branch : CrossBranch} :
    crossHolds s (bg.setMode mode) q branch = crossHolds s bg q branch := by
  rw [Bool.eq_iff_iff, crossHolds_iff, crossHolds_iff, flowHolds_setMode]

theorem checkFlow_setMode {strict : Bool} :
    checkFlow s (bg.setMode mode) a snap egr strict = checkFlow s bg a snap egr strict := by
  rw [Bool.eq_iff_iff, checkFlow_iff, checkFlow_iff, flowArm_setMode]

theorem beginAdmissible_setMode :
    beginAdmissible s (bg.setMode mode) a snap egr authorized =
      beginAdmissible s bg a snap egr authorized := by
  rw [beginAdmissible, beginAdmissible, checkFlow_setMode]

theorem beginVerdict_setMode :
    beginVerdict s (bg.setMode mode) a snap egr authorized = beginVerdict s bg a snap egr authorized := by
  rw [beginVerdict, beginVerdict, beginStrict, beginStrict, checkFlow_setMode, beginAdmissible_setMode]

theorem authorizeAdmits_setMode {inv : InvocationId} {sc : ChallengeScope} :
    authorizeAdmits s (bg.setMode mode) inv sc = authorizeAdmits s bg inv sc := by
  rw [authorizeAdmits, authorizeAdmits, beginAdmissible_setMode]
  rfl

end SetMode

section Hold

variable {action : Disposition → KernelAction} {held : KernelError}

theorem HoldTrial.of_refused {e : KernelError} (structural : e ≠ held) :
    HoldTrial (.error e) (.error e) action held where
  permitted _ := .rfl
  bypassed := by simpa using structural
  refused e' := by
    constructor
    · intro same
      cases same
      exact ⟨rfl, structural⟩
    · exact And.left
  enforces _ _ impossible := by cases impossible
  monitors _ _ impossible := by cases impossible

theorem HoldTrial.of_guard {refuses : Prop} [Decidable refuses] {e : KernelError}
    {enforced monitored : Except KernelError (KernelState × KernelAction)} (structural : e ≠ held)
    (passed : HoldTrial enforced monitored action held) :
    HoldTrial (if refuses then .error e else enforced) (if refuses then .error e else monitored)
      action held := by
  by_cases h : refuses
  · rw [if_pos h, if_pos h]
    exact .of_refused structural
  · rw [if_neg h, if_neg h]
    exact passed

theorem HoldTrial.of_holds (bg : BackgroundTheory) (holds : Bool) (result : Disposition → KernelState)
    (apart : action .permitted ≠ action .monitorBypassed) : HoldTrial
      (match holdDisposition (bg.setMode .enforce) holds with
        | none => .error held
        | some d => .ok (result d, action d))
      (match holdDisposition (bg.setMode .monitor) holds with
        | none => .error held
        | some d => .ok (result d, action d)) action held := by
  rw [holdDisposition_enforce, holdDisposition_monitor]
  cases holds with
  | true =>
    constructor
    · exact fun _ => .rfl
    · simp [apart]
    · simp
    · intro s' r same
      cases same
      rfl
    · intro s' r same
      cases same
      exact .inl rfl
  | false =>
    constructor
    · simp [apart.symm]
    · simp
    · simp [eq_comm]
    · intro s' r impossible
      cases impossible
    · intro s' r same
      cases same
      exact .inr rfl

end Hold

theorem ingest_trial (s : KernelState) (bg : BackgroundTheory) (a : AgentId) (src : Option AgentId)
    (l : ConfLevel) (li : IntegLevel) : HoldTrial (ingest s (bg.setMode .enforce) a src l li)
      (ingest s (bg.setMode .monitor) a src l li) (.ingest a src l li) .ingestHoldFailed := by
  rw [ingest, ingest, ingestHolds_setMode, ingestHolds_setMode]
  refine .of_guard (by decide) ?_
  refine .of_guard (by decide) ?_
  refine .of_holds bg (ingestHolds s bg a l li) (absorb s a l li) ?_
  intro same
  cases same

theorem crossOutput_trial (s : KernelState) (bg : BackgroundTheory) (q : CrossInput) :
    HoldTrial (crossOutput s (bg.setMode .enforce) q) (crossOutput s (bg.setMode .monitor) q)
      (.crossOutput q.src q.rcv q.crossing (crossBranch s q)) .crossingHoldFailed := by
  simp only [crossOutput, crossHolds_setMode]
  refine .of_guard (by decide) ?_
  refine .of_guard (by decide) ?_
  refine .of_guard (by decide) ?_
  refine .of_guard (by decide) ?_
  refine .of_guard (by decide) ?_
  refine .of_holds bg (crossHolds s bg q (crossBranch s q)) (crossed s q (crossBranch s q)) ?_
  intro same
  cases same

section Begin

variable {a : AgentId} {inv : InvocationId} {snap : ActionPolicySnapshot} {egr : VecSet EgressKind}
  {authorized : Bool} {e : KernelError} {s₁ s₂ : KernelState} (action : Verdict → KernelAction)

theorem denyReason_isGate : (denyReason s bg a snap egr authorized).isGate = true := by
  unfold denyReason
  repeat' split
  all_goals rfl

theorem structural_of_guard {refuses : Prop} [Decidable refuses] {e e' : KernelError}
    {rest : Option KernelError} (structural : e'.isGate = false)
    (further : rest = some e → e.isGate = false) :
    (if refuses then some e' else rest) = some e → e.isGate = false := by
  intro refused
  by_cases here : refuses
  · rw [if_pos here] at refused
    cases refused
    exact structural
  · rw [if_neg here] at refused
    exact further refused

theorem beginRefusal_not_gate (refused : beginRefusal s bg a inv snap egr = some e) :
    e.isGate = false := by
  revert refused
  unfold beginRefusal
  repeat refine structural_of_guard rfl ?_
  intro none
  cases none

theorem BeginTrial.of_refused (structural : e.isGate = false) :
    BeginTrial (.error e) (.error e) action where
  allow _ := .rfl
  inspect := by simp
  deny := by simp [structural]
  refused := by simpa using structural
  enforces _ _ impossible := by cases impossible
  monitors _ _ impossible := by cases impossible

theorem BeginTrial.of_allow (apart : ∀ verdict, action .allow = action verdict → verdict = .allow) :
    BeginTrial (.ok (s₁, action .allow)) (.ok (s₁, action .allow)) action where
  allow _ := .rfl
  inspect := .rfl
  deny := by simpa using fun same => nomatch apart .deny same
  refused := by simp
  enforces s' r same := by
    cases same
    exact .inl rfl
  monitors s' r same := by
    cases same
    exact ⟨.allow, rfl⟩

theorem BeginTrial.of_inspect
    (apart : ∀ verdict, action .inspectionRequired = action verdict → verdict = .inspectionRequired) :
    BeginTrial (.ok (s₁, action .inspectionRequired)) (.ok (s₂, action .inspectionRequired)) action where
  allow s' := by
    have differ : action .inspectionRequired ≠ action .allow := fun same => nomatch apart .allow same
    simp [differ]
  inspect := by simp
  deny := by simpa using fun same => nomatch apart .deny same
  refused := by simp
  enforces s' r same := by
    cases same
    exact .inr rfl
  monitors s' r same := by
    cases same
    exact ⟨.inspectionRequired, rfl⟩

theorem BeginTrial.of_deny (gate : e.isGate = true)
    (apart : ∀ verdict, action .deny = action verdict → verdict = .deny) :
    BeginTrial (.error e) (.ok (s₂, action .deny)) action where
  allow s' := by
    have differ : action .deny ≠ action .allow := fun same => nomatch apart .allow same
    simp [differ]
  inspect := by simpa using fun same => nomatch apart .inspectionRequired same
  deny := by simp [gate]
  refused e' := by
    constructor
    · intro impossible
      cases impossible
    · intro facts
      rcases facts with ⟨same, structural⟩
      cases same
      rw [gate] at structural
      cases structural
  enforces _ _ impossible := by cases impossible
  monitors s' r same := by
    cases same
    exact ⟨.deny, rfl⟩

theorem beginInvocation_trial (s : KernelState) (bg : BackgroundTheory) (a : AgentId)
    (inv : InvocationId) (chal : ChallengeId) (snap : ActionPolicySnapshot) (egr : VecSet EgressKind)
    (ah : ContentHash) (authorized : Bool) :
    BeginTrial (beginInvocation s (bg.setMode .enforce) a inv chal snap egr ah authorized)
      (beginInvocation s (bg.setMode .monitor) a inv chal snap egr ah authorized)
      (.beginInvocation a inv snap.tool · authorized) := by
  have refusal : ∀ mode, beginRefusal s (bg.setMode mode) a inv snap egr =
      beginRefusal s bg a inv snap egr := fun _ => rfl
  have apart : ∀ v w, KernelAction.beginInvocation a inv snap.tool v authorized =
      .beginInvocation a inv snap.tool w authorized → w = v := by
    intro v w same
    cases same
    rfl
  rw [beginInvocation, beginInvocation, refusal, refusal, beginVerdict_setMode, beginVerdict_setMode]
  cases refused : beginRefusal s bg a inv snap egr with
  | some e => exact .of_refused _ (beginRefusal_not_gate refused)
  | none =>
    cases beginVerdict s bg a snap egr authorized with
    | allow => exact .of_allow (.beginInvocation a inv snap.tool · authorized) (apart _)
    | inspectionRequired => exact .of_inspect (.beginInvocation a inv snap.tool · authorized) (apart _)
    | deny => exact .of_deny (.beginInvocation a inv snap.tool · authorized) denyReason_isGate (apart _)

end Begin

theorem other_trial {c : KernelCommand} (free : c.consultsMode = false) :
    c.apply (bg.setMode mode) s = c.apply bg s := by
  cases c with
  | authorizeInspected inv att =>
    simp only [KernelCommand.apply, authorizeInspected, authorizeAdmits_setMode]
  | ingest a src l li => cases free
  | beginInvocation a inv chal snap egr ah authorized => cases free
  | crossOutput q => cases free
  | _ => rfl

/-- A begin record says Allow. -/
def KernelAction.OnlyAllows (r : KernelAction) : Prop :=
  ∀ a inv tool verdict authorized, r = .beginInvocation a inv tool verdict authorized → verdict = .allow

theorem allowed_step {c : KernelCommand} {r : KernelAction} (allowed : r.OnlyAllows)
    (accepted : (kernel (bg.setMode .enforce)).step s c = .ok (s', r)) :
    (kernel (bg.setMode .monitor)).step s c = .ok (s', r) := by
  by_cases free : c.consultsMode = false
  · have same : c.apply (bg.setMode .monitor) s = c.apply (bg.setMode .enforce) s :=
      (other_trial free).trans (other_trial free).symm
    exact same.trans accepted
  cases c with
  | ingest a src l li =>
    have trial := ingest_trial s bg a src l li
    have permitted := trial.enforces s' r accepted
    subst permitted
    exact (trial.permitted s').mpr accepted
  | crossOutput q =>
    have trial := crossOutput_trial s bg q
    have permitted := trial.enforces s' r accepted
    subst permitted
    exact (trial.permitted s').mpr accepted
  | beginInvocation a inv chal snap egr ah authorized =>
    have trial := beginInvocation_trial s bg a inv chal snap egr ah authorized
    rcases trial.enforces s' r accepted with rfl | rfl
    · exact (trial.allow s').mpr accepted
    · cases allowed _ _ _ _ _ rfl
  | _ => exact absurd rfl free

/-- Monitor mode reports what enforce mode would decide, command by command and over whole runs. -/
theorem modes_agree (bg : BackgroundTheory) :
    (∀ s (c : KernelCommand), c.consultsMode = false →
      c.apply (bg.setMode .enforce) s = c.apply (bg.setMode .monitor) s) ∧
    (∀ s a snap egr authorized, beginVerdict s (bg.setMode .enforce) a snap egr authorized =
      beginVerdict s (bg.setMode .monitor) a snap egr authorized) ∧
    (∀ s a inv chal snap egr ah authorized,
      BeginTrial (beginInvocation s (bg.setMode .enforce) a inv chal snap egr ah authorized)
        (beginInvocation s (bg.setMode .monitor) a inv chal snap egr ah authorized)
        (.beginInvocation a inv snap.tool · authorized)) ∧
    (∀ s a src l li, HoldTrial (ingest s (bg.setMode .enforce) a src l li)
      (ingest s (bg.setMode .monitor) a src l li) (.ingest a src l li) .ingestHoldFailed) ∧
    (∀ s q, HoldTrial (crossOutput s (bg.setMode .enforce) q) (crossOutput s (bg.setMode .monitor) q)
      (.crossOutput q.src q.rcv q.crossing (crossBranch s q)) .crossingHoldFailed) ∧
    ∀ history s, (kernel (bg.setMode .enforce)).Run history s →
      (∀ entry ∈ history, entry.2.OnlyAllows) → (kernel (bg.setMode .monitor)).Run history s := by
  refine ⟨fun s c free => (other_trial free).trans (other_trial free).symm,
    fun s a snap egr authorized => beginVerdict_setMode.trans beginVerdict_setMode.symm,
    fun s => beginInvocation_trial s bg, fun s => ingest_trial s bg, fun s => crossOutput_trial s bg, ?_⟩
  intro history s run allowed
  induction run with
  | start => exact .start
  | @step history s s' c r run accepted ih =>
    have before := ih fun entry member => allowed entry (List.mem_append_left _ member)
    have last := allowed (c, r) (List.mem_append_right _ (List.mem_singleton_self _))
    exact before.step (allowed_step last accepted)

/-- The sample run is an enforcing one with a single Allow, so monitor mode runs it too. -/
theorem modes_agree_sample : ∃ history,
    (kernel (sampleBackground.setMode .monitor)).Run history sampleState := by
  obtain ⟨history, run, records⟩ :=
    (Machine.Run.start (M := kernel (sampleBackground.setMode .enforce))).drive sampleCommands
  refine ⟨_, (modes_agree sampleBackground).2.2.2.2.2 _ _ run ?_⟩
  have actions : ((kernel (sampleBackground.setMode .enforce)).drive
      (kernel (sampleBackground.setMode .enforce)).start sampleCommands).2 =
        [.registerTool ⟨"mailer"⟩, .delegate AgentId.root ⟨"worker"⟩,
        .grantCapability AgentId.root ⟨"worker"⟩ .networkEgress,
        .ingest ⟨"worker"⟩ none .«internal» .trusted .permitted,
        .beginInvocation ⟨"worker"⟩ ⟨"call"⟩ ⟨"mailer"⟩ .allow true] := by decide
  intro entry member a inv tool verdict authorized begins
  have listed : entry.2 ∈ history.map Prod.snd := List.mem_map_of_mem member
  rw [records, actions, begins] at listed
  simp only [List.mem_cons, reduceCtorEq, KernelAction.beginInvocation.injEq, List.not_mem_nil, or_false,
    false_or] at listed
  exact listed.2.2.2.1

end Argus
