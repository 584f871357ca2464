import Einsof.Kernel.Lifecycle
import Einsof.Kernel.Residue

namespace Argus

variable {s s' : KernelState} {bg : BackgroundTheory} {inv : InvocationId}

/-- No transition stores a blocked record. -/
theorem never_blocked (reach : (kernel bg).Reachable s) :
    ∀ i j, s.pending.get i = some j → j.disposition ≠ .blocked := by
  apply reach.invariant
  · intro i j present
    cases present
  · intro s c s' r before accepted i j' present
    cases record_step accepted present with
    | kept j earlier same claim =>
      rcases claim with kept | bypassed
      · rw [kept]
        exact before i j earlier
      · rw [bypassed]
        decide
    | admitted gate claim =>
      rw [claim]
      decide
    | bypassed monitor claim =>
      rw [claim]
      decide

/-- A challenged invocation has no record. -/
theorem challenge_excludes_record (reach : (kernel bg).Reachable s) {sc : ChallengeScope}
    (opened : s.challenges.get inv = some sc) : s.pending.get inv = none := by
  obtain ⟨history, run⟩ := reach
  obtain ⟨slot, -, occupies⟩ := run_trace run inv
  cases occupies with
  | challenged noRecord _ _ => exact noRecord
  | fresh noRecord _ _ => exact noRecord
  | closed noRecord _ _ => exact noRecord
  | running _ _ noChallenge _ =>
    rw [noChallenge] at opened
    cases opened
  | quarantined _ _ noChallenge _ =>
    rw [noChallenge] at opened
    cases opened

/-- The structural conditions of an inspection hold of every open challenge. -/
theorem challenge_guards (reach : (kernel bg).Reachable s) {sc : ChallengeScope}
    (opened : s.challenges.get inv = some sc) : AuthorizeGuards s bg inv sc := by
  have grounded := open_grounded reach _ _ _ _ (.challenge opened)
  exact ⟨grounded.active, grounded.notRoot, grounded.registered, grounded.coherent,
    challenge_excludes_record reach opened, grounded.narrows, grounded.covers⟩

theorem challenge_admits (reach : (kernel bg).Reachable s) {sc : ChallengeScope}
    (opened : s.challenges.get inv = some sc) :
    authorizeAdmits s bg inv sc = beginAdmissible s bg sc.agent sc.policy sc.egress sc.authorized := by
  have guards := challenge_guards reach opened
  rw [Bool.eq_iff_iff, authorizeAdmits_iff]
  exact and_iff_right guards

theorem settle_missing (absent : s.pending.get inv = none) (outcome : Outcome)
    (att : Option ResolutionAttestation) :
    (kernel bg).step s (.settleInvocation inv outcome att) = .error .notPending := by
  show settleInvocation s inv outcome att = _
  unfold settleInvocation
  rw [VecMap.getCloned_eq_get, absent]

/-- On a reachable state only the record and the resolution decide a settlement. -/
theorem settle_step (reach : (kernel bg).Reachable s) {outcome : Outcome}
    {att : Option ResolutionAttestation} {j : PendingInvocation}
    (present : s.pending.get inv = some j) :
    (kernel bg).step s (.settleInvocation inv outcome att) = (settleRefusal s inv outcome att j).elim
      (.ok (settled s inv outcome att j, .settleInvocation inv j.agent j.disposition outcome
        j.policy.outputConf j.policy.outputInteg (att.map (·.id)))) .error := by
  have active : s.agentActive.contains j.agent = true :=
    VecSet.contains_iff.mpr (open_grounded reach _ _ _ _ (.pending present)).active
  have unblocked := never_blocked reach inv j present
  show settleInvocation s inv outcome att = _
  unfold settleInvocation
  simp only [VecMap.getCloned_eq_get, present, active, not_true, if_false, if_neg unblocked]
  cases settleRefusal s inv outcome att j <;> rfl

/-- What settling a reachable record can be refused for. -/
theorem settle_refused (reach : (kernel bg).Reachable s) {outcome : Outcome}
    {att : Option ResolutionAttestation} {e : KernelError}
    (refused : (kernel bg).step s (.settleInvocation inv outcome att) = .error e) :
    (s.pending.get inv = none ∧ e = .notPending) ∨
      ∃ j, s.pending.get inv = some j ∧ settleRefusal s inv outcome att j = some e := by
  cases present : s.pending.get inv with
  | none =>
    rw [settle_missing present] at refused
    cases refused
    exact .inl ⟨rfl, rfl⟩
  | some j =>
    rw [settle_step reach present] at refused
    cases refusal : settleRefusal s inv outcome att j with
    | none =>
      rw [refusal] at refused
      cases refused
    | some e' =>
      rw [refusal] at refused
      cases refused
      exact .inr ⟨j, rfl, refusal⟩

theorem settleRefusal_structural {outcome : Outcome} {att : Option ResolutionAttestation}
    {j : PendingInvocation} {e : KernelError} (refusal : settleRefusal s inv outcome att j = some e) :
    e ≠ .blockedPending ∧ e ≠ .agentInactive := by
  unfold settleRefusal at refusal
  repeat' split at refusal
  all_goals cases refusal
  all_goals decide

theorem settle_accepted (reach : (kernel bg).Reachable s) {j : PendingInvocation}
    (present : s.pending.get inv = some j) {outcome : Outcome} {att : Option ResolutionAttestation}
    (free : settleRefusal s inv outcome att j = none) :
    ∃ s' r, (kernel bg).step s (.settleInvocation inv outcome att) = .ok (s', r) := by
  rw [settle_step reach present, free]
  exact ⟨_, _, rfl⟩

/-- In-flight work can always be closed: a record settles directly until it is quarantined, and then
    with any fresh attestation of its scope; a challenge is decided by the live gate alone. -/
theorem work_closable (reach : (kernel bg).Reachable s) :
    (∀ inv j, s.pending.get inv = some j → j.quarantined = false → ∀ outcome,
      ∃ s' r, (kernel bg).step s (.settleInvocation inv outcome none) = .ok (s', r)) ∧
    (∀ inv j, s.pending.get inv = some j → j.quarantined = true → ∀ outcome, outcome ≠ .ambiguous →
      ∀ x : ResolutionAttestation, x.inv = inv → x.outcome = outcome → x.id ∉ s.consumedAttestations →
      ∃ s' r, (kernel bg).step s (.settleInvocation inv outcome (some x)) = .ok (s', r)) ∧
    (∀ inv outcome att e, (kernel bg).step s (.settleInvocation inv outcome att) = .error e →
      e ≠ .blockedPending ∧ e ≠ .agentInactive) ∧
    ∀ inv sc, s.challenges.get inv = some sc → AuthorizeGuards s bg inv sc ∧
      ∀ x : InspectionAttestation, scopeMatches inv sc x = true → x.positive = true →
      x.id ∉ s.consumedAttestations → ∃ s', (kernel bg).step s (.authorizeInspected inv x) =
          .ok (s', .authorizeInspected inv x.id
            (beginAdmissible s bg sc.agent sc.policy sc.egress sc.authorized)) ∧
        (s'.pending.containsKey inv = true ↔
          beginAdmissible s bg sc.agent sc.policy sc.egress sc.authorized = true) := by
  refine ⟨?_, ?_, ?_, ?_⟩
  · intro inv j present clean outcome
    exact settle_accepted reach present (settleRefusal_eq_none.mpr (.inr ⟨clean, rfl⟩))
  · intro inv j present held outcome ordinary x names resolves fresh
    exact settle_accepted reach present
      (settleRefusal_eq_none.mpr (.inl ⟨held, ordinary, x, rfl, names, resolves, fresh⟩))
  · intro inv outcome att e refused
    rcases settle_refused reach refused with ⟨-, rfl⟩ | ⟨j, -, refusal⟩
    · decide
    · exact settleRefusal_structural refusal
  · intro inv sc opened
    refine ⟨challenge_guards reach opened, ?_⟩
    intro x scope positive fresh
    have decided : (x.positive && authorizeAdmits s bg inv sc) =
        beginAdmissible s bg sc.agent sc.policy sc.egress sc.authorized := by
      rw [positive, Bool.true_and, challenge_admits reach opened]
    refine ⟨_, authorizeInspected_ok.mpr ⟨sc, opened, scope, fresh, rfl, by rw [decided]⟩, ?_⟩
    rw [decided, VecMap.containsKey_eq, resolve_pending]
    have vacant := challenge_excludes_record reach opened
    cases beginAdmissible s bg sc.agent sc.policy sc.egress sc.authorized <;> simp [vacant]

/-- The first call settles directly, the second one is quarantined and needs an attestation, and the third
    one is admitted once inspected. -/
theorem work_closable_sample :
    (∃ s' r, (kernel sampleBackground).step sampleState (.settleInvocation ⟨"call"⟩ .ambiguous none) =
      .ok (s', r)) ∧
    (∃ s' r, (kernel sampleBackground).step workedState
      (.settleInvocation ⟨"second"⟩ .failure (some ⟨⟨"report"⟩, ⟨"second"⟩, .failure⟩)) = .ok (s', r)) ∧
    ∃ s', (kernel sampleBackground).step workedState (.authorizeInspected ⟨"third"⟩
        ⟨⟨"glance"⟩, ⟨"third"⟩, ⟨"challenge"⟩, ⟨"args"⟩, ⟨"policy"⟩, true⟩) =
      .ok (s', .authorizeInspected ⟨"third"⟩ ⟨"glance"⟩ true) := by
  have quarantined : workedState.pending.get ⟨"second"⟩ =
      some { sampleRecord with admission := .inspected ⟨"look"⟩, quarantined := true } := by decide
  have waiting : workedState.challenges.get ⟨"third"⟩ = some ⟨⟨"challenge"⟩, ⟨"worker"⟩, sampleSnapshot,
      VecSet.fromIter [.networkExternal], ⟨"args"⟩, true⟩ := by decide
  obtain ⟨running, -⟩ := work_closable sampleState_reachable
  obtain ⟨-, held, -, open_⟩ := work_closable worked_run.reachable
  obtain ⟨s', decided, -⟩ := (open_ _ _ waiting).2
    ⟨⟨"glance"⟩, ⟨"third"⟩, ⟨"challenge"⟩, ⟨"args"⟩, ⟨"policy"⟩, true⟩ (by decide) rfl (by decide)
  exact ⟨running _ _ sample_pending rfl .ambiguous,
    held _ _ quarantined rfl .failure (by decide) ⟨⟨"report"⟩, ⟨"second"⟩, .failure⟩ rfl rfl (by decide),
    s', decided⟩

end Argus
