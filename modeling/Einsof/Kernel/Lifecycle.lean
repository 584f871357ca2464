import Einsof.Kernel.Confinement

namespace Argus

def KernelAction.mentions (inv : InvocationId) : KernelAction → Bool
  | .settleInvocation i _ _ _ _ _ _ => i = inv
  | .beginInvocation _ i _ _ _ => i = inv
  | .authorizeInspected i _ _ => i = inv
  | _ => false

inductive Opens (inv : InvocationId) : Verdict → KernelAction → Prop
  | intro (agent : AgentId) (tool : ToolId) (verdict : Verdict) (authorized : Bool) :
      Opens inv verdict (.beginInvocation agent inv tool verdict authorized)

inductive Resolves (inv : InvocationId) : Bool → KernelAction → Prop
  | intro (attestation : AttestationId) (admitted : Bool) :
      Resolves inv admitted (.authorizeInspected inv attestation admitted)

inductive Quarantines (inv : InvocationId) : KernelAction → Prop
  | intro (agent : AgentId) (d : Disposition) (l : ConfLevel) (li : IntegLevel) :
      Quarantines inv (.settleInvocation inv agent d .ambiguous l li none)

/-- A success or failure settlement, and whether it carries a resolution. -/
inductive Closes (inv : InvocationId) : Bool → KernelAction → Prop
  | intro (agent : AgentId) (d : Disposition) {outcome : Outcome} (l : ConfLevel) (li : IntegLevel)
      (resolution : Option AttestationId) (ordinary : outcome ≠ .ambiguous) :
      Closes inv resolution.isSome (.settleInvocation inv agent d outcome l li resolution)

/-- The actions that bring an invocation to a pending record. -/
inductive Entry (mode : Mode) (inv : InvocationId) : List KernelAction → Prop
  | begun {b : KernelAction} {verdict : Verdict} (opens : Opens inv verdict b)
      (gate : verdict = .allow ∨ mode = .monitor) : Entry mode inv [b]
  | inspected {b x : KernelAction} (enforce : mode = .enforce) (opens : Opens inv .inspectionRequired b)
      (resolves : Resolves inv true x) : Entry mode inv [b, x]

/-- The actions that take a pending record away again. -/
inductive Settlement (inv : InvocationId) : List KernelAction → Prop
  | direct {f : KernelAction} (closes : Closes inv false f) : Settlement inv [f]
  | resolved {q f : KernelAction} (quarantines : Quarantines inv q) (closes : Closes inv true f) :
      Settlement inv [q, f]

inductive Lifecycle (mode : Mode) (inv : InvocationId) : List KernelAction → Prop
  | settled {entry settlement : List KernelAction} (enters : Entry mode inv entry)
      (settles : Settlement inv settlement) : Lifecycle mode inv (entry ++ settlement)
  | refused {b x : KernelAction} (enforce : mode = .enforce) (opens : Opens inv .inspectionRequired b)
      (resolves : Resolves inv false x) : Lifecycle mode inv [b, x]

inductive Slot
  | fresh
  | challenged
  | running
  | quarantined
  | closed

inductive Occupies (s : KernelState) (inv : InvocationId) : Slot → Prop
  | fresh (noRecord : s.pending.get inv = none) (noChallenge : s.challenges.get inv = none)
      (unused : inv ∉ s.consumedIds) : Occupies s inv .fresh
  | challenged (noRecord : s.pending.get inv = none) {sc : ChallengeScope}
      (challenge : s.challenges.get inv = some sc) (used : inv ∈ s.consumedIds) :
      Occupies s inv .challenged
  | running {j : PendingInvocation} (record : s.pending.get inv = some j)
      (clean : j.quarantined = false) (noChallenge : s.challenges.get inv = none)
      (used : inv ∈ s.consumedIds) : Occupies s inv .running
  | quarantined {j : PendingInvocation} (record : s.pending.get inv = some j)
      (held : j.quarantined = true) (noChallenge : s.challenges.get inv = none)
      (used : inv ∈ s.consumedIds) : Occupies s inv .quarantined
  | closed (noRecord : s.pending.get inv = none) (noChallenge : s.challenges.get inv = none)
      (used : inv ∈ s.consumedIds) : Occupies s inv .closed

/-- The lifecycle automaton; its labels are the actions that mention the invocation. -/
inductive Slot.Next (mode : Mode) (inv : InvocationId) : Slot → List KernelAction → Slot → Prop
  | stay (slot : Slot) : Next mode inv slot [] slot
  | drop {slot : Slot} (live : slot ≠ .fresh) : Next mode inv slot [] .closed
  | enter {b : KernelAction} {verdict : Verdict} (opens : Opens inv verdict b)
      (gate : verdict = .allow ∨ mode = .monitor) : Next mode inv .fresh [b] .running
  | inspect {b : KernelAction} (enforce : mode = .enforce) (opens : Opens inv .inspectionRequired b) :
      Next mode inv .fresh [b] .challenged
  | refuse {x : KernelAction} (resolves : Resolves inv false x) : Next mode inv .challenged [x] .closed
  | approve {x : KernelAction} (resolves : Resolves inv true x) : Next mode inv .challenged [x] .running
  | quarantine {q : KernelAction} (quarantines : Quarantines inv q) :
      Next mode inv .running [q] .quarantined
  | settle {f : KernelAction} (closes : Closes inv false f) : Next mode inv .running [f] .closed
  | resolve {f : KernelAction} (closes : Closes inv true f) : Next mode inv .quarantined [f] .closed

/-- What the mentioning actions look like when the invocation stands at a slot. -/
inductive Trace (mode : Mode) (inv : InvocationId) : List KernelAction → Slot → Prop
  | fresh : Trace mode inv [] .fresh
  | challenged {b : KernelAction} (enforce : mode = .enforce) (opens : Opens inv .inspectionRequired b) :
      Trace mode inv [b] .challenged
  | running {entry : List KernelAction} (enters : Entry mode inv entry) : Trace mode inv entry .running
  | quarantined {entry : List KernelAction} {q : KernelAction} (enters : Entry mode inv entry)
      (quarantines : Quarantines inv q) : Trace mode inv (entry ++ [q]) .quarantined
  | closed {seen life : List KernelAction} (complete : Lifecycle mode inv life) (seenOf : seen <+: life) :
      Trace mode inv seen .closed

section Automaton

variable {mode : Mode} {inv : InvocationId}

theorem exists_closes (inv : InvocationId) (resolved : Bool) : ∃ f, Closes inv resolved f := by
  cases resolved with
  | false => exact ⟨_, .intro AgentId.root .permitted .«public» .trusted none (by decide : Outcome.success ≠ _)⟩
  | true => exact ⟨_, .intro AgentId.root .permitted .«public» .trusted (some ⟨""⟩)
      (by decide : Outcome.success ≠ _)⟩

theorem Trace.prefix_of_lifecycle {seen : List KernelAction} {slot : Slot}
    (trace : Trace mode inv seen slot) : ∃ life, Lifecycle mode inv life ∧ seen <+: life := by
  obtain ⟨direct, closes⟩ := exists_closes inv false
  obtain ⟨final, resolves⟩ := exists_closes inv true
  cases trace with
  | fresh =>
    have opens : Opens inv .allow _ := .intro AgentId.root ⟨""⟩ .allow true
    exact ⟨_, .settled (.begun opens (.inl rfl)) (.direct closes), List.nil_prefix⟩
  | challenged enforce opens =>
    exact ⟨_, .refused enforce opens (.intro ⟨""⟩ false), List.prefix_append [_] [_]⟩
  | running enters => exact ⟨_, .settled enters (.direct closes), List.prefix_append _ _⟩
  | quarantined enters quarantines =>
    refine ⟨_, .settled enters (.resolved quarantines resolves), ?_⟩
    rw [List.prefix_append_right_inj]
    exact List.prefix_append [_] [_]
  | closed complete seenOf => exact ⟨_, complete, seenOf⟩

theorem Trace.next {seen step : List KernelAction} {slot slot' : Slot} (trace : Trace mode inv seen slot)
    (next : Slot.Next mode inv slot step slot') : Trace mode inv (seen ++ step) slot' := by
  cases next with
  | stay => rwa [List.append_nil]
  | drop live =>
    obtain ⟨life, complete, seenOf⟩ := trace.prefix_of_lifecycle
    rw [List.append_nil]
    exact .closed complete seenOf
  | enter opens gate =>
    cases trace with
    | fresh => exact .running (.begun opens gate)
  | inspect enforce opens =>
    cases trace with
    | fresh => exact .challenged enforce opens
  | refuse resolves =>
    cases trace with
    | challenged enforce opens => exact .closed (.refused enforce opens resolves) List.prefix_rfl
  | approve resolves =>
    cases trace with
    | challenged enforce opens => exact .running (.inspected enforce opens resolves)
  | quarantine quarantines =>
    cases trace with
    | running enters => exact .quarantined enters quarantines
  | settle closes =>
    cases trace with
    | running enters => exact .closed (.settled enters (.direct closes)) List.prefix_rfl
  | resolve closes =>
    cases trace with
    | quarantined enters quarantines =>
      rw [List.append_assoc]
      exact .closed (.settled enters (.resolved quarantines closes)) List.prefix_rfl

end Automaton

section Simulation

variable {bg : BackgroundTheory} {s s' : KernelState} {inv : InvocationId}

/-- A step that does not concern the invocation: its record and challenge stay or are dropped. -/
structure Quiet (s s' : KernelState) (inv : InvocationId) : Prop where
  record : ∀ j', s'.pending.get inv = some j' →
    ∃ j, s.pending.get inv = some j ∧ j'.quarantined = j.quarantined
  challenge : ∀ sc, s'.challenges.get inv = some sc → s.challenges.get inv = some sc
  used : inv ∈ s'.consumedIds ↔ inv ∈ s.consumedIds

theorem Quiet.noRecord (quiet : Quiet s s' inv) (empty : s.pending.get inv = none) :
    s'.pending.get inv = none := by
  rw [Option.eq_none_iff_forall_ne_some]
  intro j' present
  obtain ⟨j, earlier, -⟩ := quiet.record j' present
  rw [empty] at earlier
  cases earlier

theorem Quiet.noChallenge (quiet : Quiet s s' inv) (empty : s.challenges.get inv = none) :
    s'.challenges.get inv = none := by
  rw [Option.eq_none_iff_forall_ne_some]
  intro sc present
  have earlier := quiet.challenge sc present
  rw [empty] at earlier
  cases earlier

/-- A record that is still there is quarantined as it was. -/
theorem Quiet.survives {j j' : PendingInvocation} (quiet : Quiet s s' inv)
    (record : s.pending.get inv = some j) (present : s'.pending.get inv = some j') :
    j'.quarantined = j.quarantined := by
  obtain ⟨k, earlier, same⟩ := quiet.record j' present
  cases earlier.symm.trans record
  exact same

theorem Quiet.next {mode : Mode} {slot : Slot} (quiet : Quiet s s' inv) (occupies : Occupies s inv slot) :
    ∃ slot', Slot.Next mode inv slot [] slot' ∧ Occupies s' inv slot' := by
  cases occupies with
  | fresh noRecord noChallenge unused =>
    exact ⟨_, .stay _, .fresh (quiet.noRecord noRecord) (quiet.noChallenge noChallenge)
      (fun used => unused (quiet.used.mp used))⟩
  | challenged noRecord challenge used =>
    cases present : s'.challenges.get inv with
    | none => exact ⟨_, .drop Slot.noConfusion, .closed (quiet.noRecord noRecord) present (quiet.used.mpr used)⟩
    | some sc => exact ⟨_, .stay _, .challenged (quiet.noRecord noRecord) present (quiet.used.mpr used)⟩
  | running record clean noChallenge used =>
    have noChallenge := quiet.noChallenge noChallenge
    have used := quiet.used.mpr used
    cases present : s'.pending.get inv with
    | none => exact ⟨_, .drop Slot.noConfusion, .closed present noChallenge used⟩
    | some j' =>
      have same := quiet.survives record present
      exact ⟨_, .stay _, .running present (same.trans clean) noChallenge used⟩
  | quarantined record held noChallenge used =>
    have noChallenge := quiet.noChallenge noChallenge
    have used := quiet.used.mpr used
    cases present : s'.pending.get inv with
    | none => exact ⟨_, .drop Slot.noConfusion, .closed present noChallenge used⟩
    | some j' =>
      have same := quiet.survives record present
      exact ⟨_, .stay _, .quarantined present (same.trans held) noChallenge used⟩
  | closed noRecord noChallenge used =>
    exact ⟨_, .stay _, .closed (quiet.noRecord noRecord) (quiet.noChallenge noChallenge)
      (quiet.used.mpr used)⟩

theorem Quiet.of_same (record : s'.pending = s.pending) (challenge : s'.challenges = s.challenges)
    (used : s'.consumedIds = s.consumedIds) : Quiet s s' inv where
  record j' present := ⟨j', record ▸ present, rfl⟩
  challenge sc present := challenge ▸ present
  used := by rw [used]

theorem Quiet.of_filter {a : AgentId}
    (record : s'.pending.get inv = (s.pending.get inv).filter (·.agent ≠ a))
    (challenge : s'.challenges.get inv = (s.challenges.get inv).filter (·.agent ≠ a))
    (used : s'.consumedIds = s.consumedIds) : Quiet s s' inv where
  record j' present := by
    rw [record, Option.filter_eq_some_iff] at present
    exact ⟨j', present.1, rfl⟩
  challenge sc present := by
    rw [challenge, Option.filter_eq_some_iff] at present
    exact present.1
  used := by rw [used]

theorem Quiet.of_demotion (p : Prop) [Decidable p] (a : AgentId)
    (record : s'.pending.get inv = (s.pending.get inv).map (demotedIf p a))
    (challenge : s'.challenges = s.challenges) (used : s'.consumedIds = s.consumedIds) :
    Quiet s s' inv where
  record j' present := by
    rw [record, Option.map_eq_some_iff] at present
    rcases present with ⟨j, earlier, rfl⟩
    exact ⟨j, earlier, demotedIf_quarantined p a j⟩
  challenge sc present := challenge ▸ present
  used := by rw [used]

def KernelAction.about (inv : InvocationId) (r : KernelAction) : List KernelAction :=
  if r.mentions inv then [r] else []

theorem filter_mentions_singleton (r : KernelAction) : [r].filter (·.mentions inv) = r.about inv := by
  unfold KernelAction.about
  cases mentions : r.mentions inv <;> simp [mentions]

theorem settle_next {slot : Slot} {i : InvocationId} {outcome : Outcome}
    {att : Option ResolutionAttestation} {r : KernelAction} (occupies : Occupies s inv slot)
    (accepted : settleInvocation s i outcome att = .ok (s', r)) :
    ∃ slot', Slot.Next bg.mode inv slot (r.about inv) slot' ∧ Occupies s' inv slot' := by
  obtain ⟨j, present, -, -, rule, rfl, rfl⟩ := settleInvocation_ok.mp accepted
  have challenge : (settled s i outcome att j).challenges = s.challenges := by rw [settled_eq]
  have consumed : (settled s i outcome att j).consumedIds = s.consumedIds := by rw [settled_eq]
  by_cases here : i = inv
  · subst here
    rw [KernelAction.about, if_pos (by simp [KernelAction.mentions])]
    have after : (settled s i outcome att j).pending.get i =
        (if outcome = .ambiguous then some { j with quarantined := true } else none).map
          (demotedIf (j.disposition ≠ .permitted) j.agent) := by
      rw [settled_pending, if_pos rfl]
    cases occupies with
    | fresh noRecord => rw [noRecord] at present; cases present
    | challenged noRecord => rw [noRecord] at present; cases present
    | closed noRecord => rw [noRecord] at present; cases present
    | running record clean noChallenge used =>
      cases present.symm.trans record
      obtain ⟨-, rfl⟩ := rule.resolve_left fun held => by simp [clean] at held
      by_cases ambiguous : outcome = .ambiguous
      · subst ambiguous
        refine ⟨_, .quarantine (.intro _ _ _ _), ?_⟩
        rw [if_pos rfl, Option.map_some] at after
        exact .quarantined after (by simp) (challenge ▸ noChallenge) (consumed ▸ used)
      · refine ⟨_, .settle (.intro _ _ _ _ none ambiguous), ?_⟩
        rw [if_neg ambiguous, Option.map_none] at after
        exact .closed after (challenge ▸ noChallenge) (consumed ▸ used)
    | quarantined record held noChallenge used =>
      cases present.symm.trans record
      obtain ⟨-, ordinary, x, rfl, -⟩ := rule.resolve_right fun clean => by simp [held] at clean
      refine ⟨_, .resolve (.intro _ _ _ _ (some x.id) ordinary), ?_⟩
      rw [if_neg ordinary, Option.map_none] at after
      exact .closed after (challenge ▸ noChallenge) (consumed ▸ used)
  · have quiet : Quiet s (settled s i outcome att j) inv := by
      refine .of_demotion (j.disposition ≠ .permitted) j.agent ?_ challenge consumed
      rw [settled_pending, if_neg (fun same => here same.symm)]
    rw [KernelAction.about, if_neg (by simp [KernelAction.mentions, here])]
    exact quiet.next occupies

theorem begin_next {slot : Slot} {a : AgentId} {i : InvocationId} {chal : ChallengeId}
    {snap : ActionPolicySnapshot} {egr : VecSet EgressKind} {ah : ContentHash} {authorized : Bool}
    {r : KernelAction} (occupies : Occupies s inv slot)
    (accepted : beginInvocation s bg a i chal snap egr ah authorized = .ok (s', r)) :
    ∃ slot', Slot.Next bg.mode inv slot (r.about inv) slot' ∧ Occupies s' inv slot' := by
  obtain ⟨guards, effect, rfl⟩ := beginInvocation_ok.mp accepted
  generalize beginVerdict s bg a snap egr authorized = verdict at effect
  generalize bg.mode = mode at effect
  have used : i ∈ s'.consumedIds := by
    rw [effect.frame]
    exact VecSet.mem_insert.mpr (.inr rfl)
  by_cases here : i = inv
  · subst here
    rw [KernelAction.about, if_pos (by simp [KernelAction.mentions])]
    cases occupies with
    | challenged _ _ consumed => exact absurd consumed guards.fresh
    | running _ _ _ consumed => exact absurd consumed guards.fresh
    | quarantined _ _ _ consumed => exact absurd consumed guards.fresh
    | closed _ _ consumed => exact absurd consumed guards.fresh
    | fresh noRecord noChallenge unused =>
      cases effect with
      | permit =>
        exact ⟨_, .enter (.intro _ _ _ _) (.inl rfl),
          .running (pend_pending.trans (if_pos rfl)) rfl noChallenge used⟩
      | inspect =>
        exact ⟨_, .inspect rfl (.intro _ _ _ _),
          .challenged noRecord (challenge_challenges.trans (if_pos rfl)) used⟩
      | bypass =>
        exact ⟨_, .enter (.intro _ _ _ _) (.inr rfl),
          .running (pend_pending.trans (if_pos rfl)) rfl noChallenge used⟩
  · have quiet : Quiet s s' inv := by
      have elsewhere : inv ≠ i := fun same => here same.symm
      cases effect with
      | permit =>
        refine ⟨fun j' present => ⟨j', ?_, rfl⟩, fun _ h => h, ?_⟩
        · rwa [pend_pending, if_neg elsewhere] at present
        · exact VecSet.mem_insert.trans (or_iff_left elsewhere)
      | inspect =>
        refine ⟨fun j' present => ⟨j', present, rfl⟩, fun sc present => ?_, ?_⟩
        · rwa [challenge_challenges, if_neg elsewhere] at present
        · exact VecSet.mem_insert.trans (or_iff_left elsewhere)
      | bypass =>
        refine ⟨fun j' present => ⟨j', ?_, rfl⟩, fun _ h => h, ?_⟩
        · rwa [pend_pending, if_neg elsewhere] at present
        · exact VecSet.mem_insert.trans (or_iff_left elsewhere)
    rw [KernelAction.about, if_neg (by simp [KernelAction.mentions, here])]
    exact quiet.next occupies

theorem authorize_next {slot : Slot} {i : InvocationId} {att : InspectionAttestation} {r : KernelAction}
    (occupies : Occupies s inv slot) (accepted : authorizeInspected s bg i att = .ok (s', r)) :
    ∃ slot', Slot.Next bg.mode inv slot (r.about inv) slot' ∧ Occupies s' inv slot' := by
  obtain ⟨sc, open_, -, -, rfl, rfl⟩ := authorizeInspected_ok.mp accepted
  generalize (att.positive && authorizeAdmits s bg i sc) = admitted
  by_cases here : i = inv
  · subst here
    rw [KernelAction.about, if_pos (by simp [KernelAction.mentions])]
    have noChallenge : (resolve s i sc att.id admitted).challenges.get i = none :=
      resolve_challenges.trans (if_pos rfl)
    cases occupies with
    | fresh _ empty => rw [empty] at open_; cases open_
    | running _ _ empty => rw [empty] at open_; cases open_
    | quarantined _ _ empty => rw [empty] at open_; cases open_
    | closed _ empty => rw [empty] at open_; cases open_
    | challenged noRecord challenge used =>
      cases admitted with
      | true =>
        exact ⟨_, .approve (.intro _ _),
          .running (resolve_pending.trans (if_pos ⟨rfl, rfl⟩)) rfl noChallenge used⟩
      | false => exact ⟨_, .refuse (.intro _ _), .closed noRecord noChallenge used⟩
  · have elsewhere : inv ≠ i := fun same => here same.symm
    have quiet : Quiet s (resolve s i sc att.id admitted) inv := by
      refine ⟨fun j' present => ⟨j', ?_, rfl⟩, fun sc' present => ?_, Iff.rfl⟩
      · rwa [resolve_pending, if_neg (fun same => elsewhere same.1)] at present
      · rwa [resolve_challenges, if_neg elsewhere] at present
    rw [KernelAction.about, if_neg (by simp [KernelAction.mentions, here])]
    exact quiet.next occupies

theorem lifecycle_step {slot : Slot} {c : KernelCommand} {r : KernelAction}
    (occupies : Occupies s inv slot) (accepted : (kernel bg).step s c = .ok (s', r)) :
    ∃ slot', Slot.Next bg.mode inv slot (r.about inv) slot' ∧ Occupies s' inv slot' := by
  cases c with
  | registerTool tool =>
    obtain ⟨-, rfl, rfl⟩ := registerTool_ok.mp accepted
    exact Quiet.next (s := s) (.of_same rfl rfl rfl) occupies
  | unregisterTool tool =>
    obtain ⟨-, -, -, rfl, rfl⟩ := unregisterTool_ok.mp accepted
    exact Quiet.next (s := s) (.of_same rfl rfl rfl) occupies
  | delegate grantor grantee =>
    obtain ⟨-, -, -, -, rfl, rfl⟩ := delegate_ok.mp accepted
    exact (Quiet.of_filter enroll_pending enroll_challenges rfl).next occupies
  | grantCapability parent child cap =>
    obtain ⟨-, -, -, -, rfl, rfl⟩ := grantCapability_ok.mp accepted
    exact Quiet.next (s := s) (.of_same rfl rfl rfl) occupies
  | grantCrossing grantor agent assignment n =>
    obtain ⟨-, -, -, rfl, rfl⟩ := grantCrossing_ok.mp accepted
    exact Quiet.next (s := s) (.of_same rfl rfl rfl) occupies
  | revoke parent target =>
    obtain ⟨-, -, -, -, rfl, rfl⟩ := revoke_ok.mp accepted
    exact (Quiet.of_filter clearAgent_pending clearAgent_challenges rfl).next occupies
  | cascadeRevoke child parent =>
    obtain ⟨-, -, -, -, rfl, rfl⟩ := cascadeRevoke_ok.mp accepted
    exact (Quiet.of_filter clearAgent_pending clearAgent_challenges rfl).next occupies
  | ingest a src l li =>
    obtain ⟨-, -, d, -, rfl, rfl⟩ := ingest_ok.mp accepted
    exact (Quiet.of_demotion _ _ absorb_pending (by rw [absorb_eq]) (by rw [absorb_eq])).next occupies
  | settleInvocation i outcome att => exact settle_next occupies accepted
  | beginInvocation a i chal snap egr ah authorized => exact begin_next occupies accepted
  | authorizeInspected i att => exact authorize_next occupies accepted
  | crossOutput q =>
    obtain ⟨-, -, -, -, -, d, -, rfl, rfl⟩ := crossOutput_ok.mp accepted
    exact (Quiet.of_demotion _ _ crossed_pending (by rw [crossed_eq]) (by rw [crossed_eq])).next occupies

end Simulation

theorem run_trace {bg : BackgroundTheory} {history : List (KernelCommand × KernelAction)}
    {s : KernelState} (run : (kernel bg).Run history s) (inv : InvocationId) :
    ∃ slot, Trace bg.mode inv ((history.map Prod.snd).filter (·.mentions inv)) slot ∧
      Occupies s inv slot := by
  induction run with
  | start => exact ⟨.fresh, .fresh, .fresh rfl rfl VecSet.mem_new⟩
  | step run accepted ih =>
    rcases ih with ⟨slot, trace, occupies⟩
    obtain ⟨slot', next, occupies'⟩ := lifecycle_step occupies accepted
    refine ⟨slot', ?_, occupies'⟩
    rw [List.map_append, List.filter_append, List.map_singleton, filter_mentions_singleton]
    exact trace.next next

/-- The committed actions that mention an invocation are a prefix of one lifecycle, and the id is at
    most one of pending and challenged, and consumed when it is either. -/
theorem invocation_lifecycle {bg : BackgroundTheory} {history : List (KernelCommand × KernelAction)}
    {s : KernelState} (run : (kernel bg).Run history s) (inv : InvocationId) :
    (∃ life, Lifecycle bg.mode inv life ∧ (history.map Prod.snd).filter (·.mentions inv) <+: life) ∧
    ¬ (s.pending.containsKey inv = true ∧ s.challenges.containsKey inv = true) ∧
    (s.pending.containsKey inv = true ∨ s.challenges.containsKey inv = true → inv ∈ s.consumedIds) := by
  obtain ⟨slot, trace, occupies⟩ := run_trace run inv
  refine ⟨trace.prefix_of_lifecycle, ?_⟩
  simp only [VecMap.containsKey_eq]
  cases occupies <;> simp [*]

theorem invocation_lifecycle_sample : ∃ history, (kernel sampleBackground).Run history sampleState ∧
    (∃ life, Lifecycle sampleBackground.mode ⟨"call"⟩ life ∧
      (history.map Prod.snd).filter (·.mentions ⟨"call"⟩) <+: life) ∧
    ¬ (sampleState.pending.containsKey ⟨"call"⟩ = true ∧
      sampleState.challenges.containsKey ⟨"call"⟩ = true) ∧
    (sampleState.pending.containsKey ⟨"call"⟩ = true ∨
      sampleState.challenges.containsKey ⟨"call"⟩ = true → ⟨"call"⟩ ∈ sampleState.consumedIds) := by
  obtain ⟨history, run, -⟩ := (Machine.Run.start (M := kernel sampleBackground)).drive sampleCommands
  exact ⟨_, run, invocation_lifecycle run ⟨"call"⟩⟩

end Argus
