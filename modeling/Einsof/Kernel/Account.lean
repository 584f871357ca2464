import Einsof.Base.Ledger
import Einsof.Kernel.Authority

namespace Argus

variable {s s' : KernelState} {bg : BackgroundTheory} {a b : AgentId} {label : Label}
  {history : List (KernelCommand × KernelAction)} {c : KernelCommand} {r : KernelAction}

def Label.IsPair (l : ConfLevel) (li : IntegLevel) : Label → Prop
  | .conf k => k = l
  | .integ k => k = li

/-- What one accepted step gives an agent: an ingested pair, the output declared when a settled
    invocation began, a released pair, or whatever the source of an unendorsed crossing held. -/
inductive Contributes (held : AgentId → Label → Prop)
    (began : InvocationId → AgentId → ActionPolicySnapshot → Prop) :
    KernelCommand × KernelAction → AgentId → Label → Prop
  | ingest {a : AgentId} {src : Option AgentId} {l : ConfLevel} {li : IntegLevel} {r : KernelAction}
      {label : Label} (adds : label.IsPair l li) : Contributes held began (.ingest a src l li, r) a label
  | settled {inv : InvocationId} {outcome : Outcome} {att : Option ResolutionAttestation}
      {r : KernelAction} {a : AgentId} {snap : ActionPolicySnapshot} {label : Label}
      (owner : began inv a snap) (ordinary : outcome ≠ .ambiguous)
      (adds : label.IsPair snap.outputConf snap.outputInteg) :
      Contributes held began (.settleInvocation inv outcome att, r) a label
  | endorsed {q : CrossInput} {src rcv : AgentId} {crossing : CrossingId} {d : Disposition}
      {label : Label} (adds : label.IsPair q.releasedConf q.releasedInteg) :
      Contributes held began (.crossOutput q, .crossOutput src rcv crossing .endorsed d) q.rcv label
  | unendorsed {q : CrossInput} {src rcv : AgentId} {crossing : CrossingId} {d : Disposition}
      {label : Label} (holds : held q.src label) :
      Contributes held began (.crossOutput q, .crossOutput src rcv crossing .unendorsed d) q.rcv label

/-- The history begins invocation `i` for `a` under a policy. -/
def Began (history : List (KernelCommand × KernelAction)) (i : InvocationId) (a : AgentId)
    (snap : ActionPolicySnapshot) : Prop :=
  ∃ chal egr ah authorized r, (.beginInvocation a i chal snap egr ah authorized, r) ∈ history

/-- The account over a history given newest first. A delegation of an agent opens it anew. -/
def accountedFrom : List (KernelCommand × KernelAction) → AgentId → Label → Prop
  | [], _, _ => False
  | (c, r) :: earlier, a, label =>
    ((∀ grantor, c ≠ .delegate grantor a) ∧ accountedFrom earlier a label) ∨
      Contributes (accountedFrom earlier) (Began earlier.reverse) (c, r) a label

/-- The labels a history accounts to an agent, computed from its entries alone. -/
def Accounted (history : List (KernelCommand × KernelAction)) (a : AgentId) (label : Label) : Prop :=
  accountedFrom history.reverse a label

theorem accounted_nil : ¬ Accounted [] a label := id

theorem accounted_snoc : Accounted (history ++ [(c, r)]) a label ↔
    ((∀ grantor, c ≠ .delegate grantor a) ∧ Accounted history a label) ∨
      Contributes (Accounted history) (Began history) (c, r) a label := by
  rw [Accounted, List.reverse_append, List.reverse_singleton, List.singleton_append, accountedFrom,
    List.reverse_reverse]
  rfl

/-- An agent's account is what the entries since its latest delegation contributed. -/
theorem accounted_iff : Accounted history a label ↔ ∃ before entry after,
    history = before ++ entry :: after ∧
    Contributes (Accounted before) (Began before) entry a label ∧
    ∀ e ∈ after, ∀ grantor, e.1 ≠ .delegate grantor a := by
  induction history using List.reverseRecOn with
  | nil => simp [accounted_nil]
  | append_singleton history last ih =>
    rcases last with ⟨c, r⟩
    rw [accounted_snoc, ih]
    constructor
    · intro either
      rcases either with ⟨kept, before, entry, after, rfl, adds, others⟩ | adds
      · refine ⟨before, entry, after ++ [(c, r)], by simp, adds, ?_⟩
        intro e member
        rcases List.mem_append.mp member with earlier | here
        · exact others e earlier
        · rw [List.mem_singleton.mp here]
          exact kept
      · exact ⟨history, (c, r), [], rfl, adds, fun e member => absurd member List.not_mem_nil⟩
    · intro facts
      obtain ⟨before, entry, after, split, adds, others⟩ := facts
      induction after using List.reverseRecOn with
      | nil =>
        obtain ⟨same, last⟩ := List.append_inj' split rfl
        subst same
        cases last
        exact .inr adds
      | append_singleton after e _ =>
        rw [← List.cons_append, ← List.append_assoc] at split
        obtain ⟨same, last⟩ := List.append_inj' split rfl
        cases last
        refine .inl ⟨others (c, r) (by simp), before, entry, after, same, adds, ?_⟩
        intro e member
        exact others e (List.mem_append_left _ member)

section Effect

theorem enroll_holds {grantor : AgentId} : (enroll s grantor a).Holds b label ↔ s.Holds b label ∧ b ≠ a := by
  cases label with
  | conf l => exact enroll_taints
  | integ l => exact enroll_integs

theorem clearAgent_holds : (clearAgent s a).Holds b label ↔ s.Holds b label ∧ b ≠ a := by
  cases label with
  | conf l => exact clearAgent_taints
  | integ l => exact clearAgent_integs

theorem absorb_holds {l : ConfLevel} {li : IntegLevel} {d : Disposition} :
    (absorb s a l li d).Holds b label ↔ s.Holds b label ∨ (b = a ∧ label.IsPair l li) := by
  cases label with
  | conf k => exact absorb_taints
  | integ k => exact absorb_integs

theorem settled_holds {inv : InvocationId} {outcome : Outcome} {att : Option ResolutionAttestation}
    {j : PendingInvocation} : (settled s inv outcome att j).Holds b label ↔ s.Holds b label ∨
      (outcome ≠ .ambiguous ∧ b = j.agent ∧ label.IsPair j.policy.outputConf j.policy.outputInteg) := by
  cases label with
  | conf k => exact settled_taints
  | integ k => exact settled_integs

/-- What a crossing gives its receiver on each branch. -/
def releases (held : AgentId → Label → Prop) (q : CrossInput) : CrossBranch → Label → Prop
  | .endorsed, label => label.IsPair q.releasedConf q.releasedInteg
  | .unendorsed, label => held q.src label
  | .fail, _ => False

theorem crossed_holds {q : CrossInput} {branch : CrossBranch} {d : Disposition} :
    (crossed s q branch d).Holds b label ↔
      s.Holds b label ∨ (b = q.rcv ∧ releases s.Holds q branch label) := by
  cases label with
  | conf k => cases branch <;> exact crossed_taints
  | integ k => cases branch <;> exact crossed_integs

end Effect

section Contributes

variable {held : AgentId → Label → Prop} {began : InvocationId → AgentId → ActionPolicySnapshot → Prop}

theorem contributes_ingest {src : Option AgentId} {l : ConfLevel} {li : IntegLevel} :
    Contributes held began (.ingest a src l li, r) b label ↔ b = a ∧ label.IsPair l li := by
  constructor
  · intro adds
    cases adds with
    | ingest adds => exact ⟨rfl, adds⟩
  · intro facts
    rcases facts with ⟨rfl, adds⟩
    exact .ingest adds

theorem contributes_settle {inv : InvocationId} {outcome : Outcome} {att : Option ResolutionAttestation} :
    Contributes held began (.settleInvocation inv outcome att, r) b label ↔
      outcome ≠ .ambiguous ∧ ∃ snap, began inv b snap ∧
        label.IsPair snap.outputConf snap.outputInteg := by
  constructor
  · intro adds
    cases adds with
    | settled owner ordinary adds => exact ⟨ordinary, _, owner, adds⟩
  · intro facts
    obtain ⟨ordinary, snap, owner, adds⟩ := facts
    exact .settled owner ordinary adds

theorem contributes_cross {q : CrossInput} {src rcv : AgentId} {crossing : CrossingId}
    {branch : CrossBranch} {d : Disposition} :
    Contributes held began (.crossOutput q, .crossOutput src rcv crossing branch d) b label ↔
      b = q.rcv ∧ releases held q branch label := by
  constructor
  · intro adds
    cases adds with
    | endorsed adds => exact ⟨rfl, adds⟩
    | unendorsed holds => exact ⟨rfl, holds⟩
  · intro facts
    rcases facts with ⟨rfl, adds⟩
    cases branch with
    | endorsed => exact .endorsed adds
    | unendorsed => exact .unendorsed adds
    | fail => exact adds.elim

end Contributes

/-- Invocation `i` is pending for `a` under a policy. -/
def KernelState.Owes (s : KernelState) (i : InvocationId) (a : AgentId) (snap : ActionPolicySnapshot) :
    Prop :=
  ∃ j, s.pending.get i = some j ∧ j.agent = a ∧ j.policy = snap

theorem same_holds (taint : s'.taintLevels = s.taintLevels) (integ : s'.integLevels = s.integLevels) :
    s'.Holds b label ↔ s.Holds b label := by
  rw [holds_ext taint integ]

/-- A step that contributes nothing keeps what an agent holds. -/
theorem holds_silent (same : s'.Holds b label ↔ s.Holds b label)
    (kept : ∀ grantor, c ≠ .delegate grantor b)
    (silent : ¬ Contributes s.Holds s.Owes (c, r) b label) :
    s'.Holds b label ↔ ((∀ grantor, c ≠ .delegate grantor b) ∧ s.Holds b label) ∨
      Contributes s.Holds s.Owes (c, r) b label := by
  rw [same]
  constructor
  · intro holds
    exact .inl ⟨kept, holds⟩
  · intro either
    exact either.elim And.right fun adds => absurd adds silent

/-- After a step an active agent holds what it held, unless just delegated, and what the step gave. -/
theorem holds_step (accepted : (kernel bg).step s c = .ok (s', r)) (active : b ∈ s'.agentActive) :
    s'.Holds b label ↔ ((∀ grantor, c ≠ .delegate grantor b) ∧ s.Holds b label) ∨
      Contributes s.Holds s.Owes (c, r) b label := by
  cases c with
  | registerTool tool =>
    obtain ⟨-, rfl, -⟩ := registerTool_ok.mp accepted
    exact holds_silent (same_holds rfl rfl) nofun nofun
  | unregisterTool tool =>
    obtain ⟨-, -, -, rfl, -⟩ := unregisterTool_ok.mp accepted
    exact holds_silent (same_holds rfl rfl) nofun nofun
  | delegate grantor grantee =>
    obtain ⟨-, -, -, -, rfl, -⟩ := delegate_ok.mp accepted
    by_cases fresh : b = grantee
    · subst fresh
      constructor
      · intro held
        exact absurd rfl (enroll_holds.mp held).2
      · intro either
        rcases either with ⟨kept, -⟩ | adds
        · exact absurd rfl (kept grantor)
        · cases adds
    · refine holds_silent (enroll_holds.trans (and_iff_left fresh)) ?_ nofun
      intro other same
      cases same
      exact fresh rfl
  | grantCapability parent child cap =>
    obtain ⟨-, -, -, -, rfl, -⟩ := grantCapability_ok.mp accepted
    exact holds_silent (same_holds rfl rfl) nofun nofun
  | grantCrossing grantor agent assignment n =>
    obtain ⟨-, -, -, rfl, -⟩ := grantCrossing_ok.mp accepted
    exact holds_silent (same_holds rfl rfl) nofun nofun
  | revoke parent target =>
    obtain ⟨-, -, -, -, rfl, -⟩ := revoke_ok.mp accepted
    have spared := (VecSet.mem_remove.mp active).2
    exact holds_silent (clearAgent_holds.trans (and_iff_left spared)) nofun nofun
  | cascadeRevoke child parent =>
    obtain ⟨-, -, -, -, rfl, -⟩ := cascadeRevoke_ok.mp accepted
    have spared := (VecSet.mem_remove.mp active).2
    exact holds_silent (clearAgent_holds.trans (and_iff_left spared)) nofun nofun
  | ingest a src l li =>
    obtain ⟨-, -, d, -, rfl, -⟩ := ingest_ok.mp accepted
    rw [absorb_holds, contributes_ingest]
    exact or_congr_left (and_iff_right nofun).symm
  | settleInvocation inv outcome att =>
    obtain ⟨j, present, -, -, -, rfl, -⟩ := settleInvocation_ok.mp accepted
    rw [settled_holds, contributes_settle]
    apply or_congr (and_iff_right nofun).symm
    apply and_congr_right'
    constructor
    · intro facts
      rcases facts with ⟨rfl, adds⟩
      exact ⟨j.policy, ⟨j, present, rfl, rfl⟩, adds⟩
    · intro facts
      obtain ⟨snap, ⟨k, here, owner, policy⟩, adds⟩ := facts
      cases present.symm.trans here
      exact ⟨owner.symm, policy ▸ adds⟩
  | beginInvocation a inv chal snap egr ah authorized =>
    obtain ⟨-, effect, -⟩ := beginInvocation_ok.mp accepted
    rw [effect.frame]
    exact holds_silent (same_holds rfl rfl) nofun nofun
  | authorizeInspected inv att =>
    obtain ⟨sc, -, -, -, rfl, -⟩ := authorizeInspected_ok.mp accepted
    exact holds_silent (same_holds rfl rfl) nofun nofun
  | crossOutput q =>
    obtain ⟨-, -, -, -, -, d, -, rfl, rfl⟩ := crossOutput_ok.mp accepted
    rw [crossed_holds, contributes_cross]
    exact or_congr_left (and_iff_right nofun).symm

def beginsAt : KernelCommand × KernelAction → List InvocationId
  | (.beginInvocation _ inv _ _ _ _ _, _) => [inv]
  | _ => []

theorem consumedIds_step (accepted : (kernel bg).step s c = .ok (s', r)) (x : InvocationId) :
    x ∈ s'.consumedIds ↔ x ∈ s.consumedIds ∨ x ∈ beginsAt (c, r) := by
  cases c with
  | registerTool tool =>
    obtain ⟨-, rfl, -⟩ := registerTool_ok.mp accepted
    simp [beginsAt]
  | unregisterTool tool =>
    obtain ⟨-, -, -, rfl, -⟩ := unregisterTool_ok.mp accepted
    simp [beginsAt]
  | delegate grantor grantee =>
    obtain ⟨-, -, -, -, rfl, -⟩ := delegate_ok.mp accepted
    simp [beginsAt]
  | grantCapability parent child cap =>
    obtain ⟨-, -, -, -, rfl, -⟩ := grantCapability_ok.mp accepted
    simp [beginsAt]
  | grantCrossing grantor agent assignment n =>
    obtain ⟨-, -, -, rfl, -⟩ := grantCrossing_ok.mp accepted
    simp [beginsAt]
  | revoke parent target =>
    obtain ⟨-, -, -, -, rfl, -⟩ := revoke_ok.mp accepted
    simp [beginsAt]
  | cascadeRevoke child parent =>
    obtain ⟨-, -, -, -, rfl, -⟩ := cascadeRevoke_ok.mp accepted
    simp [beginsAt]
  | ingest a src l li =>
    obtain ⟨-, -, d, -, rfl, -⟩ := ingest_ok.mp accepted
    simp [beginsAt, absorb_eq]
  | settleInvocation inv outcome att =>
    obtain ⟨j, -, -, -, -, rfl, -⟩ := settleInvocation_ok.mp accepted
    simp [beginsAt, settled_eq]
  | beginInvocation a inv chal snap egr ah authorized =>
    obtain ⟨-, effect, -⟩ := beginInvocation_ok.mp accepted
    rw [effect.frame]
    simp [beginsAt]
  | authorizeInspected inv att =>
    obtain ⟨sc, -, -, -, rfl, -⟩ := authorizeInspected_ok.mp accepted
    simp [beginsAt, resolve]
  | crossOutput q =>
    obtain ⟨-, -, -, -, -, d, -, rfl, -⟩ := crossOutput_ok.mp accepted
    simp [beginsAt, crossed_eq]

theorem begin_ledger (bg : BackgroundTheory) :
    (kernel bg).Ledger (fun s x => x ∈ s.consumedIds) beginsAt where
  initial _ := VecSet.mem_new
  once {_ c _ _} _ := by cases c <;> simp [beginsAt]
  fresh {s c s' r} accepted x begins := by
    cases c with
    | beginInvocation a inv chal snap egr ah authorized =>
      obtain ⟨guards, -, -⟩ := beginInvocation_ok.mp accepted
      rw [List.mem_singleton.mp begins]
      exact guards.fresh
    | _ => cases begins
  remember accepted := consumedIds_step accepted

/-- Open work was begun in the history by its owner and under its policy. -/
theorem open_began (run : (kernel bg).Run history s) {i : InvocationId} {snap : ActionPolicySnapshot}
    {egr : VecSet EgressKind} (opened : s.Open i a snap egr) : Began history i a snap := by
  induction run generalizing a with
  | start =>
    cases opened with
    | pending present => cases present
    | challenge present => cases present
  | @step history s s' c r run accepted ih =>
    cases open_step accepted opened with
    | kept earlier _ _ =>
      obtain ⟨chal, egr, ah, authorized, r₀, member⟩ := ih earlier
      exact ⟨chal, egr, ah, authorized, r₀, List.mem_append_left _ member⟩
    | begun chal ah authorized begins =>
      subst begins
      exact ⟨chal, egr, ah, authorized, r, by simp⟩

/-- A pending invocation's owner and policy are the ones the history began it with. -/
theorem owes_iff_began (run : (kernel bg).Run history s) {i : InvocationId} {j : PendingInvocation}
    (present : s.pending.get i = some j) (snap : ActionPolicySnapshot) :
    s.Owes i a snap ↔ Began history i a snap := by
  constructor
  · intro owes
    obtain ⟨k, here, rfl, rfl⟩ := owes
    exact open_began run (.pending here)
  · intro began
    obtain ⟨chal, egr, ah, authorized, r, member⟩ := began
    obtain ⟨chal', egr', ah', authorized', r', member'⟩ := open_began run (.pending present)
    have same := (begin_ledger bg).unique run member member' (List.mem_singleton_self i)
      (List.mem_singleton_self i)
    cases same
    exact ⟨j, present, rfl, rfl⟩

theorem contributes_owner {held : AgentId → Label → Prop} (run : (kernel bg).Run history s)
    (accepted : (kernel bg).step s c = .ok (s', r)) :
    Contributes held s.Owes (c, r) b label ↔ Contributes held (Began history) (c, r) b label := by
  cases c with
  | ingest a src l li => rw [contributes_ingest, contributes_ingest]
  | settleInvocation inv outcome att =>
    obtain ⟨j, present, -⟩ := settleInvocation_ok.mp accepted
    simp only [contributes_settle, owes_iff_began run present]
  | crossOutput q =>
    obtain ⟨-, -, -, -, -, d, -, -, rfl⟩ := crossOutput_ok.mp accepted
    rw [contributes_cross, contributes_cross]
  | _ => exact ⟨nofun, nofun⟩

theorem contributes_source {began : InvocationId → AgentId → ActionPolicySnapshot → Prop}
    (accounts : ∀ a ∈ s.agentActive, ∀ label, s.Holds a label ↔ Accounted history a label)
    (accepted : (kernel bg).step s c = .ok (s', r)) :
    Contributes s.Holds began (c, r) b label ↔
      Contributes (Accounted history) began (c, r) b label := by
  cases c with
  | ingest a src l li => rw [contributes_ingest, contributes_ingest]
  | settleInvocation inv outcome att => rw [contributes_settle, contributes_settle]
  | crossOutput q =>
    obtain ⟨active, -, -, -, -, d, -, -, rfl⟩ := crossOutput_ok.mp accepted
    rw [contributes_cross, contributes_cross]
    cases crossBranch s q with
    | unendorsed => exact and_congr_right' (accounts q.src active label)
    | endorsed | fail => rfl
  | _ => exact ⟨nofun, nofun⟩

theorem holds_iff_accounted (run : (kernel bg).Run history s) (active : a ∈ s.agentActive) :
    s.Holds a label ↔ Accounted history a label := by
  induction run generalizing a label with
  | start =>
    cases label with
    | conf l => exact ⟨fun held => absurd held VecMap.mem_getSetOrEmpty_new, fun none => none.elim⟩
    | integ l => exact ⟨fun held => absurd held VecMap.mem_getSetOrEmpty_new, fun none => none.elim⟩
  | @step history s s' c r run accepted ih =>
    rw [holds_step accepted active, accounted_snoc, contributes_owner run accepted,
      contributes_source (fun _ active _ => ih active) accepted]
    apply or_congr_left
    apply and_congr_right
    intro kept
    rcases (tree_step accepted).active active with earlier | ⟨grantor, delegated⟩
    · exact ih earlier
    · exact absurd delegated (kept grantor)

/-- No label is lost while its holder stays active. -/
theorem labels_grow (path : (kernel bg).Throughout (a ∈ ·.agentActive) s s') (held : s.Holds a label) :
    s'.Holds a label := by
  apply path.keep held
  intro u c u' r before after held accepted
  refine (holds_step accepted after).mpr (.inl ⟨?_, held⟩)
  intro grantor same
  subst same
  exact (delegate_ok.mp accepted).2.1 before

/-- The labels of an active agent are exactly those the history accounts to it: what the entries since
    its latest delegation contributed, the source of an unendorsed crossing giving what it held at that
    moment. None is lost while the agent stays active. -/
theorem labels_accounted (run : (kernel bg).Run history s) (active : a ∈ s.agentActive) :
    (∀ label, s.Holds a label ↔ Accounted history a label) ∧
    (∀ label, s.Holds a label ↔ ∃ before entry after u,
      history = before ++ entry :: after ∧ (kernel bg).Run before u ∧
      Contributes u.Holds (Began before) entry a label ∧
      ∀ e ∈ after, ∀ grantor, e.1 ≠ .delegate grantor a) ∧
    ∀ s' label, (kernel bg).Throughout (a ∈ ·.agentActive) s s' → s.Holds a label → s'.Holds a label := by
  refine ⟨fun label => holds_iff_accounted run active, fun label => ?_, ?_⟩
  · rw [holds_iff_accounted run active, accounted_iff]
    constructor
    · intro facts
      obtain ⟨before, ⟨c, r⟩, after, rfl, adds, others⟩ := facts
      obtain ⟨u, u', earlier, accepted⟩ := run.split
      have accounts : ∀ b ∈ u.agentActive, ∀ label, u.Holds b label ↔ Accounted before b label :=
        fun _ active _ => holds_iff_accounted earlier active
      exact ⟨before, (c, r), after, u, rfl, earlier, (contributes_source accounts accepted).mpr adds,
        others⟩
    · intro facts
      obtain ⟨before, ⟨c, r⟩, after, u, rfl, earlier, adds, others⟩ := facts
      obtain ⟨v, u', run', accepted⟩ := run.split
      cases earlier.unique run'
      have accounts : ∀ b ∈ u.agentActive, ∀ label, u.Holds b label ↔ Accounted before b label :=
        fun _ active _ => holds_iff_accounted earlier active
      exact ⟨before, (c, r), after, rfl, (contributes_source accounts accepted).mp adds, others⟩
  · intro s' label path held
    exact labels_grow path held

/-- Two workers: an internal ingest into one reaches the other by an unendorsed crossing. -/
def relayCommands : List KernelCommand :=
  [.delegate AgentId.root ⟨"reader"⟩, .delegate AgentId.root ⟨"writer"⟩,
    .ingest ⟨"reader"⟩ none .«internal» .standard,
    .crossOutput ⟨⟨"reader"⟩, ⟨"writer"⟩, ⟨"crossing"⟩, ⟨"output"⟩, ⟨"descriptor"⟩, .releaseUnendorsed,
      .trusted, none, ⟨"assignment"⟩, none, .«public», .trusted⟩]

theorem labels_accounted_sample : ∃ history s,
    (kernel sampleBackground).Run history s ∧ s.Holds ⟨"writer"⟩ (.conf .«internal») ∧
    Accounted history ⟨"writer"⟩ (.conf .«internal») := by
  obtain ⟨history, run, -⟩ := (Machine.Run.start (M := kernel sampleBackground)).drive relayCommands
  have held : ((kernel sampleBackground).drive KernelState.initial relayCommands).1.Holds ⟨"writer"⟩
      (.conf .«internal») := by
    unfold KernelState.Holds
    decide
  exact ⟨_, _, run, held, ((labels_accounted run (by decide)).1 _).mp held⟩

end Argus
