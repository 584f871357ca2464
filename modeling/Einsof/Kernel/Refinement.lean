import Einsof.Base.Refinement
import Einsof.Kernel.Abstraction
import Einsof.Kernel.Lifecycle

namespace Argus

section States

variable {bg : BackgroundTheory} {s s' : KernelState}

theorem abs_taintLevels_eq {held : AgentId → Tzimtzum.ConfLevel → Prop}
    (same : ∀ a l, s'.Taints a l ↔ held a l.abs) : (abs bg s').taintLevels = held := by
  funext a level
  obtain ⟨l, rfl⟩ := ConfLevel.abs_surjective level
  exact propext (abs_taintLevels.trans (same a l))

theorem abs_integLevels_eq {held : AgentId → Tzimtzum.IntegLevel → Prop}
    (same : ∀ a l, s'.Integs a l ↔ held a l.abs) : (abs bg s').integLevels = held := by
  funext a level
  obtain ⟨l, rfl⟩ := IntegLevel.abs_surjective level
  exact propext (abs_integLevels.trans (same a l))

theorem abs_pending_dropped {a : AgentId}
    (dropped : ∀ i, s'.pending.get i = (s.pending.get i).filter (·.agent ≠ a)) :
    (abs bg s').pending = Tzimtzum.dropPendingOf (abs bg s).pending a := by
  funext i
  simp only [abs, Tzimtzum.dropPendingOf, dropped]
  cases s.pending.get i with
  | none => rfl
  | some j => by_cases own : j.agent = a <;> simp [Option.filter, own]

theorem abs_challenges_dropped {a : AgentId}
    (dropped : ∀ i, s'.challenges.get i = (s.challenges.get i).filter (·.agent ≠ a)) :
    (abs bg s').challenges = Tzimtzum.dropChallengesOf (abs bg s).challenges a := by
  funext i
  simp only [abs, Tzimtzum.dropChallengesOf, dropped]
  cases s.challenges.get i with
  | none => rfl
  | some sc => by_cases own : sc.agent = a <;> simp [Option.filter, own, ChallengeScope.abs]

theorem abs_grants_dropped {a : AgentId} (dropped : ∀ key, s'.crossingGrants.get key =
      if key.agent = a then none else s.crossingGrants.get key) :
    (abs bg s').crossingGrants = Tzimtzum.dropGrantsOf (abs bg s).crossingGrants a := by
  funext b assignment
  simp only [abs, Tzimtzum.dropGrantsOf, dropped]
  by_cases own : b = a <;> simp [own]

theorem abs_demoted (a : AgentId) (j : PendingInvocation) : (KernelState.demoted a j).abs =
    if j.agent = a then { j.abs with disposition := .monitorBypassed } else j.abs := by
  unfold KernelState.demoted
  split <;> rfl

theorem demoteAllOf_abs {records records' : InvocationId → Option PendingInvocation} {a : AgentId}
    {p : Prop} [Decidable p] (demotes : ∀ i, records' i = (records i).map (demotedIf p a)) :
    (fun i => (records' i).map PendingInvocation.abs) =
      if p then Tzimtzum.demoteAllOf (fun i => (records i).map PendingInvocation.abs) a
      else fun i => (records i).map PendingInvocation.abs := by
  funext i
  rw [demotes]
  by_cases holds : p
  · have always : demotedIf p a = KernelState.demoted a := funext fun j => if_pos holds
    simp only [holds, if_true, always, Tzimtzum.demoteAllOf]
    cases records i with
    | none => rfl
    | some j => by_cases own : j.agent = a <;> simp [own, abs_demoted]
  · have never : demotedIf p a = id := funext fun j => if_neg holds
    simp only [holds, if_false, never, Option.map_id_fun, id_eq]

theorem abs_registerTool (tool : ToolId) :
    abs bg { s with toolRegistered := s.toolRegistered.insert tool } =
      { abs bg s with toolRegistered := fun T => (abs bg s).toolRegistered T ∨ T = tool } := by
  simp only [abs, VecSet.mem_insert]
  rfl

theorem abs_unregisterTool (tool : ToolId) :
    abs bg { s with toolRegistered := s.toolRegistered.remove tool } =
      { abs bg s with toolRegistered := fun T => (abs bg s).toolRegistered T ∧ T ≠ tool } := by
  simp only [abs, VecSet.mem_remove]
  rfl

theorem abs_enroll (grantor grantee : AgentId) : abs bg (enroll s grantor grantee) = { abs bg s with
    agentActive := fun A => (abs bg s).agentActive A ∨ A = grantee
    agentParent := fun C P => (C = grantee ∧ P = grantor) ∨
      ((abs bg s).agentParent C P ∧ C ≠ grantee ∧ P ≠ grantee)
    agentCap := fun N C => (abs bg s).agentCap N C ∧ N ≠ grantee
    taintLevels := fun A L => (abs bg s).taintLevels A L ∧ A ≠ grantee
    integLevels := fun A L => (abs bg s).integLevels A L ∧ A ≠ grantee
    pending := Tzimtzum.dropPendingOf (abs bg s).pending grantee
    challenges := Tzimtzum.dropChallengesOf (abs bg s).challenges grantee
    crossingGrants := Tzimtzum.dropGrantsOf (abs bg s).crossingGrants grantee } := by
  apply Tzimtzum.St.ext
  case agentActive => funext A; exact propext VecSet.mem_insert
  case agentParent =>
    funext C P
    simp only [abs, enroll_parent]
    by_cases self : C = grantee
    · simp [self, eq_comm]
    · simp [self, Option.filter_eq_some_iff]
  case agentCap => funext N C; exact propext enroll_hasCap
  case taintLevels => exact abs_taintLevels_eq fun A l => by simp
  case integLevels => exact abs_integLevels_eq fun A l => by simp
  case pending => exact abs_pending_dropped fun i => enroll_pending
  case challenges => exact abs_challenges_dropped fun i => enroll_challenges
  case crossingGrants => exact abs_grants_dropped fun key => enroll_crossingGrants
  all_goals rfl

theorem abs_clearAgent (target : AgentId) : abs bg (clearAgent s target) = { abs bg s with
    agentActive := fun A => (abs bg s).agentActive A ∧ A ≠ target
    agentParent := fun C P => (abs bg s).agentParent C P ∧ C ≠ target
    agentCap := fun A C => (abs bg s).agentCap A C ∧ A ≠ target
    taintLevels := fun A L => (abs bg s).taintLevels A L ∧ A ≠ target
    integLevels := fun A L => (abs bg s).integLevels A L ∧ A ≠ target
    pending := Tzimtzum.dropPendingOf (abs bg s).pending target
    challenges := Tzimtzum.dropChallengesOf (abs bg s).challenges target
    crossingGrants := Tzimtzum.dropGrantsOf (abs bg s).crossingGrants target } := by
  apply Tzimtzum.St.ext
  case agentActive => funext A; exact propext VecSet.mem_remove
  case agentParent =>
    funext C P
    simp only [abs, clearAgent_parent]
    by_cases self : C = target <;> simp [self]
  case agentCap => funext A C; exact propext clearAgent_hasCap
  case taintLevels => exact abs_taintLevels_eq fun A l => by simp
  case integLevels => exact abs_integLevels_eq fun A l => by simp
  case pending => exact abs_pending_dropped fun i => clearAgent_pending
  case challenges => exact abs_challenges_dropped fun i => clearAgent_challenges
  case crossingGrants => exact abs_grants_dropped fun key => clearAgent_crossingGrants
  all_goals rfl

theorem abs_absorb (a : AgentId) (l : ConfLevel) (li : IntegLevel) (d : Disposition) :
    abs bg (absorb s a l li d) = { abs bg s with
      taintLevels := fun A L => (abs bg s).taintLevels A L ∨ (A = a ∧ L = l.abs)
      integLevels := fun A L => (abs bg s).integLevels A L ∨ (A = a ∧ L = li.abs)
      pending := if d.abs = .monitorBypassed then Tzimtzum.demoteAllOf (abs bg s).pending a
        else (abs bg s).pending } := by
  apply Tzimtzum.St.ext
  case taintLevels => exact abs_taintLevels_eq fun A l => by simp
  case integLevels => exact abs_integLevels_eq fun A l => by simp
  case pending =>
    simp only [Disposition.abs_monitorBypassed]
    exact demoteAllOf_abs fun i => absorb_pending
  all_goals rw [absorb_eq]; rfl

theorem settleAt_abs {inv : InvocationId} {outcome : Outcome} {j : PendingInvocation}
    (present : s.pending.get inv = some j) :
    (fun i => (if i = inv then if outcome = .ambiguous then some { j with quarantined := true } else none
      else s.pending.get i).map PendingInvocation.abs) =
      Tzimtzum.settleAt (abs bg s).pending inv outcome.abs := by
  funext i
  by_cases here : i = inv
  · by_cases ambiguous : outcome = .ambiguous <;>
      simp [abs, Tzimtzum.settleAt, here, present, ambiguous, PendingInvocation.abs]
  · simp [abs, Tzimtzum.settleAt, here]

theorem abs_settled {inv : InvocationId} {outcome : Outcome} {att : Option ResolutionAttestation}
    {j : PendingInvocation} (present : s.pending.get inv = some j) :
    abs bg (settled s inv outcome att j) = { abs bg s with
      pending := if j.disposition.abs = .permitted
        then Tzimtzum.settleAt (abs bg s).pending inv outcome.abs
        else Tzimtzum.demoteAllOf (Tzimtzum.settleAt (abs bg s).pending inv outcome.abs) j.agent
      taintLevels := fun A L => (abs bg s).taintLevels A L ∨
        (outcome.abs ≠ .ambiguous ∧ A = j.agent ∧ L = j.policy.outputConf.abs)
      integLevels := fun A L => (abs bg s).integLevels A L ∨
        (outcome.abs ≠ .ambiguous ∧ A = j.agent ∧ L = j.policy.outputInteg.abs)
      consumedAttestations := fun X => (abs bg s).consumedAttestations X ∨
        ∃ r, att.map ResolutionAttestation.abs = some r ∧ X = r.id } := by
  apply Tzimtzum.St.ext
  case pending =>
    simp only [Disposition.abs_permitted]
    rw [← settleAt_abs present, ← ite_not]
    exact demoteAllOf_abs fun i => settled_pending
  case taintLevels => exact abs_taintLevels_eq fun A l => by simp
  case integLevels => exact abs_integLevels_eq fun A l => by simp
  case consumedAttestations =>
    funext X
    refine propext (settled_consumedAttestations.trans (or_congr Iff.rfl ?_))
    cases att <;> simp [ResolutionAttestation.abs]
  all_goals rw [settled_eq]; rfl

theorem abs_pend (inv : InvocationId) (j : PendingInvocation) : abs bg (s.pend inv j) = { abs bg s with
    pending := fun I => if I = inv then some j.abs else (abs bg s).pending I
    consumedIds := fun I => (abs bg s).consumedIds I ∨ I = inv } := by
  apply Tzimtzum.St.ext
  case pending =>
    funext I
    simp only [abs, pend_pending]
    by_cases here : I = inv <;> simp [here]
  case consumedIds => funext I; exact propext VecSet.mem_insert
  all_goals rfl

theorem abs_challenge (inv : InvocationId) (sc : ChallengeScope) :
    abs bg (s.challenge inv sc) = { abs bg s with
      challenges := fun I => if I = inv then some sc.abs else (abs bg s).challenges I
      consumedIds := fun I => (abs bg s).consumedIds I ∨ I = inv } := by
  apply Tzimtzum.St.ext
  case challenges =>
    funext I
    simp only [abs, challenge_challenges]
    by_cases here : I = inv <;> simp [here]
  case consumedIds => funext I; exact propext VecSet.mem_insert
  all_goals rfl

theorem abs_resolve (inv : InvocationId) (sc : ChallengeScope) (att : InspectionAttestation)
    (permit : Bool) : (Tzimtzum.authorizeInspected inv sc.abs att.abs permit).next (abs bg s)
      (abs bg (resolve s inv sc att.id permit)) := by
  apply Tzimtzum.St.ext
  case pending =>
    funext I
    simp only [abs, resolve_pending]
    by_cases here : I = inv ∧ permit = true
    · simp [here, PendingInvocation.abs, Disposition.abs, Admission.abs, ChallengeScope.abs,
        InspectionAttestation.abs]
    · rw [if_neg here, if_neg here]
  case challenges =>
    funext I
    simp only [abs, resolve_challenges]
    by_cases here : I = inv <;> simp [here]
  case consumedAttestations => funext X; exact propext VecSet.mem_insert
  all_goals rfl

theorem CrossBranch.abs_endorsed {branch : CrossBranch} : branch.abs = .endorsed ↔ branch = .endorsed := by
  cases branch <;> simp [CrossBranch.abs]

theorem abs_decremented {rcv : AgentId} {assignment : AssignmentDigest} {p : Prop} [Decidable p]
    (funded : p → ∃ g, s.crossingGrants.get ⟨rcv, assignment⟩ = some g ∧ 0 < g.remaining)
    (spent : ∀ key, s'.crossingGrants.get key = if p ∧ key = ⟨rcv, assignment⟩ then
      (s.crossingGrants.get key).map (fun g => ⟨g.remaining - 1, g.provisioned⟩)
      else s.crossingGrants.get key) :
    (abs bg s').crossingGrants = if p then Tzimtzum.decrementGrantAt (abs bg s).crossingGrants rcv assignment
      else (abs bg s).crossingGrants := by
  funext b d
  simp only [abs, spent]
  by_cases endorsed : p
  · by_cases here : b = rcv ∧ d = assignment
    · rcases here with ⟨rfl, rfl⟩
      obtain ⟨g, found, positive⟩ := funded endorsed
      have one : 1 ≤ g.remaining := positive
      simp [endorsed, found, Tzimtzum.decrementGrantAt, CrossingGrant.abs,
        UInt32.toNat_sub_of_le _ _ one]
    · have other : (⟨b, d⟩ : CrossingKey) ≠ ⟨rcv, assignment⟩ := by
        intro same
        cases same
        exact here ⟨rfl, rfl⟩
      simp [endorsed, other, here, Tzimtzum.decrementGrantAt]
  · simp [endorsed]

theorem abs_crossed {q : CrossInput} {branch : CrossBranch} {d : Disposition}
    (funded : branch = .endorsed →
      ∃ g, s.crossingGrants.get ⟨q.rcv, q.assignment⟩ = some g ∧ 0 < g.remaining) :
    abs bg (crossed s q branch d) = { abs bg s with
      taintLevels := fun A L => (abs bg s).taintLevels A L ∨
        (branch.abs = .endorsed ∧ A = q.rcv ∧ L = q.releasedConf.abs) ∨
        (branch.abs = .unendorsed ∧ A = q.rcv ∧ (abs bg s).taintLevels q.src L)
      integLevels := fun A L => (abs bg s).integLevels A L ∨
        (branch.abs = .endorsed ∧ A = q.rcv ∧ L = q.releasedInteg.abs) ∨
        (branch.abs = .unendorsed ∧ A = q.rcv ∧ (abs bg s).integLevels q.src L)
      consumedCrossings := fun X => (abs bg s).consumedCrossings X ∨ X = q.crossing
      consumedAttestations := fun X => (abs bg s).consumedAttestations X ∨
        (branch.abs = .endorsed ∧ ∃ e, q.evidence.map ConformanceAttestation.abs = some e ∧ X = e.id)
      crossingGrants := if branch.abs = .endorsed
        then Tzimtzum.decrementGrantAt (abs bg s).crossingGrants q.rcv q.assignment
        else (abs bg s).crossingGrants
      pending := if d.abs = .monitorBypassed then Tzimtzum.demoteAllOf (abs bg s).pending q.rcv
        else (abs bg s).pending } := by
  apply Tzimtzum.St.ext
  case taintLevels =>
    refine abs_taintLevels_eq fun A l => ?_
    cases branch <;> simp [releasesConf, CrossBranch.abs]
  case integLevels =>
    refine abs_integLevels_eq fun A l => ?_
    cases branch <;> simp [releasesInteg, CrossBranch.abs]
  case consumedCrossings => funext X; rw [crossed_eq]; exact propext VecSet.mem_insert
  case consumedAttestations =>
    funext X
    refine propext (crossed_consumedAttestations.trans (or_congr Iff.rfl ?_))
    rw [CrossBranch.abs_endorsed]
    cases q.evidence <;> simp [ConformanceAttestation.abs]
  case crossingGrants =>
    simp only [CrossBranch.abs_endorsed]
    exact abs_decremented funded fun key => crossed_crossingGrants
  case pending =>
    simp only [Disposition.abs_monitorBypassed]
    exact demoteAllOf_abs fun i => crossed_pending
  all_goals rw [crossed_eq]; rfl

end States

/-- The internal parameters of the action that a command denotes. -/
def Choice : KernelCommand → Type
  | .ingest .. => Tzimtzum.Disposition
  | .settleInvocation .. =>
    AgentId × Tzimtzum.Disposition × Tzimtzum.ConfLevel × Tzimtzum.IntegLevel
  | .beginInvocation .. => Tzimtzum.Verdict
  | .authorizeInspected .. => SpecScope × Bool
  | .crossOutput .. => Tzimtzum.CrossBranch × Tzimtzum.Disposition
  | _ => Unit

noncomputable def specified : (c : KernelCommand) → Choice c → Tzimtzum.Action SpecState
  | .registerTool tool, _ => Tzimtzum.registerTool tool
  | .unregisterTool tool, _ => Tzimtzum.unregisterTool tool
  | .delegate grantor grantee, _ => Tzimtzum.delegate grantor grantee
  | .grantCapability parent child cap, _ => Tzimtzum.grantCapability parent child cap
  | .grantCrossing grantor agent assignment n, _ =>
    Tzimtzum.grantCrossing grantor agent assignment n.toNat
  | .revoke parent target, _ => Tzimtzum.revoke parent target
  | .cascadeRevoke child parent, _ => Tzimtzum.cascadeRevoke child parent
  | .ingest a src pconf pinteg, d => Tzimtzum.ingest a src pconf.abs pinteg.abs d
  | .settleInvocation inv outcome att, (a, dispo, clvl, ilvl) =>
    Tzimtzum.settleInvocation inv a dispo outcome.abs clvl ilvl (att.map ResolutionAttestation.abs)
  | .beginInvocation a inv chal snap egr ah authorized, v =>
    Tzimtzum.beginInvocation a inv chal snap.abs (· ∈ egr) ah (authorized = true) v
  | .authorizeInspected inv att, (sc, permit) => Tzimtzum.authorizeInspected inv sc att.abs permit
  | .crossOutput q, (branch, dispo) => Tzimtzum.crossOutput q.abs branch dispo

noncomputable def tzimtzum : Spec SpecState KernelCommand where
  Choice := Choice
  guard c p := (specified c p).guard
  next c p := (specified c p).next

/-- The parameters are those that the recorded action carries. The stored scope is not recorded: the
    guard reads it off the challenge map. -/
def Records : (c : KernelCommand) → Choice c → KernelAction → Prop
  | .registerTool tool, _, r => r = .registerTool tool
  | .unregisterTool tool, _, r => r = .unregisterTool tool
  | .delegate grantor grantee, _, r => r = .delegate grantor grantee
  | .grantCapability parent child cap, _, r => r = .grantCapability parent child cap
  | .grantCrossing grantor agent assignment n, _, r => r = .grantCrossing grantor agent assignment n
  | .revoke parent target, _, r => r = .revoke parent target
  | .cascadeRevoke child parent, _, r => r = .cascadeRevoke child parent
  | .ingest a src pconf pinteg, d, r => ∃ d' : Disposition, d'.abs = d ∧ r = .ingest a src pconf pinteg d'
  | .settleInvocation inv outcome att, (a, dispo, clvl, ilvl), r =>
    ∃ (d : Disposition) (l : ConfLevel) (li : IntegLevel), d.abs = dispo ∧ l.abs = clvl ∧ li.abs = ilvl ∧
      r = .settleInvocation inv a d outcome l li (att.map (·.id))
  | .beginInvocation a inv _ snap _ _ authorized, v, r =>
    ∃ v' : Verdict, v'.abs = v ∧ r = .beginInvocation a inv snap.tool v' authorized
  | .authorizeInspected inv att, (_, permit), r => r = .authorizeInspected inv att.id permit
  | .crossOutput q, (branch, dispo), r => ∃ (b : CrossBranch) (d : Disposition), b.abs = branch ∧
      d.abs = dispo ∧ r = .crossOutput q.src q.rcv q.crossing b d

section Actions

variable {bg : BackgroundTheory} {s : KernelState}

abbrev Agrees (bg : BackgroundTheory) (s : KernelState) (c : KernelCommand) : Prop :=
  tzimtzum.Agrees (kernel bg) (abs bg) Records s c

theorem registerTool_agrees (tool : ToolId) : Agrees bg s (.registerTool tool) := by
  apply Spec.Agrees.intro
  · intro p fresh
    exact ⟨_, _, registerTool_ok.mpr ⟨fresh, rfl, rfl⟩, rfl, abs_registerTool tool⟩
  · intro s' r accepted
    exact ⟨(), (registerTool_ok.mp accepted).1⟩

theorem unregisterTool_agrees (tool : ToolId) : Agrees bg s (.unregisterTool tool) := by
  have guard : (Tzimtzum.unregisterTool tool).guard (abs bg s) ↔ tool ∈ s.toolRegistered ∧
      (∀ i j, s.pending.get i = some j → j.policy.tool ≠ tool) ∧
      ∀ i sc, s.challenges.get i = some sc → sc.policy.tool ≠ tool := by
    simp only [Tzimtzum.unregisterTool, abs_pending, abs_challenges, forall_exists_index, and_imp,
      forall_apply_eq_imp_iff₂]
    exact Iff.rfl
  apply Spec.Agrees.intro
  · intro p enabled
    obtain ⟨registered, idle, closed⟩ := guard.mp enabled
    exact ⟨_, _, unregisterTool_ok.mpr ⟨registered, idle, closed, rfl, rfl⟩, rfl, abs_unregisterTool tool⟩
  · intro s' r accepted
    obtain ⟨registered, idle, closed, -⟩ := unregisterTool_ok.mp accepted
    exact ⟨(), guard.mpr ⟨registered, idle, closed⟩⟩

theorem delegate_agrees (grantor grantee : AgentId) : Agrees bg s (.delegate grantor grantee) := by
  apply Spec.Agrees.intro
  · intro p ⟨active, fresh, notRoot, childless⟩
    exact ⟨_, _, delegate_ok.mpr ⟨active, fresh, notRoot, childless, rfl, rfl⟩, rfl, abs_enroll _ _⟩
  · intro s' r accepted
    obtain ⟨active, fresh, notRoot, childless, -⟩ := delegate_ok.mp accepted
    exact ⟨(), active, fresh, notRoot, childless⟩

theorem abs_grantCapability (child : AgentId) (cap : CapKind) :
    abs bg { s with agentCap := s.agentCap.insertInto child cap } =
      { abs bg s with agentCap := fun N C => (N = child ∧ C = cap) ∨ (abs bg s).agentCap N C } := by
  simp only [abs, KernelState.HasCap, VecMap.mem_insertInto, or_comm]
  rfl

theorem grantCapability_agrees (parent child : AgentId) (cap : CapKind) :
    Agrees bg s (.grantCapability parent child cap) := by
  apply Spec.Agrees.intro
  · intro p ⟨parentActive, childActive, edge, holds⟩
    exact ⟨_, _, grantCapability_ok.mpr ⟨parentActive, childActive, edge, holds, rfl, rfl⟩, rfl,
      abs_grantCapability _ _⟩
  · intro s' r accepted
    obtain ⟨parentActive, childActive, edge, holds, -⟩ := grantCapability_ok.mp accepted
    exact ⟨(), parentActive, childActive, edge, holds⟩

theorem abs_grantCrossing (agent : AgentId) (assignment : AssignmentDigest) (n : UInt32) :
    (Tzimtzum.grantCrossing agent agent assignment n.toNat).next (abs bg s)
      (abs bg { s with crossingGrants := s.crossingGrants.insert ⟨agent, assignment⟩ ⟨n, n⟩ }) := by
  apply Tzimtzum.St.ext
  case crossingGrants =>
    funext b d
    simp only [abs, VecMap.get_insert, CrossingKey.mk.injEq]
    by_cases here : b = agent ∧ d = assignment
    · rw [if_pos here, if_pos here]; rfl
    · rw [if_neg here, if_neg here]
  all_goals rfl

theorem grantCrossing_agrees (grantor agent : AgentId) (assignment : AssignmentDigest) (n : UInt32) :
    Agrees bg s (.grantCrossing grantor agent assignment n) := by
  apply Spec.Agrees.intro
  · intro p ⟨root, grantorActive, active⟩
    exact ⟨_, _, grantCrossing_ok.mpr ⟨root, grantorActive, active, rfl, rfl⟩, rfl,
      abs_grantCrossing _ _ _⟩
  · intro s' r accepted
    obtain ⟨root, grantorActive, active, -⟩ := grantCrossing_ok.mp accepted
    exact ⟨(), root, grantorActive, active⟩

theorem revoke_agrees (parent target : AgentId) : Agrees bg s (.revoke parent target) := by
  apply Spec.Agrees.intro
  · intro p ⟨edge, parentActive, active, notRoot⟩
    exact ⟨_, _, revoke_ok.mpr ⟨edge, parentActive, active, notRoot, rfl, rfl⟩, rfl, abs_clearAgent _⟩
  · intro s' r accepted
    obtain ⟨edge, parentActive, active, notRoot, -⟩ := revoke_ok.mp accepted
    exact ⟨(), edge, parentActive, active, notRoot⟩

theorem cascadeRevoke_agrees (child parent : AgentId) : Agrees bg s (.cascadeRevoke child parent) := by
  apply Spec.Agrees.intro
  · intro p ⟨edge, orphaned, active, notRoot⟩
    exact ⟨_, _, cascadeRevoke_ok.mpr ⟨edge, orphaned, active, notRoot, rfl, rfl⟩, rfl, abs_clearAgent _⟩
  · intro s' r accepted
    obtain ⟨edge, orphaned, active, notRoot, -⟩ := cascadeRevoke_ok.mp accepted
    exact ⟨(), edge, orphaned, active, notRoot⟩

theorem disposition_abs {holds : Prop} {d : Disposition} :
    (d.abs ≠ .blocked ∧ (d.abs = .permitted → holds) ∧ (d.abs = .monitorBypassed → ¬ holds) ∧
      (d.abs = .monitorBypassed → bg.mode.abs = .monitor)) ↔ HoldDecides bg holds d := by
  cases d <;> simp [HoldDecides, Disposition.abs]

theorem ingest_guard {a : AgentId} {src : Option AgentId} {l : ConfLevel} {li : IntegLevel}
    {d : Disposition} : (Tzimtzum.ingest a src l.abs li.abs d.abs).guard (abs bg s) ↔
      a ∈ s.agentActive ∧
      (∀ b, src = some b → (∀ k, s.Taints b k → k ≤ l) ∧ ∀ k, s.Integs b k → li ≤ k) ∧
      HoldDecides bg (s.PendingOf a (bg.FlowHolds · l) ∧ s.PendingOf a (·.ClearHolds l) ∧
        s.PendingOf a (·.IntegHolds li)) d := by
  rw [← disposition_abs]
  simp only [Tzimtzum.ingest, ConfLevel.forall_abs, IntegLevel.forall_abs, abs_taintLevels,
    abs_integLevels, ConfLevel.leConf_abs, IntegLevel.leInteg_abs, ingestHolds_abs, ingestHolds_iff]
  exact Iff.rfl

theorem ingest_agrees (a : AgentId) (src : Option AgentId) (l : ConfLevel) (li : IntegLevel) :
    Agrees bg s (.ingest a src l li) := by
  apply Spec.Agrees.intro
  · intro p enabled
    obtain ⟨d, rfl⟩ := Disposition.abs_surjective p
    obtain ⟨active, bounded, decides⟩ := ingest_guard.mp enabled
    exact ⟨_, _, ingest_ok.mpr ⟨active, bounded, d, decides, rfl, rfl⟩, ⟨d, rfl, rfl⟩, abs_absorb _ _ _ _⟩
  · intro s' r accepted
    obtain ⟨active, bounded, d, decides, -⟩ := ingest_ok.mp accepted
    exact ⟨d.abs, ingest_guard.mpr ⟨active, bounded, decides⟩⟩

theorem settleInvocation_guard {inv : InvocationId} {a : AgentId} {dispo : Tzimtzum.Disposition}
    {outcome : Outcome} {clvl : Tzimtzum.ConfLevel} {ilvl : Tzimtzum.IntegLevel}
    {att : Option ResolutionAttestation} :
    (Tzimtzum.settleInvocation inv a dispo outcome.abs clvl ilvl
      (att.map ResolutionAttestation.abs)).guard (abs bg s) ↔
      ∃ j, s.pending.get inv = some j ∧ a = j.agent ∧ dispo = j.disposition.abs ∧
        clvl = j.policy.outputConf.abs ∧ ilvl = j.policy.outputInteg.abs ∧ j.agent ∈ s.agentActive ∧
        j.disposition ≠ .blocked ∧
        ((j.quarantined = true ∧ outcome ≠ .ambiguous ∧ ∃ x, att = some x ∧ x.inv = inv ∧
          x.outcome = outcome ∧ x.id ∉ s.consumedAttestations) ∨
        (j.quarantined = false ∧ att = none)) := by
  simp only [Tzimtzum.settleInvocation, abs_pending]
  cases present : s.pending.get inv with
  | none => simp
  | some j =>
    have fresh : (∃ r, att.map ResolutionAttestation.abs = some r ∧ r.inv = inv ∧
        r.outcome = outcome.abs ∧ ¬ (abs bg s).consumedAttestations r.id) ↔
        ∃ x, att = some x ∧ x.inv = inv ∧ x.outcome = outcome ∧ x.id ∉ s.consumedAttestations := by
      cases att <;> simp [ResolutionAttestation.abs, abs]
    simp only [Option.some.injEq, exists_eq_left', forall_eq', exists_eq', true_and, fresh, ne_eq,
      Outcome.abs_ambiguous, Option.map_eq_none_iff]
    constructor
    · intro ⟨active, unblocked, ⟨owner, held, conf, integ⟩, attested, plain⟩
      subst owner held
      refine ⟨rfl, rfl, conf, integ, active, fun same => unblocked (Disposition.abs_blocked.mpr same), ?_⟩
      cases quarantined : j.quarantined with
      | true => exact .inl ⟨rfl, attested quarantined⟩
      | false => exact .inr ⟨rfl, plain (by simp [PendingInvocation.abs, quarantined])⟩
    · intro ⟨owner, held, conf, integ, active, unblocked, rule⟩
      subst owner held
      refine ⟨active, fun same => unblocked (Disposition.abs_blocked.mp same), ⟨rfl, rfl, conf, integ⟩, ?_, ?_⟩
      · intro quarantined
        have held : j.quarantined = true := quarantined
        exact (rule.resolve_right fun clean => by simp [held] at clean).2
      · intro clean
        exact (rule.resolve_left fun held => clean held.1).2

theorem settleInvocation_agrees (inv : InvocationId) (outcome : Outcome)
    (att : Option ResolutionAttestation) : Agrees bg s (.settleInvocation inv outcome att) := by
  apply Spec.Agrees.intro
  · intro ⟨a, dispo, clvl, ilvl⟩ enabled
    obtain ⟨j, present, rfl, rfl, rfl, rfl, active, unblocked, rule⟩ := settleInvocation_guard.mp enabled
    exact ⟨_, _, settleInvocation_ok.mpr ⟨j, present, active, unblocked, rule, rfl, rfl⟩,
      ⟨_, _, _, rfl, rfl, rfl, rfl⟩, abs_settled present⟩
  · intro s' r accepted
    obtain ⟨j, present, active, unblocked, rule, -⟩ := settleInvocation_ok.mp accepted
    exact ⟨(j.agent, j.disposition.abs, j.policy.outputConf.abs, j.policy.outputInteg.abs),
      settleInvocation_guard.mpr ⟨j, present, rfl, rfl, rfl, rfl, active, unblocked, rule⟩⟩

theorem beginStrict_admissible {a : AgentId} {snap : ActionPolicySnapshot} {egr : VecSet EgressKind}
    {authorized : Bool} (strict : beginStrict s bg a snap egr authorized = true) :
    beginAdmissible s bg a snap egr authorized = true := by
  simp only [beginStrict, beginAdmissible, Bool.and_eq_true, checkFlow_iff, checkInteg_iff] at strict ⊢
  rcases strict with ⟨⟨base, spec, pairs, self⟩, spec', pairs', self'⟩
  have flow : ∀ {v l e}, bg.FlowArm true v l e → ∀ v', bg.FlowArm false v' l e :=
    fun arm _ => .inl (arm.resolve_right fun inspects => by simp at inspects)
  have integ : ∀ {p : ActionPolicySnapshot} {v l}, p.IntegArm true v l → ∀ v', p.IntegArm false v' l :=
    fun arm _ => .inl (arm.resolve_right fun inspects => by simp at inspects)
  refine ⟨⟨base, fun l held e mem => flow (spec l held e mem) _, fun i j present own e mem => ?_,
    fun e mem => flow (self e mem) _⟩, fun l held => integ (spec' l held) _, fun i j present own => ?_,
    integ self' _⟩
  · exact flow (pairs i j present own e mem) _
  · exact integ (pairs' i j present own) _

theorem verdict_abs {a : AgentId} {snap : ActionPolicySnapshot} {egr : VecSet EgressKind}
    {authorized : Bool} {v : Verdict} :
    ((v.abs = .allow → beginStrict s bg a snap egr authorized = true) ∧
      (v.abs = .inspectionRequired → beginAdmissible s bg a snap egr authorized = true ∧
        ¬ beginStrict s bg a snap egr authorized = true) ∧
      (v.abs = .deny → ¬ beginAdmissible s bg a snap egr authorized = true)) ↔
      beginVerdict s bg a snap egr authorized = v := by
  have sub : beginStrict s bg a snap egr authorized = true → _ := beginStrict_admissible
  unfold beginVerdict
  by_cases strict : beginStrict s bg a snap egr authorized = true
  · cases v <;> simp [Verdict.abs, strict, sub strict]
  · by_cases admissible : beginAdmissible s bg a snap egr authorized = true <;>
      cases v <;> simp [Verdict.abs, strict, admissible]

theorem beginInvocation_guard {a : AgentId} {inv : InvocationId} (chal : ChallengeId)
    {snap : ActionPolicySnapshot} {egr : VecSet EgressKind} (ah : ContentHash) {authorized : Bool}
    {v : Verdict} : (Tzimtzum.beginInvocation a inv chal snap.abs (· ∈ egr) ah (authorized = true)
      v.abs).guard (abs bg s) ↔ BeginGuards s bg a inv snap egr ∧
        beginVerdict s bg a snap egr authorized = v ∧ (v = .deny → bg.mode = .monitor) := by
  have deny : v.abs = .deny ↔ v = .deny := by cases v <;> simp [Verdict.abs]
  have guards : BeginGuards s bg a inv snap egr ↔ a ∈ s.agentActive ∧ a ≠ bg.rootAgent ∧
      snap.tool ∈ s.toolRegistered ∧ snap.integInspect ≤ snap.integFloor ∧ s.pending.get inv = none ∧
      inv ∉ s.consumedIds ∧ s.challenges.get inv = none ∧ (∀ e ∈ egr, e ∈ snap.declaredEgress) ∧
      ((∃ e, e ∈ snap.declaredEgress) → ∃ e, e ∈ egr) :=
    ⟨fun ⟨h₁, h₂, h₃, h₄, h₅, h₆, h₇, h₈, h₉⟩ => ⟨h₁, h₂, h₃, h₄, h₅, h₆, h₇, h₈, h₉⟩,
      fun ⟨h₁, h₂, h₃, h₄, h₅, h₆, h₇, h₈, h₉⟩ => ⟨h₁, h₂, h₃, h₄, h₅, h₆, h₇, h₈, h₉⟩⟩
  simp only [Tzimtzum.beginInvocation, abs_pending_none, abs_challenges_none, beginAllow_abs,
    beginAdmissible_abs, guards, ← verdict_abs, and_assoc, ← IntegLevel.leInteg_abs, ← deny,
    ← Mode.abs_monitor]
  exact Iff.rfl

theorem abs_begin {s' : KernelState} {a : AgentId} {inv : InvocationId} {chal : ChallengeId}
    {snap : ActionPolicySnapshot} {egr : VecSet EgressKind} {ah : ContentHash} {authorized : Bool}
    {v : Verdict} (free : s.pending.get inv = none)
    (effect : BeginEffect s a inv chal snap egr ah authorized v bg.mode s') :
    (Tzimtzum.beginInvocation a inv chal snap.abs (· ∈ egr) ah (authorized = true) v.abs).next
      (abs bg s) (abs bg s') := by
  have empty : (abs bg s).pending inv = none := abs_pending_none.mpr free
  generalize same : bg.mode = mode at effect
  have current : (abs bg s).mode = mode.abs := congrArg Mode.abs same
  simp only [Tzimtzum.beginInvocation]
  cases effect with
  | permit =>
    rw [abs_pend]
    apply Tzimtzum.St.ext
    case pending =>
      funext I
      by_cases here : I = inv <;> simp [here, Verdict.abs, Tzimtzum.beginRecord, PendingInvocation.abs,
        Admission.abs, Disposition.abs]
    case challenges => simp [Verdict.abs]
    all_goals rfl
  | inspect =>
    rw [abs_challenge]
    apply Tzimtzum.St.ext
    case pending =>
      funext I
      by_cases here : I = inv <;> simp [here, empty, current, Verdict.abs, Mode.abs, Tzimtzum.beginRecord]
    case challenges =>
      funext I
      by_cases here : I = inv <;> simp [here, current, Verdict.abs, Mode.abs, ChallengeScope.abs]
    all_goals rfl
  | bypass _ gated =>
    rw [abs_pend]
    apply Tzimtzum.St.ext
    case pending =>
      funext I
      by_cases here : I = inv
      · cases v <;> simp_all [Verdict.abs, Mode.abs, Tzimtzum.beginRecord, PendingInvocation.abs,
          Admission.abs, Disposition.abs]
      · simp [here]
    case challenges => cases v <;> simp [current, Verdict.abs, Mode.abs]
    all_goals rfl

theorem beginInvocation_agrees (a : AgentId) (inv : InvocationId) (chal : ChallengeId)
    (snap : ActionPolicySnapshot) (egr : VecSet EgressKind) (ah : ContentHash) (authorized : Bool) :
    Agrees bg s (.beginInvocation a inv chal snap egr ah authorized) := by
  apply Spec.Agrees.intro
  · intro p enabled
    obtain ⟨v, rfl⟩ := Verdict.abs_surjective p
    obtain ⟨guards, rfl, monitored⟩ := (beginInvocation_guard chal ah).mp enabled
    have effect : ∃ s', BeginEffect s a inv chal snap egr ah authorized
        (beginVerdict s bg a snap egr authorized) bg.mode s' := by
      generalize beginVerdict s bg a snap egr authorized = v at monitored
      generalize bg.mode = mode at monitored
      cases v with
      | allow => exact ⟨_, .permit _⟩
      | inspectionRequired =>
        cases mode with
        | enforce => exact ⟨_, .inspect⟩
        | monitor => exact ⟨_, .bypass _ (by decide)⟩
      | deny =>
        cases monitored rfl
        exact ⟨_, .bypass _ (by decide)⟩
    rcases effect with ⟨s', effect⟩
    exact ⟨s', _, beginInvocation_ok.mpr ⟨guards, effect, rfl⟩, ⟨_, rfl, rfl⟩,
      abs_begin guards.notPending effect⟩
  · intro s' r accepted
    obtain ⟨guards, effect, -⟩ := beginInvocation_ok.mp accepted
    have monitored : beginVerdict s bg a snap egr authorized = .deny → bg.mode = .monitor := by
      intro deny
      rw [deny] at effect
      generalize bg.mode = mode at effect
      cases effect
      rfl
    exact ⟨(beginVerdict s bg a snap egr authorized).abs,
      (beginInvocation_guard chal ah).mpr ⟨guards, rfl, monitored⟩⟩

theorem authorizeInspected_guard {inv : InvocationId} {att : InspectionAttestation} {sc : SpecScope}
    {permit : Bool} : (Tzimtzum.authorizeInspected inv sc att.abs permit).guard (abs bg s) ↔
      ∃ c, s.challenges.get inv = some c ∧ c.abs = sc ∧ scopeMatches inv c att = true ∧
        att.id ∉ s.consumedAttestations ∧ inv ∈ s.consumedIds ∧
        permit = (att.positive && authorizeAdmits s bg inv c) := by
  simp only [Tzimtzum.authorizeInspected, abs_challenges]
  cases open_ : s.challenges.get inv with
  | none => simp
  | some c =>
    simp only [Option.some.injEq, exists_eq_left', scopeMatches, decide_eq_true_eq]
    constructor
    · intro ⟨same, invocation, challenge, args, policy, fresh, consumed, admits, refuses⟩
      subst same
      rw [authorizeAdmits_abs] at admits refuses
      refine ⟨rfl, ⟨invocation, challenge, args, policy⟩, fresh, consumed, ?_⟩
      cases permit with
      | true => exact ((Bool.and_eq_true _ _).mpr (admits rfl)).symm
      | false =>
        have refused := refuses rfl
        rw [← not_and_or] at refused
        exact (Bool.eq_false_iff.mpr fun both => refused ((Bool.and_eq_true _ _).mp both)).symm
    · intro ⟨same, ⟨invocation, challenge, args, policy⟩, fresh, consumed, decided⟩
      subst same
      refine ⟨rfl, invocation, challenge, args, policy, fresh, consumed, ?_, ?_⟩
      · intro permitted
        rw [authorizeAdmits_abs]
        exact (Bool.and_eq_true _ _).mp (decided.symm.trans permitted)
      · intro refused
        rw [authorizeAdmits_abs, ← not_and_or]
        intro both
        rw [decided, (Bool.and_eq_true _ _).mpr both] at refused
        cases refused

/-- The id check of the specification is where reachability is needed: the code omits it, and an open
    challenge has consumed its id. -/
theorem authorizeInspected_agrees (reach : (kernel bg).Reachable s) (inv : InvocationId)
    (att : InspectionAttestation) : Agrees bg s (.authorizeInspected inv att) := by
  apply Spec.Agrees.intro
  · intro ⟨sc, permit⟩ enabled
    obtain ⟨c, found, rfl, matching, fresh, -, rfl⟩ := authorizeInspected_guard.mp enabled
    exact ⟨_, _, authorizeInspected_ok.mpr ⟨c, found, matching, fresh, rfl, rfl⟩, rfl,
      abs_resolve _ _ _ _⟩
  · intro s' r accepted
    obtain ⟨c, found, matching, fresh, -⟩ := authorizeInspected_ok.mp accepted
    have consumed : inv ∈ s.consumedIds := by
      rcases reach with ⟨history, run⟩
      obtain ⟨slot, -, occupies⟩ := run_trace run inv
      cases occupies <;> simp_all
    exact ⟨(c.abs, att.positive && authorizeAdmits s bg inv c),
      authorizeInspected_guard.mpr ⟨c, found, rfl, matching, fresh, consumed, rfl⟩⟩

theorem branch_abs {q : CrossInput} {branch : CrossBranch} :
    ((branch.abs = .endorsed → endorsedOk s q = true) ∧
      (branch.abs = .unendorsed → ¬ endorsedOk s q = true ∧ q.abs.fallback = .releaseUnendorsed) ∧
      (branch.abs = .fail → ¬ endorsedOk s q = true ∧ q.abs.fallback = .fail)) ↔
      crossBranch s q = branch := by
  unfold crossBranch
  by_cases endorsed : endorsedOk s q = true
  · cases branch <;> simp [CrossBranch.abs, endorsed]
  · cases fallback : q.fallback <;> cases branch <;>
      simp [CrossBranch.abs, CrossInput.abs, Fallback.abs, endorsed, fallback]

theorem crossOutput_guard {q : CrossInput} {branch : CrossBranch} {d : Disposition} :
    (Tzimtzum.crossOutput q.abs branch.abs d.abs).guard (abs bg s) ↔
      q.src ∈ s.agentActive ∧ q.rcv ∈ s.agentActive ∧
      (∀ i j, s.pending.get i = some j → j.agent ≠ q.src) ∧ q.crossing ∉ s.consumedCrossings ∧
      crossBranch s q = branch ∧ (branch = .endorsed → crossBound s q = true) ∧
      HoldDecides bg (crossHolds s bg q branch = true) d := by
  have idle : (∀ I J, (abs bg s).pending I = some J → J.agent ≠ q.abs.src) ↔
      ∀ i j, s.pending.get i = some j → j.agent ≠ q.src := by
    simp only [abs_pending, forall_exists_index, and_imp, forall_apply_eq_imp_iff₂]
    exact Iff.rfl
  have bound : crossBound s q = true ↔ Tzimtzum.leInteg q.abs.releasedInteg q.abs.tInteg ∧
      (∀ c, q.abs.tConf = some c → Tzimtzum.leConf q.abs.releasedConf c) ∧
      (q.abs.tConf = none → ∀ L, (abs bg s).taintLevels q.abs.src L →
        Tzimtzum.leConf L q.abs.releasedConf) := by
    simp [crossBound_iff, CrossInput.abs]
  rw [← branch_abs, ← disposition_abs, bound, ← CrossBranch.abs_endorsed]
  simp only [Tzimtzum.crossOutput, endorsedOK_abs, crossHolds_abs, idle, imp_and, and_assoc]
  exact Iff.rfl

theorem crossOutput_agrees (q : CrossInput) : Agrees bg s (.crossOutput q) := by
  apply Spec.Agrees.intro
  · intro ⟨p, dispo⟩ enabled
    obtain ⟨branch, rfl⟩ := CrossBranch.abs_surjective p
    obtain ⟨d, rfl⟩ := Disposition.abs_surjective dispo
    obtain ⟨srcActive, rcvActive, idle, fresh, rfl, bound, decides⟩ := crossOutput_guard.mp enabled
    have funded (endorsed : crossBranch s q = .endorsed) :
        ∃ g, s.crossingGrants.get ⟨q.rcv, q.assignment⟩ = some g ∧ 0 < g.remaining :=
      (endorsedOk_iff.mp (crossBranch_endorsed.mp endorsed)).2
    exact ⟨_, _, crossOutput_ok.mpr ⟨srcActive, rcvActive, idle, fresh, bound, d, decides, rfl, rfl⟩,
      ⟨_, _, rfl, rfl, rfl⟩, abs_crossed funded⟩
  · intro s' r accepted
    obtain ⟨srcActive, rcvActive, idle, fresh, bound, d, decides, -⟩ := crossOutput_ok.mp accepted
    exact ⟨((crossBranch s q).abs, d.abs),
      crossOutput_guard.mpr ⟨srcActive, rcvActive, idle, fresh, rfl, bound, decides⟩⟩

theorem reachable_agrees (reach : (kernel bg).Reachable s) (c : KernelCommand) : Agrees bg s c := by
  cases c with
  | registerTool tool => exact registerTool_agrees tool
  | unregisterTool tool => exact unregisterTool_agrees tool
  | delegate grantor grantee => exact delegate_agrees grantor grantee
  | grantCapability parent child cap => exact grantCapability_agrees parent child cap
  | grantCrossing grantor agent assignment n => exact grantCrossing_agrees grantor agent assignment n
  | revoke parent target => exact revoke_agrees parent target
  | cascadeRevoke child parent => exact cascadeRevoke_agrees child parent
  | ingest a src l li => exact ingest_agrees a src l li
  | settleInvocation inv outcome att => exact settleInvocation_agrees inv outcome att
  | beginInvocation a inv chal snap egr ah authorized =>
    exact beginInvocation_agrees a inv chal snap egr ah authorized
  | authorizeInspected inv att => exact authorizeInspected_agrees reach inv att
  | crossOutput q => exact crossOutput_agrees q

end Actions

/-- The kernel accepts a command exactly when the specification's action is enabled for some internal
    parameters, which are then the recorded ones and lead to the state that the kernel moves to. -/
theorem specification_agrees {bg : BackgroundTheory} {s : KernelState} (reach : (kernel bg).Reachable s)
    (c : KernelCommand) :
    ((∃ s' r, c.apply bg s = .ok (s', r)) ↔ ∃ p : Choice c, (specified c p).guard (abs bg s)) ∧
    ∀ s' r (p : Choice c), c.apply bg s = .ok (s', r) → (specified c p).guard (abs bg s) →
      Records c p r ∧ (specified c p).next (abs bg s) (abs bg s') := by
  have agree := reachable_agrees reach c
  exact ⟨agree.accepts, agree.commits⟩

theorem specification_agrees_sample :
    ((∃ s' r, (KernelCommand.settleInvocation ⟨"call"⟩ .success none).apply sampleBackground sampleState =
        .ok (s', r)) ↔
      ∃ p, (specified (.settleInvocation ⟨"call"⟩ .success none) p).guard
        (abs sampleBackground sampleState)) ∧
    ∀ s' r p, (KernelCommand.settleInvocation ⟨"call"⟩ .success none).apply sampleBackground sampleState =
        .ok (s', r) →
      (specified (.settleInvocation ⟨"call"⟩ .success none) p).guard (abs sampleBackground sampleState) →
      Records (.settleInvocation ⟨"call"⟩ .success none) p r ∧
        (specified (.settleInvocation ⟨"call"⟩ .success none) p).next (abs sampleBackground sampleState)
          (abs sampleBackground s') :=
  specification_agrees ((kernel sampleBackground).drive_reachable sampleCommands) _

theorem abs_initial {bg : BackgroundTheory} (rooted : bg.rootAgent = AgentId.root) :
    Tzimtzum.initial (abs bg KernelState.initial) := by
  refine ⟨fun a => ?_, fun a b => ?_, fun a cap => ?_, fun a level => ?_, fun a level => ?_, fun i => rfl,
    fun i => rfl, fun i => VecSet.mem_new, fun x => VecSet.mem_new, fun x => VecSet.mem_new,
    fun a d => rfl, fun tool => VecSet.mem_new⟩
  · simp [abs, KernelState.initial, rooted]
  · simp [abs, KernelState.initial]
  · simp [abs, KernelState.initial_hasCap, rooted]
  · simp [abs, KernelState.initial, KernelState.Taints]
  · simp [abs, KernelState.initial, KernelState.Integs]

/-- The specification's runs on kernel commands are exactly the kernel's. -/
theorem kernel_traces (bg : BackgroundTheory) (cs : List KernelCommand) (t : SpecState) :
    tzimtzum.Run (abs bg KernelState.initial) cs t ↔
      ∃ history s, (kernel bg).Run history s ∧ history.map Prod.fst = cs ∧ abs bg s = t := by
  refine Spec.traces_iff (M := kernel bg) (fun s reach c => reachable_agrees reach c) ?_ cs t
  intro c p t t₁ t₂ first second
  cases c <;> exact first.trans second.symm

end Argus
