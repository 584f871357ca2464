import Einsof.Kernel.Driver

namespace Argus

variable {consents : AgentId → ToolId → InvocationId → Prop} {s s' : KernelState} {bg : BackgroundTheory}
  {inv : InvocationId}

/-- Open work whose authorization is recorded has the authorizer's consent. A challenge always has: the
    inspect band only relaxes the label gates. -/
structure Consented (consents : AgentId → ToolId → InvocationId → Prop) (s : KernelState) : Prop where
  pending : ∀ i j, s.pending.get i = some j → j.authorized = true → consents j.agent j.policy.tool i
  challenges : ∀ i sc, s.challenges.get i = some sc → consents sc.agent sc.policy.tool i

theorem Consented.initial : Consented consents KernelState.initial where
  pending i j present := by cases present
  challenges i sc present := by cases present

/-- The part of a record that nothing rewrites. -/
def SameGround (j j' : PendingInvocation) : Prop :=
  j'.agent = j.agent ∧ j'.policy = j.policy ∧ j'.authorized = j.authorized

theorem demotedIf_ground (p : Prop) [Decidable p] (a : AgentId) (j : PendingInvocation) :
    SameGround j (demotedIf p a j) := by
  rw [demotedIf_eq]
  exact ⟨rfl, rfl, rfl⟩

theorem Consented.carry (before : Consented consents s)
    (pending : ∀ i j', s'.pending.get i = some j' → ∃ j, s.pending.get i = some j ∧ SameGround j j')
    (challenges : ∀ i sc, s'.challenges.get i = some sc → s.challenges.get i = some sc) :
    Consented consents s' where
  pending i j' present authorized := by
    obtain ⟨j, earlier, agent, policy, flag⟩ := pending i j' present
    rw [agent, policy]
    exact before.pending i j earlier (flag ▸ authorized)
  challenges i sc present := before.challenges i sc (challenges i sc present)

theorem Consented.of_filter {a : AgentId} (before : Consented consents s)
    (pending : ∀ i, s'.pending.get i = (s.pending.get i).filter (·.agent ≠ a))
    (challenges : ∀ i, s'.challenges.get i = (s.challenges.get i).filter (·.agent ≠ a)) :
    Consented consents s' := by
  apply before.carry
  · intro i j present
    rw [pending, Option.filter_eq_some_iff] at present
    exact ⟨j, present.1, rfl, rfl, rfl⟩
  · intro i sc present
    rw [challenges, Option.filter_eq_some_iff] at present
    exact present.1

theorem Consented.of_demotion {p : Prop} [Decidable p] {a : AgentId} (before : Consented consents s)
    (pending : ∀ i, s'.pending.get i = (s.pending.get i).map (demotedIf p a))
    (challenges : s'.challenges = s.challenges) : Consented consents s' := by
  apply before.carry
  · intro i j' present
    rw [pending, Option.map_eq_some_iff] at present
    obtain ⟨j, earlier, rfl⟩ := present
    exact ⟨j, earlier, demotedIf_ground p a j⟩
  · intro i sc present
    exact challenges ▸ present

theorem Consented.settled {j : PendingInvocation} (before : Consented consents s)
    (present : s.pending.get inv = some j) (outcome : Outcome) (att : Option ResolutionAttestation) :
    Consented consents (settled s inv outcome att j) := by
  apply before.carry
  · intro i j' held
    rw [settled_pending, Option.map_eq_some_iff] at held
    obtain ⟨k, kept, rfl⟩ := held
    have ground := demotedIf_ground (j.disposition ≠ .permitted) j.agent k
    split at kept
    · rename_i here
      split at kept
      · cases kept
        exact ⟨j, here ▸ present, ground⟩
      · cases kept
    · exact ⟨k, kept, ground⟩
  · intro i sc held
    rw [settled_eq] at held
    exact held

theorem authorized_of_inspect {a : AgentId} {snap : ActionPolicySnapshot} {egr : VecSet EgressKind}
    {authorized : Bool} (inspect : beginVerdict s bg a snap egr authorized = .inspectionRequired) :
    authorized = true := by
  have gate : beginAdmissible s bg a snap egr authorized = true := by
    unfold beginVerdict at inspect
    split at inspect
    · cases inspect
    · split at inspect
      · assumption
      · cases inspect
  simp only [beginAdmissible, Bool.and_eq_true] at gate
  exact gate.1.1.1.2

theorem Consented.step {c : KernelCommand} {r : KernelAction} (before : Consented consents s)
    (asked : ∀ a i chal snap egr ah, c = .beginInvocation a i chal snap egr ah true →
      consents a snap.tool i)
    (accepted : (kernel bg).step s c = .ok (s', r)) : Consented consents s' := by
  cases c with
  | registerTool tool =>
    obtain ⟨-, rfl, -⟩ := registerTool_ok.mp accepted
    exact ⟨before.pending, before.challenges⟩
  | unregisterTool tool =>
    obtain ⟨-, -, -, rfl, -⟩ := unregisterTool_ok.mp accepted
    exact ⟨before.pending, before.challenges⟩
  | delegate grantor grantee =>
    obtain ⟨-, -, -, -, rfl, -⟩ := delegate_ok.mp accepted
    exact before.of_filter (fun _ => enroll_pending) (fun _ => enroll_challenges)
  | grantCapability parent child cap =>
    obtain ⟨-, -, -, -, rfl, -⟩ := grantCapability_ok.mp accepted
    exact ⟨before.pending, before.challenges⟩
  | grantCrossing grantor agent assignment n =>
    obtain ⟨-, -, -, rfl, -⟩ := grantCrossing_ok.mp accepted
    exact ⟨before.pending, before.challenges⟩
  | revoke parent target =>
    obtain ⟨-, -, -, -, rfl, -⟩ := revoke_ok.mp accepted
    exact before.of_filter (fun _ => clearAgent_pending) (fun _ => clearAgent_challenges)
  | cascadeRevoke child parent =>
    obtain ⟨-, -, -, -, rfl, -⟩ := cascadeRevoke_ok.mp accepted
    exact before.of_filter (fun _ => clearAgent_pending) (fun _ => clearAgent_challenges)
  | ingest a src l li =>
    obtain ⟨-, -, d, -, rfl, -⟩ := ingest_ok.mp accepted
    exact before.of_demotion (fun _ => absorb_pending) (by rw [absorb_eq])
  | settleInvocation inv outcome att =>
    obtain ⟨j, present, -, -, -, rfl, -⟩ := settleInvocation_ok.mp accepted
    exact before.settled present outcome att
  | beginInvocation a inv chal snap egr ah authorized =>
    obtain ⟨-, effect, -⟩ := beginInvocation_ok.mp accepted
    have consent : authorized = true → consents a snap.tool inv := by
      intro granted
      subst granted
      exact asked a inv chal snap egr ah rfl
    generalize verdict : beginVerdict s bg a snap egr authorized = v at effect
    generalize bg.mode = mode at effect
    cases effect with
    | permit | bypass =>
      refine ⟨fun i j present granted => ?_, before.challenges⟩
      rw [pend_pending] at present
      split at present
      · rename_i here
        cases present
        exact here ▸ consent granted
      · exact before.pending i j present granted
    | inspect =>
      refine ⟨before.pending, fun i sc present => ?_⟩
      rw [challenge_challenges] at present
      split at present
      · rename_i here
        cases present
        exact here ▸ consent (authorized_of_inspect verdict)
      · exact before.challenges i sc present
  | authorizeInspected inv att =>
    obtain ⟨sc, present, -, -, rfl, -⟩ := authorizeInspected_ok.mp accepted
    refine ⟨fun i j held granted => ?_, fun i x held => ?_⟩
    · rw [resolve_pending] at held
      split at held
      · rename_i here
        cases held
        exact here.1 ▸ before.challenges inv sc present
      · exact before.pending i j held granted
    · rw [resolve_challenges] at held
      split at held
      · cases held
      · exact before.challenges i x held
  | crossOutput q =>
    obtain ⟨-, -, -, -, -, d, -, rfl, -⟩ := crossOutput_ok.mp accepted
    exact before.of_demotion (fun _ => crossed_pending) (by rw [crossed_eq])

namespace Kernel

variable {A E : Type} [AuthorizerOracle A] [EventStore E]

/-- The authorizer, in whatever state, consents to no more than `consents`. -/
def Faithful (A : Type) [AuthorizerOracle A] (bg : BackgroundTheory)
    (consents : AgentId → ToolId → InvocationId → Prop) : Prop :=
  ∀ (oracle : A) agent tool i s, (AuthorizerOracle.allows oracle agent tool i s bg).1 = true →
    consents agent tool i

theorem consented_calls (faithful : Faithful A bg consents) {k : Kernel A E} {history}
    (driven : Driven bg k history) (before : Consented consents k.state) (cs : List Call) :
    Consented consents (k.calls cs).2.state := by
  induction cs generalizing k history with
  | nil => exact before
  | cons c cs ih =>
    cases driven.background
    have effect := call_effect k c
    have asked : ∀ a i chal snap egr ah, c.command (k.consult c).1 =
        .beginInvocation a i chal snap egr ah true → consents a snap.tool i := by
      intro a i chal snap egr ah same
      cases c <;> simp only [Call.command, KernelCommand.beginInvocation.injEq, reduceCtorEq] at same
      obtain ⟨rfl, rfl, rfl, rfl, rfl, rfl, granted⟩ := same
      exact faithful _ _ _ _ _ granted
    simp only [Kernel.calls]
    generalize k.call c = answer at effect
    cases effect with
    | refused => exact ih ⟨rfl, driven.run, driven.sequence⟩ before
    | unappended => exact ih ⟨rfl, driven.run, driven.sequence⟩ before
    | committed accepted => exact ih (driven.committed accepted) (before.step asked accepted)

/-- The authorizer is never bypassed: after any calls, with any store, every permitted record and every
    open challenge has its consent. -/
theorem authorizer_consent (faithful : Faithful A bg consents) (authorizer : A) (events : E)
    (cs : List Call) :
    (∀ i j, ((new bg authorizer events).calls cs).2.state.pending.get i = some j →
      j.disposition = .permitted → consents j.agent j.policy.tool i) ∧
    ∀ i sc, ((new bg authorizer events).calls cs).2.state.challenges.get i = some sc →
      consents sc.agent sc.policy.tool i := by
  have fresh : Driven bg (new bg authorizer events) [] := ⟨rfl, .start, rfl⟩
  have consented := consented_calls faithful fresh .initial cs
  obtain ⟨history, driven, -⟩ := fresh.calls cs
  refine ⟨fun i j present permitted => ?_, consented.challenges⟩
  have authorized := (permitted_empowered driven.run.reachable i j present permitted).1
  exact consented.pending i j present authorized

/-- An authorizer that consents to the mailer alone. -/
structure MailerOnly where
  deriving DecidableEq

instance : AuthorizerOracle MailerOnly :=
  ⟨fun oracle _ tool _ _ _ => (decide (tool = ⟨"mailer"⟩), oracle)⟩

theorem MailerOnly.faithful (bg : BackgroundTheory) :
    Faithful MailerOnly bg fun _ tool _ => tool = ⟨"mailer"⟩ :=
  fun _ _ _ _ _ granted => of_decide_eq_true granted

def workerCalls : List Call :=
  [.registerTool ⟨"mailer"⟩, .delegate AgentId.root ⟨"worker"⟩,
    .grantCapability AgentId.root ⟨"worker"⟩ .networkEgress,
    .beginInvocation ⟨"worker"⟩ ⟨"call"⟩ ⟨"challenge"⟩ sampleSnapshot
      (VecSet.fromIter [.networkExternal]) ⟨"args"⟩]

theorem authorizer_consent_sample :
    (∀ i j, ((new sampleBackground MailerOnly.mk (TornStore.mk [] [])).calls
        workerCalls).2.state.pending.get i = some j →
      j.disposition = .permitted → j.policy.tool = ⟨"mailer"⟩) ∧
    ∀ i sc, ((new sampleBackground MailerOnly.mk (TornStore.mk [] [])).calls
        workerCalls).2.state.challenges.get i = some sc → sc.policy.tool = ⟨"mailer"⟩ :=
  authorizer_consent (MailerOnly.faithful sampleBackground) MailerOnly.mk (TornStore.mk [] []) workerCalls

end Kernel

end Argus
