import Einsof.Kernel.Forest

namespace Argus

/-- The declared pair bounds everything the agent holds: no content of its looks less confidential or
    more trustworthy under it. -/
def KernelState.Covered (s : KernelState) (x : AgentId) (l : ConfLevel) (li : IntegLevel) : Prop :=
  (∀ k, s.Taints x k → k ≤ l) ∧ ∀ k, s.Integs x k → li ≤ k

/-- The agent holds nothing that a declared pair could understate. -/
def KernelState.Harmless (s : KernelState) (x : AgentId) : Prop :=
  (∀ k, s.Taints x k → k = .«public») ∧ ∀ k, s.Integs x k → k = .attested

/-- The pair is faithful to the source as it was when it was last active. -/
def Faithful (bg : BackgroundTheory) (history : List (KernelCommand × KernelAction)) (x : AgentId)
    (l : ConfLevel) (li : IntegLevel) : Prop :=
  ∀ u, (kernel bg).Latest (x ∈ ·.agentActive) history u → u.Covered x l li

/-- The source is still active, or had nothing to hide when it was last active. -/
def Accountable (bg : BackgroundTheory) (history : List (KernelCommand × KernelAction))
    (s : KernelState) (x : AgentId) : Prop :=
  x ∈ s.agentActive ∨ ∀ u, (kernel bg).Latest (x ∈ ·.agentActive) history u → u.Harmless x

variable {s s' u : KernelState} {bg : BackgroundTheory} {a x : AgentId} {l : ConfLevel}
  {li : IntegLevel} {r : KernelAction} {history : List (KernelCommand × KernelAction)}

theorem ConfLevel.public_le (l : ConfLevel) : .«public» ≤ l := by cases l <;> decide

theorem ConfLevel.le_public : l ≤ .«public» ↔ l = .«public» := by cases l <;> decide

theorem IntegLevel.le_attested (li : IntegLevel) : li ≤ .attested := by cases li <;> decide

theorem IntegLevel.attested_le : .attested ≤ li ↔ li = .attested := by cases li <;> decide

theorem harmless_iff : u.Harmless x ↔ u.Covered x .«public» .attested := by
  simp only [KernelState.Harmless, KernelState.Covered, ConfLevel.le_public, IntegLevel.attested_le]

theorem KernelState.Harmless.covered (harmless : u.Harmless x) (l : ConfLevel) (li : IntegLevel) :
    u.Covered x l li := by
  constructor
  · intro k held
    rw [harmless.1 k held]
    exact l.public_le
  · intro k held
    rw [harmless.2 k held]
    exact li.le_attested

/-- An agent that left nothing behind has no label to understate. -/
theorem covered_of_empty (vacant : s.compartment x = Compartment.empty) (l : ConfLevel) (li : IntegLevel) :
    s.Covered x l li := by
  have taints : s.taintLevels.get x = none := congrArg Compartment.taints vacant
  have integs : s.integLevels.get x = none := congrArg Compartment.integs vacant
  constructor
  · intro k held
    obtain ⟨set, found, -⟩ := VecMap.mem_getSetOrEmpty.mp held
    rw [taints] at found
    cases found
  · intro k held
    obtain ⟨set, found, -⟩ := VecMap.mem_getSetOrEmpty.mp held
    rw [integs] at found
    cases found

/-- A delivery is checked against what the source holds at that moment. -/
theorem ingest_covered (accepted : (kernel bg).step s (.ingest a (some x) l li) = .ok (s', r)) :
    s.Covered x l li := by
  obtain ⟨-, bounded, -⟩ := ingest_ok.mp accepted
  exact bounded x rfl

/-- An inactive source holds nothing, so the root can take any pair from it. -/
theorem delivery_accepted (root : bg.rootAgent = AgentId.root) (reach : (kernel bg).Reachable s)
    (inactive : x ∉ s.agentActive) (l : ConfLevel) (li : IntegLevel) :
    ∃ s' r, (kernel bg).step s (.ingest AgentId.root (some x) l li) = .ok (s', r) := by
  have idle : ∀ good, s.PendingOf AgentId.root good := by
    intro good i j present own
    have notRoot := (open_grounded reach _ _ _ _ (.pending present)).notRoot
    rw [root] at notRoot
    exact absurd own notRoot
  have bounded : ∀ b, some x = some b → s.Covered b l li := by
    intro b same
    cases same
    exact covered_of_empty (reachable_noResidue reach x inactive) l li
  exact ⟨_, _, ingest_ok.mpr ⟨(reachable_forest reach).rooted, bounded, .permitted,
    .inl ⟨⟨idle _, idle _, idle _⟩, rfl⟩, rfl, rfl⟩⟩

theorem delivery_faithful (run : (kernel bg).Run history s) (accountable : Accountable bg history s x)
    (accepted : (kernel bg).step s (.ingest a (some x) l li) = .ok (s', r)) :
    Faithful bg history x l li := by
  intro u latest
  rcases accountable with active | harmless
  · rw [latest.eq_last run active]
    exact ingest_covered accepted
  · exact (harmless u latest).covered l li

/-- Deliveries from a source are faithful exactly while the source is active, or had nothing to hide
    when it was last active; a run whose deliveries all meet this has faithful deliveries only. That
    unfaithful ones are accepted where it fails takes a root that can receive. -/
theorem deliveries_faithful_iff (run : (kernel bg).Run history s) :
    (∀ x, Accountable bg history s x → ∀ a l li s' r,
        (kernel bg).step s (.ingest a (some x) l li) = .ok (s', r) → Faithful bg history x l li) ∧
      (bg.rootAgent = AgentId.root → ∀ x, (∀ a l li s' r,
        (kernel bg).step s (.ingest a (some x) l li) = .ok (s', r) → Faithful bg history x l li) →
          Accountable bg history s x) ∧
      ((∀ before after a x l li r v, history = before ++ (.ingest a (some x) l li, r) :: after →
          (kernel bg).Run before v → Accountable bg before v x) →
        ∀ before after a x l li r, history = before ++ (.ingest a (some x) l li, r) :: after →
          Faithful bg before x l li) := by
  refine ⟨?_, ?_, ?_⟩
  · intro x accountable a l li s' r accepted
    exact delivery_faithful run accountable accepted
  · intro root x faithful
    by_cases active : x ∈ s.agentActive
    · exact .inl active
    · obtain ⟨s', r, accepted⟩ := delivery_accepted root run.reachable active .«public» .attested
      exact .inr fun u latest => harmless_iff.mpr (faithful _ _ _ _ _ accepted u latest)
  · intro meets before after a x l li r split
    have whole := run
    rw [split] at whole
    obtain ⟨v, v', earlier, accepted⟩ := whole.split
    exact delivery_faithful earlier (meets before after a x l li r v split earlier) accepted

/-- A worker that took restricted, untrusted content and was revoked. -/
def revokedHistory : List (KernelCommand × KernelAction) :=
  [(.delegate AgentId.root ⟨"worker"⟩, .delegate AgentId.root ⟨"worker"⟩),
    (.ingest ⟨"worker"⟩ none .restricted .untrusted, .ingest ⟨"worker"⟩ none .restricted .untrusted .permitted),
    (.revoke AgentId.root ⟨"worker"⟩, .revoke AgentId.root ⟨"worker"⟩)]

def exposedState : KernelState :=
  absorb (enroll KernelState.initial AgentId.root ⟨"worker"⟩) ⟨"worker"⟩ .restricted .untrusted .permitted

theorem exposed_run : (kernel sampleBackground).Run (revokedHistory.take 2) exposedState := by
  have delegated : (kernel sampleBackground).step KernelState.initial (.delegate AgentId.root ⟨"worker"⟩) =
      .ok (enroll KernelState.initial AgentId.root ⟨"worker"⟩, .delegate AgentId.root ⟨"worker"⟩) := by
    decide
  exact (Machine.Run.start.step delegated).step (by decide)

theorem revoked_run : (kernel sampleBackground).Run revokedHistory (clearAgent exposedState ⟨"worker"⟩) :=
  exposed_run.step (by decide)

/-- The revoked worker's content passes to the root as public and attested. -/
theorem delivery_laundered : ∃ u s', (kernel sampleBackground).Run revokedHistory
      (clearAgent exposedState ⟨"worker"⟩) ∧
    (kernel sampleBackground).Latest (⟨"worker"⟩ ∈ ·.agentActive) revokedHistory u ∧
    u.Taints ⟨"worker"⟩ .restricted ∧ u.Integs ⟨"worker"⟩ .untrusted ∧
    (kernel sampleBackground).step (clearAgent exposedState ⟨"worker"⟩)
        (.ingest AgentId.root (some ⟨"worker"⟩) .«public» .attested) =
      .ok (s', .ingest AgentId.root (some ⟨"worker"⟩) .«public» .attested .permitted) ∧
    ¬ Faithful sampleBackground revokedHistory ⟨"worker"⟩ .«public» .attested := by
  have latest : (kernel sampleBackground).Latest (⟨"worker"⟩ ∈ ·.agentActive) revokedHistory exposedState :=
    .earlier (.now exposed_run (by decide)) revoked_run (by decide)
  have restricted : exposedState.Taints ⟨"worker"⟩ .restricted := by
    unfold KernelState.Taints
    decide
  have untrusted : exposedState.Integs ⟨"worker"⟩ .untrusted := by
    unfold KernelState.Integs
    decide
  have delivered : (kernel sampleBackground).step (clearAgent exposedState ⟨"worker"⟩)
      (.ingest AgentId.root (some ⟨"worker"⟩) .«public» .attested) =
        .ok (absorb (clearAgent exposedState ⟨"worker"⟩) AgentId.root .«public» .attested .permitted,
          .ingest AgentId.root (some ⟨"worker"⟩) .«public» .attested .permitted) := by decide
  refine ⟨_, _, revoked_run, latest, restricted, untrusted, delivered, fun faithful => ?_⟩
  have lowered := (faithful exposedState latest).1 _ restricted
  cases ConfLevel.le_public.mp lowered

/-- While the worker is active its content is taken under a pair that bounds it. -/
theorem deliveries_faithful_iff_sample :
    Faithful sampleBackground (revokedHistory.take 2) ⟨"worker"⟩ .restricted .untrusted ∧
    Accountable sampleBackground (revokedHistory.take 2) exposedState ⟨"worker"⟩ := by
  have active : Accountable sampleBackground (revokedHistory.take 2) exposedState ⟨"worker"⟩ :=
    .inl (by decide)
  obtain ⟨enough, needed, -⟩ := deliveries_faithful_iff exposed_run
  have accepted : (kernel sampleBackground).step exposedState
      (.ingest AgentId.root (some ⟨"worker"⟩) .restricted .untrusted) =
        .ok (absorb exposedState AgentId.root .restricted .untrusted .permitted,
          .ingest AgentId.root (some ⟨"worker"⟩) .restricted .untrusted .permitted) := by decide
  exact ⟨enough _ active _ _ _ _ _ accepted, needed rfl _ (enough _ active)⟩

end Argus
