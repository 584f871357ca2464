import Mathlib.Order.Defs.Unbundled
import Einsof.Base.Tested
import Einsof.Kernel.Authority

/-! What one party of agents can read off the kernel state: its own names and the tools it uses, with the
    labels of its agents through a family of tests. -/

namespace Argus

/-- The names one party answers for. It may use tools that it neither registers nor removes. -/
structure Party where
  agents : AgentId → Bool
  tools : ToolId → Bool
  uses : ToolId → Bool
  invocations : InvocationId → Bool
  attestations : AttestationId → Bool
  crossings : CrossingId → Bool
  owned : ∀ tool, tools tool = true → uses tool = true

namespace Party

def everyone : Party := ⟨fun _ => true, fun _ => true, fun _ => true, fun _ => true, fun _ => true,
  fun _ => true, fun _ _ => rfl⟩

/-- All other names; a tool the party only uses is shared with the rest. -/
def rest (P : Party) : Party where
  agents a := !P.agents a
  tools tool := !P.uses tool
  uses tool := !P.tools tool
  invocations i := !P.invocations i
  attestations x := !P.attestations x
  crossings x := !P.crossings x
  owned tool := by
    have own := P.owned tool
    cases used : P.uses tool <;> cases mine : P.tools tool <;> simp_all

/-- Who may stand above an agent of the party: one of its own, or `root`. -/
def above (P : Party) (a : AgentId) : Bool := P.agents a || a = AgentId.root

/-- Every name a command gives is the party's. -/
def within (P : Party) : KernelCommand → Bool
  | .registerTool tool | .unregisterTool tool => P.tools tool
  | .delegate grantor grantee => P.above grantor && P.agents grantee
  | .grantCapability parent child _ => P.above parent && P.agents child
  | .grantCrossing _ agent _ _ => P.agents agent
  | .revoke _ target => P.agents target
  | .cascadeRevoke child _ => P.agents child
  | .ingest a src _ _ => P.agents a && src.all P.agents
  | .settleInvocation inv _ att => P.invocations inv && att.all (P.attestations ·.id)
  | .beginInvocation a inv _ snap _ _ _ => P.agents a && P.invocations inv && P.uses snap.tool
  | .authorizeInspected inv att => P.invocations inv && P.attestations att.id
  | .crossOutput q => P.agents q.src && P.agents q.rcv && P.crossings q.crossing &&
      q.evidence.all (P.attestations ·.id)

theorem within_everyone (c : KernelCommand) : everyone.within c = true := by
  cases c <;> simp [within, everyone, above]

theorem rest_rest (P : Party) : P.rest.rest = P := by
  cases P
  simp [rest]

theorem above_iff {P : Party} {a : AgentId} :
    P.above a = true ↔ P.agents a = true ∨ a = AgentId.root := by
  simp [above]

end Party

/-- The tests a held label set may be put to. Every gate asks for all labels below a level, or for all
    above one, so these tests are always among them. -/
structure LabelView where
  conf : Set (ConfLevel → Prop)
  integ : Set (IntegLevel → Prop)
  lower : ∀ p, IsLowerSet {l | p l} → p ∈ conf
  upper : ∀ p, IsUpperSet {l | p l} → p ∈ integ

/-- Label sets told apart whenever they differ. -/
def LabelView.exact : LabelView := ⟨Set.univ, Set.univ, fun _ _ => trivial, fun _ _ => trivial⟩

/-- Label sets read at their marks: the highest confidentiality and the lowest integrity held. -/
def LabelView.marks : LabelView :=
  ⟨{p | IsLowerSet {l | p l}}, {p | IsUpperSet {l | p l}}, fun _ => id, fun _ => id⟩

/-- The party reads the same off both states. -/
structure Seen (L : LabelView) (P : Party) (s t : KernelState) : Prop where
  active : ∀ a, P.agents a = true → (a ∈ s.agentActive ↔ a ∈ t.agentActive)
  parent : ∀ a, P.agents a = true → s.agentParent.get a = t.agentParent.get a
  caps : ∀ a, P.agents a = true → ∀ cap, s.HasCap a cap ↔ t.HasCap a cap
  taints : ∀ a, P.agents a = true → TestedAlike L.conf {l | s.Taints a l} {l | t.Taints a l}
  integs : ∀ a, P.agents a = true → TestedAlike L.integ {l | s.Integs a l} {l | t.Integs a l}
  pending : ∀ i, P.invocations i = true → s.pending.get i = t.pending.get i
  challenges : ∀ i, P.invocations i = true → s.challenges.get i = t.challenges.get i
  consumedIds : ∀ i, P.invocations i = true → (i ∈ s.consumedIds ↔ i ∈ t.consumedIds)
  attestations : ∀ x, P.attestations x = true → (x ∈ s.consumedAttestations ↔ x ∈ t.consumedAttestations)
  crossings : ∀ x, P.crossings x = true → (x ∈ s.consumedCrossings ↔ x ∈ t.consumedCrossings)
  grants : ∀ key, P.agents key.agent = true → s.crossingGrants.get key = t.crossingGrants.get key
  tools : ∀ tool, P.uses tool = true → (tool ∈ s.toolRegistered ↔ tool ∈ t.toolRegistered)

variable {L : LabelView} {P : Party} {bg : BackgroundTheory} {s s' t u : KernelState}

namespace Seen

theorem refl (L : LabelView) (P : Party) (s : KernelState) : Seen L P s s :=
  ⟨fun _ _ => .rfl, fun _ _ => rfl, fun _ _ _ => .rfl, fun _ _ => .refl _ _, fun _ _ => .refl _ _,
    fun _ _ => rfl, fun _ _ => rfl, fun _ _ => .rfl, fun _ _ => .rfl, fun _ _ => .rfl, fun _ _ => rfl,
    fun _ _ => .rfl⟩

theorem symm (seen : Seen L P s t) : Seen L P t s where
  active a own := (seen.active a own).symm
  parent a own := (seen.parent a own).symm
  caps a own cap := (seen.caps a own cap).symm
  taints a own := (seen.taints a own).symm
  integs a own := (seen.integs a own).symm
  pending i own := (seen.pending i own).symm
  challenges i own := (seen.challenges i own).symm
  consumedIds i own := (seen.consumedIds i own).symm
  attestations x own := (seen.attestations x own).symm
  crossings x own := (seen.crossings x own).symm
  grants key own := (seen.grants key own).symm
  tools tool own := (seen.tools tool own).symm

theorem trans (seen : Seen L P s t) (next : Seen L P t u) : Seen L P s u where
  active a own := (seen.active a own).trans (next.active a own)
  parent a own := (seen.parent a own).trans (next.parent a own)
  caps a own cap := (seen.caps a own cap).trans (next.caps a own cap)
  taints a own := (seen.taints a own).trans (next.taints a own)
  integs a own := (seen.integs a own).trans (next.integs a own)
  pending i own := (seen.pending i own).trans (next.pending i own)
  challenges i own := (seen.challenges i own).trans (next.challenges i own)
  consumedIds i own := (seen.consumedIds i own).trans (next.consumedIds i own)
  attestations x own := (seen.attestations x own).trans (next.attestations x own)
  crossings x own := (seen.crossings x own).trans (next.crossings x own)
  grants key own := (seen.grants key own).trans (next.grants key own)
  tools tool own := (seen.tools tool own).trans (next.tools tool own)

/-- What the party and the rest read is all there is to read. -/
theorem everyone (seen : Seen L P s t) (other : Seen L P.rest s t) : Seen L Party.everyone s t := by
  have cover : ∀ {b : Bool} {p : Prop}, (b = true → p) → ((!b) = true → p) → p := by
    intro b p here there
    cases b with
    | true => exact here rfl
    | false => exact there rfl
  exact
    { active a _ := cover (seen.active a) (other.active a)
      parent a _ := cover (seen.parent a) (other.parent a)
      caps a _ := cover (seen.caps a) (other.caps a)
      taints a _ := cover (seen.taints a) (other.taints a)
      integs a _ := cover (seen.integs a) (other.integs a)
      pending i _ := cover (seen.pending i) (other.pending i)
      challenges i _ := cover (seen.challenges i) (other.challenges i)
      consumedIds i _ := cover (seen.consumedIds i) (other.consumedIds i)
      attestations x _ := cover (seen.attestations x) (other.attestations x)
      crossings x _ := cover (seen.crossings x) (other.crossings x)
      grants key _ := cover (seen.grants key) (other.grants key)
      tools tool _ := by
        -- a tool the party owns it also uses, and the rest uses every other one
        refine cover (b := P.tools tool) (fun mine => seen.tools tool (P.owned tool mine)) fun spare => ?_
        exact other.tools tool spare }

end Seen

/-- The names of open work lie on one side. -/
structure Party.Owned (P : Party) (i : InvocationId) (a : AgentId) (tool : ToolId) : Prop where
  invocation : P.invocations i = P.agents a
  uses : P.agents a = true → P.uses tool = true
  tools : P.tools tool = true → P.agents a = true

/-- Nothing in the state belongs to the party on one end and to the rest on the other. -/
structure Separated (P : Party) (bg : BackgroundTheory) (s : KernelState) : Prop where
  forest : Forest bg s
  attenuated : Attenuated s
  edges : ∀ child parent, s.agentParent.get child = some parent →
    parent = AgentId.root ∨ P.agents parent = P.agents child
  owners : ∀ i a snap egr, s.Open i a snap egr → P.Owned i a snap.tool

theorem Separated.rest (before : Separated P bg s) : Separated P.rest bg s where
  forest := before.forest
  attenuated := before.attenuated
  edges child parent edge := (before.edges child parent edge).imp_right (congrArg Bool.not)
  owners i a snap egr opened := by
    have owned := before.owners i a snap egr opened
    have swap : ∀ {x y : Bool}, (x = true → y = true) → (!y) = true → (!x) = true := by
      intro x y
      cases x <;> cases y <;> simp
    exact ⟨congrArg Bool.not owned.invocation, swap owned.tools, swap owned.uses⟩

theorem Separated.everyone (reach : (kernel bg).Reachable s) : Separated Party.everyone bg s where
  forest := reachable_forest reach
  attenuated := reachable_attenuated reach
  edges _ _ _ := .inr rfl
  owners _ _ _ _ _ := ⟨rfl, fun _ => rfl, fun _ => rfl⟩

theorem Separated.initial (P : Party) (bg : BackgroundTheory) : Separated P bg KernelState.initial where
  forest := .initial bg
  attenuated := .initial
  edges child parent edge := by cases edge
  owners i a snap egr opened := by
    cases opened with
    | pending present => cases present
    | challenge present => cases present

/-- What a command lays down for good lies on one side: a new edge, or the names of new work. -/
def Party.Fits (P : Party) : KernelCommand → Prop
  | .delegate grantor grantee => grantor = AgentId.root ∨ P.agents grantor = P.agents grantee
  | .beginInvocation a inv _ snap _ _ _ => P.Owned inv a snap.tool
  | _ => True

theorem Separated.step {c : KernelCommand} {r : KernelAction} (before : Separated P bg s)
    (fits : P.Fits c) (accepted : (kernel bg).step s c = .ok (s', r)) : Separated P bg s' where
  forest := before.forest.keep (tree_step accepted)
  attenuated := before.attenuated.keep before.forest (tree_step accepted)
  edges child above edge := by
    cases tree_step accepted with
    | still active parent caps => exact before.edges child above (parent ▸ edge)
    | endow parent child' cap link held result =>
      subst result
      exact before.edges child above edge
    | enroll grantor grantee command active fresh notRoot childless result =>
      subst result command
      rw [enroll_edges childless] at edge
      split at edge
      · rename_i self
        cases edge
        exact self ▸ fits
      · exact before.edges child above edge
    | clear a parent link result =>
      subst result
      rw [clearAgent_parent] at edge
      split at edge
      · cases edge
      · exact before.edges child above edge
  owners i a snap egr opened := by
    cases open_step accepted opened with
    | kept earlier _ _ => exact before.owners i a snap egr earlier
    | begun chal ah authorized begins =>
      subst begins
      exact fits

theorem Separated.run {history : List (KernelCommand × KernelAction)} (run : (kernel bg).Run history s)
    (fits : ∀ entry ∈ history, P.Fits entry.1) : Separated P bg s := by
  induction run with
  | start => exact .initial P bg
  | step _ accepted ih =>
    have earlier := ih fun entry member => fits entry (List.mem_append_left _ member)
    exact earlier.step (fits _ (List.mem_append_right _ (List.mem_singleton.mpr rfl))) accepted

/-- The names of a command lie on one side. -/
def Party.Sorted (P : Party) (c : KernelCommand) : Prop := P.within c = true ∨ P.rest.within c = true

instance (P : Party) (c : KernelCommand) : Decidable (P.Sorted c) :=
  inferInstanceAs (Decidable (P.within c = true ∨ P.rest.within c = true))

theorem Party.Sorted.fits {c : KernelCommand} (sorted : P.Sorted c) : P.Fits c := by
  cases c <;> try trivial
  case delegate grantor grantee =>
    simp only [Party.Sorted, Party.within, Party.rest, Bool.and_eq_true, Party.above_iff,
      Bool.not_eq_true'] at sorted
    rcases sorted with ⟨mine | root, child⟩ | ⟨theirs | root, child⟩
    · exact .inr (mine.trans child.symm)
    · exact .inl root
    · exact .inr (theirs.trans child.symm)
    · exact .inl root
  case beginInvocation a inv chal snap egr ah authorized =>
    simp only [Party.Sorted, Party.within, Party.rest, Bool.and_eq_true, Bool.not_eq_true'] at sorted
    rcases sorted with ⟨⟨agent, own⟩, uses⟩ | ⟨⟨agent, foreign⟩, unowned⟩
    · exact ⟨own.trans agent.symm, fun _ => uses, fun _ => agent⟩
    · refine ⟨foreign.trans agent.symm, fun mine => ?_, fun mine => ?_⟩
      · rw [agent] at mine
        cases mine
      · rw [unowned] at mine
        cases mine

end Argus
