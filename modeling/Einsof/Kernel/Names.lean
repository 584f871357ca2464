import Mathlib.Logic.Embedding.Basic
import Mathlib.Logic.Equiv.Basic
import Mathlib.Data.Set.Finite.Basic
import Mathlib.Data.Fintype.EquivFin
import Einsof.Kernel.Account
import Einsof.Kernel.Symmetry

namespace Argus

inductive Identifier
  | agent (a : AgentId)
  | tool (tool : ToolId)
  | inv (inv : InvocationId)
  | challenge (challenge : ChallengeId)
  | attestation (attestation : AttestationId)
  | crossing (crossing : CrossingId)
  | assignment (assignment : AssignmentDigest)
  | policy (policy : PolicyDigest)
  | content (content : ContentHash)
  deriving DecidableEq

def Admission.names : Admission → List Identifier
  | .inspected attestation => [.attestation attestation]
  | _ => []

def ActionPolicySnapshot.names (p : ActionPolicySnapshot) : List Identifier := [.tool p.tool, .policy p.policyDigest]

def PendingInvocation.names (j : PendingInvocation) : List Identifier :=
  [.agent j.agent] ++ j.policy.names ++ j.admission.names

def ChallengeScope.names (sc : ChallengeScope) : List Identifier :=
  [.challenge sc.challenge, .agent sc.agent, .content sc.argsHash] ++ sc.policy.names

def ResolutionAttestation.names (x : ResolutionAttestation) : List Identifier := [.attestation x.id, .inv x.inv]

def InspectionAttestation.names (x : InspectionAttestation) : List Identifier :=
  [.attestation x.id, .inv x.inv, .challenge x.challenge, .content x.argsHash, .policy x.policyDigest]

def ConformanceAttestation.names (x : ConformanceAttestation) : List Identifier :=
  [.attestation x.id, .content x.output, .agent x.src, .agent x.rcv, .content x.descriptor, .assignment x.assignment]

def CrossInput.names (q : CrossInput) : List Identifier :=
  [.agent q.src, .agent q.rcv, .crossing q.crossing, .content q.outputHash, .content q.descriptor,
    .assignment q.assignment] ++ q.evidence.toList.flatMap (·.names)

/-- Every identifier that a state holds, in any of its maps and ledgers. -/
def KernelState.names (s : KernelState) : List Identifier :=
  s.agentActive.items.map .agent ++
    s.agentParent.entries.flatMap (fun entry => [.agent entry.1, .agent entry.2]) ++
    s.agentCap.entries.map (fun entry => .agent entry.1) ++
    s.taintLevels.entries.map (fun entry => .agent entry.1) ++
    s.integLevels.entries.map (fun entry => .agent entry.1) ++
    s.pending.entries.flatMap (fun entry => .inv entry.1 :: entry.2.names) ++
    s.challenges.entries.flatMap (fun entry => .inv entry.1 :: entry.2.names) ++
    s.consumedIds.items.map .inv ++
    s.consumedAttestations.items.map .attestation ++
    s.consumedCrossings.items.map .crossing ++
    s.crossingGrants.entries.flatMap (fun entry => [.agent entry.1.agent, .assignment entry.1.assignment]) ++
    s.toolRegistered.items.map .tool

def KernelCommand.names : KernelCommand → List Identifier
  | .registerTool tool | .unregisterTool tool => [.tool tool]
  | .delegate grantor grantee => [.agent grantor, .agent grantee]
  | .grantCapability parent child _ => [.agent parent, .agent child]
  | .grantCrossing grantor agent assignment _ => [.agent grantor, .agent agent, .assignment assignment]
  | .revoke parent target => [.agent parent, .agent target]
  | .cascadeRevoke child parent => [.agent child, .agent parent]
  | .ingest a src _ _ => [.agent a] ++ src.toList.map .agent
  | .settleInvocation inv _ att => [.inv inv] ++ att.toList.flatMap (·.names)
  | .beginInvocation a inv chal snap _ ah _ => [.agent a, .inv inv, .challenge chal, .content ah] ++ snap.names
  | .authorizeInspected inv att => [.inv inv] ++ att.names
  | .crossOutput q => q.names

def KernelAction.names : KernelAction → List Identifier
  | .registerTool tool | .unregisterTool tool => [.tool tool]
  | .delegate grantor grantee => [.agent grantor, .agent grantee]
  | .grantCapability parent child _ => [.agent parent, .agent child]
  | .grantCrossing grantor agent assignment _ => [.agent grantor, .agent agent, .assignment assignment]
  | .revoke parent target => [.agent parent, .agent target]
  | .cascadeRevoke child parent => [.agent child, .agent parent]
  | .ingest agent src _ _ _ => [.agent agent] ++ src.toList.map .agent
  | .settleInvocation inv agent _ _ _ _ resolution =>
    [.inv inv, .agent agent] ++ resolution.toList.map .attestation
  | .beginInvocation agent inv tool _ _ => [.agent agent, .inv inv, .tool tool]
  | .authorizeInspected inv attestation _ => [.inv inv, .attestation attestation]
  | .crossOutput src rcv crossing _ _ => [.agent src, .agent rcv, .crossing crossing]

def Renaming.identifier (ρ : Renaming) : Identifier → Identifier
  | .agent a => .agent (ρ.agent a)
  | .tool tool => .tool (ρ.tool tool)
  | .inv inv => .inv (ρ.inv inv)
  | .challenge challenge => .challenge (ρ.challenge challenge)
  | .attestation attestation => .attestation (ρ.attestation attestation)
  | .crossing crossing => .crossing (ρ.crossing crossing)
  | .assignment assignment => .assignment (ρ.assignment assignment)
  | .policy policy => .policy (ρ.policy policy)
  | .content content => .content (ρ.content content)

section Moved

variable {ρ : Renaming}

@[simp] theorem snapshot_names_rename (p : ActionPolicySnapshot) :
    (p.rename ρ).names = p.names.map ρ.identifier := rfl

@[simp] theorem pending_names_rename (j : PendingInvocation) : (j.rename ρ).names = j.names.map ρ.identifier := by
  obtain ⟨agent, policy, egress, admission, disposition, authorized, quarantined⟩ := j
  cases admission <;> rfl

@[simp] theorem scope_names_rename (sc : ChallengeScope) : (sc.rename ρ).names = sc.names.map ρ.identifier := rfl

theorem state_names_rename (s : KernelState) : (s.rename ρ).names = s.names.map ρ.identifier := by
  simp only [KernelState.names, KernelState.rename, VecSet.rename, VecMap.rename, List.map_append, List.map_map,
    List.map_flatMap, List.flatMap_map, pending_names_rename, scope_names_rename, List.map_cons, List.map_nil]
  rfl

end Moved

section Still

variable {ρ : Renaming}

theorem snapshot_still {p : ActionPolicySnapshot} (kept : ∀ n ∈ p.names, ρ.identifier n = n) :
    p.rename ρ = p := by
  simp [ActionPolicySnapshot.names, Renaming.identifier] at kept
  simp [ActionPolicySnapshot.rename, kept]

theorem resolution_still {x : ResolutionAttestation} (kept : ∀ n ∈ x.names, ρ.identifier n = n) :
    x.rename ρ = x := by
  simp [ResolutionAttestation.names, Renaming.identifier] at kept
  simp [ResolutionAttestation.rename, kept]

theorem inspection_still {x : InspectionAttestation} (kept : ∀ n ∈ x.names, ρ.identifier n = n) :
    x.rename ρ = x := by
  simp [InspectionAttestation.names, Renaming.identifier] at kept
  simp [InspectionAttestation.rename, kept]

theorem conformance_still {x : ConformanceAttestation} (kept : ∀ n ∈ x.names, ρ.identifier n = n) :
    x.rename ρ = x := by
  simp [ConformanceAttestation.names, Renaming.identifier] at kept
  simp [ConformanceAttestation.rename, kept]

theorem option_still {T : Type} {names : T → List Identifier} {rename : T → T}
    (still : ∀ x, (∀ n ∈ names x, ρ.identifier n = n) → rename x = x) {x : Option T}
    (kept : ∀ n ∈ x.toList.flatMap names, ρ.identifier n = n) : x.map rename = x := by
  cases x with
  | none => rfl
  | some x => exact congrArg some (still x (by simpa using kept))

theorem cross_still {q : CrossInput} (kept : ∀ n ∈ q.names, ρ.identifier n = n) : q.rename ρ = q := by
  have ids : ∀ n ∈ ([.agent q.src, .agent q.rcv, .crossing q.crossing, .content q.outputHash,
      .content q.descriptor, .assignment q.assignment] : List Identifier), ρ.identifier n = n :=
    fun n listed => kept n (List.mem_append_left _ listed)
  have evidence : q.evidence.map (·.rename ρ) = q.evidence :=
    @option_still ρ _ ConformanceAttestation.names _ (fun x kept => conformance_still kept) _
      fun n listed => kept n (List.mem_append_right _ listed)
  simp [Renaming.identifier] at ids
  simp only [CrossInput.rename, evidence, ids]

/-- A command stays as it is when its names do. -/
theorem command_still {c : KernelCommand} (kept : ∀ n ∈ c.names, ρ.identifier n = n) : c.rename ρ = c := by
  cases c with
  | ingest a src pconf pinteg =>
    cases src <;> simp_all [KernelCommand.names, KernelCommand.rename, Renaming.identifier]
  | settleInvocation inv outcome att =>
    simp only [KernelCommand.names, List.forall_mem_append, List.forall_mem_singleton] at kept
    rw [KernelCommand.rename, option_still (fun x kept => resolution_still kept) kept.2,
      Identifier.inv.inj kept.1]
  | beginInvocation a inv chal snap egr ah authorized =>
    simp only [KernelCommand.names, List.forall_mem_append] at kept
    obtain ⟨ids, snapshot⟩ := kept
    simp [Renaming.identifier] at ids
    simp only [KernelCommand.rename, snapshot_still snapshot, ids]
  | authorizeInspected inv att =>
    simp only [KernelCommand.names, List.forall_mem_append, List.forall_mem_singleton] at kept
    rw [KernelCommand.rename, inspection_still kept.2, Identifier.inv.inj kept.1]
  | crossOutput q => rw [KernelCommand.rename, cross_still kept]
  | _ => simp_all [KernelCommand.names, KernelCommand.rename, Renaming.identifier]

end Still

section Free

def Renaming.refl : Renaming where
  agent := .refl _
  root := rfl
  tool := .refl _
  inv := .refl _
  challenge := .refl _
  attestation := .refl _
  crossing := .refl _
  assignment := .refl _
  policy := .refl _
  content := .refl _

section Kinds

variable {T : Type} [DecidableEq T] {kind : T → Identifier} (make : String → T)
  (distinct : Function.Injective fun v => kind (make v))

include distinct

/-- A name of a kind can be swapped with one that is not in use. -/
theorem exists_swap (x : T) (used : List Identifier) :
    ∃ f : T ↪ T, kind (f x) ∉ used ∧ ∀ y, kind y ∈ used → y ≠ x → f y = y := by
  obtain ⟨-, ⟨v, rfl⟩, fresh⟩ := (Set.infinite_range_of_injective distinct).exists_notMem_finset used.toFinset
  rw [List.mem_toFinset] at fresh
  refine ⟨(Equiv.swap x (make v)).toEmbedding, ?_, ?_⟩
  · simpa using fresh
  · intro y listed other
    refine Equiv.swap_apply_of_ne_of_ne other ?_
    rintro rfl
    exact fresh listed

theorem free_of_kind (build : (T ↪ T) → Renaming)
    (moves : ∀ f x, (build f).identifier (kind x) = kind (f x))
    (stays : ∀ f m, (∀ x, m ≠ kind x) → (build f).identifier m = m) (x : T) (used : List Identifier) :
    ∃ ρ : Renaming, ρ.identifier (kind x) ∉ used ∧ ∀ m ∈ used, m ≠ kind x → ρ.identifier m = m := by
  obtain ⟨f, away, rest⟩ := exists_swap make distinct x used
  refine ⟨build f, moves f x ▸ away, ?_⟩
  intro m listed other
  by_cases same : ∃ y, m = kind y
  · obtain ⟨y, rfl⟩ := same
    rw [moves, rest y listed fun same => other (congrArg kind same)]
  · exact stays f m (not_exists.mp same)

end Kinds

/-- Any identifier but the root can be renamed away from given ones that all keep their names. -/
theorem identifier_free {n : Identifier} (other : n ≠ .agent AgentId.root) (used : List Identifier) :
    ∃ ρ : Renaming, ρ.identifier n ∉ used ∧ ∀ m ∈ used, m ≠ n → ρ.identifier m = m := by
  cases n with
  | agent a =>
    -- The root is counted as used, so that the swap keeps it.
    obtain ⟨f, away, rest⟩ := @exists_swap _ _ Identifier.agent AgentId.mk (fun _ _ same => by simpa using same) a
      (.agent AgentId.root :: used)
    have root : f AgentId.root = AgentId.root := rest _ List.mem_cons_self fun same => other (same ▸ rfl)
    refine ⟨{ Renaming.refl with agent := f, root := root },
      fun listed => away (List.mem_cons_of_mem _ listed), ?_⟩
    intro m listed distinct
    cases m <;> first
      | rfl
      | exact congrArg Identifier.agent
          (rest _ (List.mem_cons_of_mem _ listed) fun same => distinct (congrArg Identifier.agent same))
  | tool tool =>
    exact free_of_kind ToolId.mk (fun _ _ same => by simpa using same)
      (fun f => { Renaming.refl with tool := f }) (fun _ _ => rfl)
      (fun f m others => by cases m <;> first | rfl | exact absurd rfl (others _)) tool used
  | inv inv =>
    exact free_of_kind InvocationId.mk (fun _ _ same => by simpa using same)
      (fun f => { Renaming.refl with inv := f }) (fun _ _ => rfl)
      (fun f m others => by cases m <;> first | rfl | exact absurd rfl (others _)) inv used
  | challenge challenge =>
    exact free_of_kind ChallengeId.mk (fun _ _ same => by simpa using same)
      (fun f => { Renaming.refl with challenge := f }) (fun _ _ => rfl)
      (fun f m others => by cases m <;> first | rfl | exact absurd rfl (others _)) challenge used
  | attestation attestation =>
    exact free_of_kind AttestationId.mk (fun _ _ same => by simpa using same)
      (fun f => { Renaming.refl with attestation := f }) (fun _ _ => rfl)
      (fun f m others => by cases m <;> first | rfl | exact absurd rfl (others _)) attestation used
  | crossing crossing =>
    exact free_of_kind CrossingId.mk (fun _ _ same => by simpa using same)
      (fun f => { Renaming.refl with crossing := f }) (fun _ _ => rfl)
      (fun f m others => by cases m <;> first | rfl | exact absurd rfl (others _)) crossing used
  | assignment assignment =>
    exact free_of_kind AssignmentDigest.mk (fun _ _ same => by simpa using same)
      (fun f => { Renaming.refl with assignment := f }) (fun _ _ => rfl)
      (fun f m others => by cases m <;> first | rfl | exact absurd rfl (others _)) assignment used
  | policy policy =>
    exact free_of_kind PolicyDigest.mk (fun _ _ same => by simpa using same)
      (fun f => { Renaming.refl with policy := f }) (fun _ _ => rfl)
      (fun f m others => by cases m <;> first | rfl | exact absurd rfl (others _)) policy used
  | content content =>
    exact free_of_kind ContentHash.mk (fun _ _ same => by simpa using same)
      (fun f => { Renaming.refl with content := f }) (fun _ _ => rfl)
      (fun f m others => by cases m <;> first | rfl | exact absurd rfl (others _)) content used

end Free

/-- The kernel with its renamings; only the two roots cannot be renamed. -/
def kernelNaming (bg : BackgroundTheory) : (kernel bg).Naming Renaming Identifier where
  onState := KernelState.rename
  onCommand := KernelCommand.rename
  onRecord := KernelAction.rename
  onName := Renaming.identifier
  stateNames := KernelState.names
  commandNames := KernelCommand.names
  fixed := [.agent AgentId.root, .agent bg.rootAgent]
  carries ρ kept := by
    have root : ρ.agent bg.rootAgent = bg.rootAgent := Identifier.agent.inj (kept (.agent bg.rootAgent) (by simp))
    have same : bg.rename ρ = bg := by rw [BackgroundTheory.rename, root]
    have carries := kernel_carries ρ bg
    rwa [same] at carries
  still _ _ := command_still
  stateNames_on _ := state_names_rename
  free n unnamed := identifier_free fun same => unnamed (by simp [same])

/-- Named by the root, by the background or by one of the commands. -/
def NamedBy (bg : BackgroundTheory) (commands : List KernelCommand) (n : Identifier) : Prop :=
  n = .agent AgentId.root ∨ n = .agent bg.rootAgent ∨ ∃ c ∈ commands, n ∈ c.names

theorem NamedBy.of_given {bg : BackgroundTheory} {history : List (KernelCommand × KernelAction)} {n : Identifier}
    (given : (kernelNaming bg).Given history n) : NamedBy bg (history.map Prod.fst) n := by
  rcases given with fixed | ⟨entry, listed, named⟩
  · rcases List.mem_pair.mp fixed with root | background
    · exact .inl root
    · exact .inr (.inl background)
  · exact .inr (.inr ⟨entry.1, List.mem_map_of_mem listed, named⟩)

/-- An action names what its command names, and a settlement besides the agent whose invocation it
    settles, which the command that began it named. -/
theorem action_named {bg : BackgroundTheory} {history : List (KernelCommand × KernelAction)}
    {s s' : KernelState} {c : KernelCommand} {r : KernelAction} (run : (kernel bg).Run history s)
    (accepted : (kernel bg).step s c = .ok (s', r)) {n : Identifier} (named : n ∈ r.names) :
    ∃ c' ∈ history.map Prod.fst ++ [c], n ∈ c'.names := by
  have own (held : n ∈ c.names) : ∃ c' ∈ history.map Prod.fst ++ [c], n ∈ c'.names := ⟨c, by simp, held⟩
  cases c with
  | registerTool tool =>
    obtain ⟨-, -, rfl⟩ := registerTool_ok.mp accepted
    exact own named
  | unregisterTool tool =>
    obtain ⟨-, -, -, -, rfl⟩ := unregisterTool_ok.mp accepted
    exact own named
  | delegate grantor grantee =>
    obtain ⟨-, -, -, -, -, rfl⟩ := delegate_ok.mp accepted
    exact own named
  | grantCapability parent child cap =>
    obtain ⟨-, -, -, -, -, rfl⟩ := grantCapability_ok.mp accepted
    exact own named
  | grantCrossing grantor agent assignment n =>
    obtain ⟨-, -, -, -, rfl⟩ := grantCrossing_ok.mp accepted
    exact own named
  | revoke parent target =>
    obtain ⟨-, -, -, -, -, rfl⟩ := revoke_ok.mp accepted
    exact own named
  | cascadeRevoke child parent =>
    obtain ⟨-, -, -, -, -, rfl⟩ := cascadeRevoke_ok.mp accepted
    exact own named
  | ingest a src l li =>
    obtain ⟨-, -, d, -, -, rfl⟩ := ingest_ok.mp accepted
    exact own named
  | settleInvocation inv outcome att =>
    obtain ⟨j, present, -, -, -, -, rfl⟩ := settleInvocation_ok.mp accepted
    simp only [KernelAction.names, List.mem_append, List.mem_cons, List.not_mem_nil, or_false] at named
    rcases named with (rfl | rfl) | attested
    · exact own (by simp [KernelCommand.names])
    · obtain ⟨chal, egr, ah, authorized, r₀, began⟩ := open_began run (.pending present)
      exact ⟨_, List.mem_append_left _ (List.mem_map_of_mem began), by simp [KernelCommand.names]⟩
    · obtain ⟨x, resolves, rfl⟩ := List.mem_map.mp attested
      obtain ⟨attestation, given, rfl⟩ := Option.map_eq_some_iff.mp (Option.mem_toList.mp resolves)
      exact own (by simp [KernelCommand.names, ResolutionAttestation.names, given])
  | beginInvocation a inv chal snap egr ah authorized =>
    obtain ⟨-, -, rfl⟩ := beginInvocation_ok.mp accepted
    simp only [KernelAction.names, List.mem_cons, List.not_mem_nil, or_false] at named
    rcases named with rfl | rfl | rfl <;> exact own (by simp [KernelCommand.names, ActionPolicySnapshot.names])
  | authorizeInspected inv att =>
    obtain ⟨sc, opened, -, -, -, rfl⟩ := authorizeInspected_ok.mp accepted
    simp only [KernelAction.names, List.mem_cons, List.not_mem_nil, or_false] at named
    rcases named with rfl | rfl <;> exact own (by simp [KernelCommand.names, InspectionAttestation.names])
  | crossOutput q =>
    obtain ⟨-, -, -, -, -, d, -, -, rfl⟩ := crossOutput_ok.mp accepted
    simp only [KernelAction.names, List.mem_cons, List.not_mem_nil, or_false] at named
    rcases named with rfl | rfl | rfl <;> exact own (by simp [KernelCommand.names, CrossInput.names])

/-- The kernel makes up no name: whatever the state holds was in an accepted command, and an action names
    nothing but what the commands up to it named. -/
theorem names_come_from_commands {bg : BackgroundTheory} {history : List (KernelCommand × KernelAction)}
    {s : KernelState} (run : (kernel bg).Run history s) :
    (∀ n ∈ s.names, NamedBy bg (history.map Prod.fst) n) ∧
      ∀ before c r after, history = before ++ (c, r) :: after →
        ∀ n ∈ r.names, ∃ c' ∈ before.map Prod.fst ++ [c], n ∈ c'.names := by
  constructor
  · intro n held
    exact .of_given ((kernelNaming bg).state_given run held)
  · rintro before c r after rfl n named
    obtain ⟨v, v', earlier, accepted⟩ := run.split
    exact action_named earlier accepted named

/-- The state still knows the challenge of the third call; the action that settled the first call names its
    worker, which the settling command does not. -/
theorem names_come_from_commands_sample :
    NamedBy sampleBackground ((workedCommands.zip workedActions).map Prod.fst) (.challenge ⟨"challenge"⟩) ∧
    ∃ c ∈ workedCommands.take 6, Identifier.agent ⟨"worker"⟩ ∈ c.names := by
  obtain ⟨state, actions⟩ := names_come_from_commands worked_run
  refine ⟨state _ (by decide), ?_⟩
  exact actions ((workedCommands.zip workedActions).take 5) (.settleInvocation ⟨"call"⟩ .success none)
    (.settleInvocation ⟨"call"⟩ ⟨"worker"⟩ .permitted .success .«internal» .trusted none)
    ((workedCommands.zip workedActions).drop 6) (by decide) _ (by decide)

end Argus
