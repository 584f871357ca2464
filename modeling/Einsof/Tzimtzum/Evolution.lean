import Einsof.Tzimtzum.Invariants

namespace Tzimtzum

variable {AgentId ToolId InvocationId CapKind EgressKind ChallengeId AttestationId CrossingId
  AssignmentDigest PolicyDigest ContentHash : Type}

section Records

variable {p : InvocationId →
    Option (PendingInvocation AgentId ToolId CapKind EgressKind AttestationId PolicyDigest)}
  {c : InvocationId →
    Option (ChallengeScope AgentId ToolId CapKind EgressKind ChallengeId PolicyDigest ContentHash)}
  {g : AgentId → AssignmentDigest → Option CrossingGrant}
  {a b : AgentId} {d d' : AssignmentDigest} {I inv : InvocationId} {mode : Mode} {outcome : Outcome}
  {J J' : PendingInvocation AgentId ToolId CapKind EgressKind AttestationId PolicyDigest}
  {sc : ChallengeScope AgentId ToolId CapKind EgressKind ChallengeId PolicyDigest ContentHash}
  {cg : CrossingGrant}

theorem dropPendingOf_eq_some : dropPendingOf p a I = some J ↔ p I = some J ∧ J.agent ≠ a := by
  unfold dropPendingOf
  cases p I with
  | none => simp
  | some K => by_cases own : K.agent = a <;> grind

theorem dropChallengesOf_eq_some : dropChallengesOf c a I = some sc ↔ c I = some sc ∧ sc.agent ≠ a := by
  unfold dropChallengesOf
  cases c I with
  | none => simp
  | some K => by_cases own : K.agent = a <;> grind

theorem dropGrantsOf_eq_some : dropGrantsOf g a b d = some cg ↔ g b d = some cg ∧ b ≠ a := by
  unfold dropGrantsOf
  by_cases own : b = a <;> simp [own]

theorem demoteAllOf_some (present : demoteAllOf p a I = some J') :
    (J'.agent ≠ a ∧ p I = some J') ∨
      ∃ J, p I = some J ∧ J.agent = a ∧ J' = { J with disposition := .monitorBypassed } := by
  unfold demoteAllOf at present
  cases before : p I with
  | none => simp [before] at present
  | some J => by_cases own : J.agent = a <;> grind

theorem settleAt_some (present : settleAt p inv outcome I = some J') :
    p I = some J' ∨ (outcome = .ambiguous ∧ ∃ J, p I = some J ∧ J' = { J with quarantined := True }) := by
  unfold settleAt at present
  by_cases here : I = inv
  · cases before : p I with
    | none =>
      rw [if_pos here, before] at present
      cases present
    | some J => by_cases ambiguous : outcome = .ambiguous <;> grind
  · rw [if_neg here] at present
    exact .inl present

theorem decrementGrantAt_some (funded : decrementGrantAt g a d' b d = some cg) :
    ∃ cg', g b d = some cg' ∧ cg.provisioned = cg'.provisioned ∧ cg.remaining ≤ cg'.remaining := by
  unfold decrementGrantAt at funded
  by_cases here : b = a ∧ d = d'
  · cases before : g b d with
    | none =>
      rw [if_pos here, before] at funded
      cases funded
    | some cg' => grind
  · rw [if_neg here] at funded
    exact ⟨cg, funded, rfl, Nat.le_refl _⟩

/-- What may become of a record: it keeps everything but its claim and its quarantine mark, and gives
    the claim up in monitor mode only. -/
structure Descends (mode : Mode)
    (J J' : PendingInvocation AgentId ToolId CapKind EgressKind AttestationId PolicyDigest) : Prop where
  agent : J'.agent = J.agent
  policy : J'.policy = J.policy
  egress : J'.egress = J.egress
  admission : J'.admission = J.admission
  authorized : J'.authorized = J.authorized
  keeps : contained J' → contained J
  gives : ¬ contained J' → contained J → mode = .monitor

theorem Descends.refl : Descends mode J J :=
  ⟨rfl, rfl, rfl, rfl, rfl, id, fun lost was => absurd was lost⟩

theorem Descends.quarantined : Descends mode J { J with quarantined := True } :=
  ⟨rfl, rfl, rfl, rfl, rfl, id, fun lost was => absurd was lost⟩

theorem Descends.demoted (monitor : mode = .monitor) :
    Descends mode J { J with disposition := .monitorBypassed } :=
  ⟨rfl, rfl, rfl, rfl, rfl, nofun, fun _ _ => monitor⟩

theorem Descends.trans {J'' : PendingInvocation AgentId ToolId CapKind EgressKind AttestationId PolicyDigest}
    (first : Descends mode J J') (second : Descends mode J' J'') : Descends mode J J'' where
  agent := second.agent.trans first.agent
  policy := second.policy.trans first.policy
  egress := second.egress.trans first.egress
  admission := second.admission.trans first.admission
  authorized := second.authorized.trans first.authorized
  keeps still := first.keeps (second.keeps still)
  gives lost was := by
    by_cases between : contained J'
    · exact second.gives lost between
    · exact first.gives between was

/-- Every record of `p'` descends from the one `p` has at its key. -/
def Evolves (mode : Mode) (p p' : InvocationId →
    Option (PendingInvocation AgentId ToolId CapKind EgressKind AttestationId PolicyDigest)) : Prop :=
  ∀ I J', p' I = some J' → ∃ J, p I = some J ∧ Descends mode J J'

theorem Evolves.refl : Evolves mode p p :=
  fun _ J present => ⟨J, present, .refl⟩

theorem Evolves.drop (mode : Mode) : Evolves mode p (dropPendingOf p a) :=
  fun _ J present => ⟨J, (dropPendingOf_eq_some.mp present).1, .refl⟩

theorem Evolves.demote (monitor : mode = .monitor) : Evolves mode p (demoteAllOf p a) := by
  intro I J' present
  rcases demoteAllOf_some present with ⟨-, before⟩ | ⟨J, before, -, rfl⟩
  · exact ⟨J', before, .refl⟩
  · exact ⟨J, before, .demoted monitor⟩

theorem Evolves.settle : Evolves mode p (settleAt p inv outcome) := by
  intro I J' present
  rcases settleAt_some present with before | ⟨-, J, before, rfl⟩
  · exact ⟨J', before, .refl⟩
  · exact ⟨J, before, .quarantined⟩

theorem Evolves.trans {p' p'' : InvocationId →
      Option (PendingInvocation AgentId ToolId CapKind EgressKind AttestationId PolicyDigest)}
    (first : Evolves mode p p') (second : Evolves mode p' p'') : Evolves mode p p'' := by
  intro I J'' present
  obtain ⟨J', between, later⟩ := second I J'' present
  obtain ⟨J, before, earlier⟩ := first I J' between
  exact ⟨J, before, earlier.trans later⟩

theorem Evolves.none {p' : InvocationId →
      Option (PendingInvocation AgentId ToolId CapKind EgressKind AttestationId PolicyDigest)}
    (evolves : Evolves mode p p') (absent : p I = none) : p' I = none := by
  cases present : p' I with
  | none => rfl
  | some J' =>
    obtain ⟨J, before, -⟩ := evolves I J' present
    simp [absent] at before

end Records

/-- The active agents as a tree under the root, and the capabilities it passes down. -/
structure Tree (root : AgentId) (active : AgentId → Prop) (parent : AgentId → AgentId → Prop)
    (cap : AgentId → CapKind → Prop) : Prop where
  rootActive : active root
  childActive : ∀ c p, parent c p → active c
  single : ∀ c p₁ p₂, parent c p₁ → parent c p₂ → p₁ = p₂
  irrefl : ∀ a, ¬ parent a a
  rootless : ∀ p, ¬ parent root p
  subsumed : ∀ c p, parent c p → active p → ∀ k, cap c k → cap p k
  rootCaps : ∀ k, cap root k

namespace Tree

variable {root : AgentId} {active : AgentId → Prop} {parent : AgentId → AgentId → Prop}
  {cap : AgentId → CapKind → Prop}

theorem delegate {grantor grantee : AgentId} (tree : Tree root active parent cap)
    (live : active grantor) (fresh : ¬ active grantee) :
    Tree root (fun A => active A ∨ A = grantee)
      (fun C P => (C = grantee ∧ P = grantor) ∨ (parent C P ∧ C ≠ grantee ∧ P ≠ grantee))
      (fun N C => cap N C ∧ N ≠ grantee) where
  rootActive := .inl tree.rootActive
  childActive c p edge := by
    rcases edge with ⟨new, -⟩ | ⟨old, -⟩
    · exact .inr new
    · exact .inl (tree.childActive c p old)
  single c p₁ p₂ edge₁ edge₂ := by
    rcases edge₁ with ⟨rfl, rfl⟩ | ⟨old₁, other, -⟩
    · rcases edge₂ with ⟨-, rfl⟩ | ⟨-, other, -⟩
      · rfl
      · exact absurd rfl other
    · rcases edge₂ with ⟨new, -⟩ | ⟨old₂, -⟩
      · exact absurd new other
      · exact tree.single c p₁ p₂ old₁ old₂
  irrefl a edge := by
    rcases edge with ⟨rfl, rfl⟩ | ⟨old, -⟩
    · exact fresh live
    · exact tree.irrefl a old
  rootless p edge := by
    rcases edge with ⟨rfl, -⟩ | ⟨old, -⟩
    · exact fresh tree.rootActive
    · exact tree.rootless p old
  subsumed c p edge alive k held := by
    rcases edge with ⟨new, -⟩ | ⟨old, -, other⟩
    · exact absurd new held.2
    · exact ⟨tree.subsumed c p old (alive.resolve_right other) k held.1, other⟩
  rootCaps k := by
    refine ⟨tree.rootCaps k, ?_⟩
    rintro rfl
    exact fresh tree.rootActive

theorem grant {prnt child : AgentId} {k : CapKind} (tree : Tree root active parent cap)
    (edge : parent child prnt) (held : cap prnt k) :
    Tree root active parent (fun N C => (N = child ∧ C = k) ∨ cap N C) where
  rootActive := tree.rootActive
  childActive := tree.childActive
  single := tree.single
  irrefl := tree.irrefl
  rootless := tree.rootless
  subsumed c p between alive k' granted := by
    rcases granted with ⟨rfl, rfl⟩ | old
    · rw [tree.single _ _ _ between edge]
      exact .inr held
    · exact .inr (tree.subsumed c p between alive k' old)
  rootCaps k' := .inr (tree.rootCaps k')

theorem remove {target : AgentId} (tree : Tree root active parent cap) (other : target ≠ root) :
    Tree root (fun A => active A ∧ A ≠ target) (fun C P => parent C P ∧ C ≠ target)
      (fun A C => cap A C ∧ A ≠ target) where
  rootActive := ⟨tree.rootActive, other.symm⟩
  childActive c p edge := ⟨tree.childActive c p edge.1, edge.2⟩
  single c p₁ p₂ edge₁ edge₂ := tree.single c p₁ p₂ edge₁.1 edge₂.1
  irrefl a edge := tree.irrefl a edge.1
  rootless p edge := tree.rootless p edge.1
  subsumed c p edge alive k held := ⟨tree.subsumed c p edge.1 alive.1 k held.1, alive.2⟩
  rootCaps k := ⟨tree.rootCaps k, other.symm⟩

end Tree

end Tzimtzum
