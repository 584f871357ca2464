import Einsof.Kernel.Types

namespace Argus

/-- The mutable kernel state. Enforcement mode, egress ceilings and root identity are immutable
    background, not fields here. -/
structure KernelState where
  agentActive : VecSet AgentId
  agentParent : VecMap AgentId AgentId
  agentCap : VecMap AgentId (VecSet CapKind)
  /-- Levels ingested; the empty set is untainted. -/
  taintLevels : VecMap AgentId (VecSet ConfLevel)
  /-- Levels ingested; the empty set is fully trusted. -/
  integLevels : VecMap AgentId (VecSet IntegLevel)
  pending : VecMap InvocationId PendingInvocation
  challenges : VecMap InvocationId ChallengeScope
  consumedIds : VecSet InvocationId
  consumedAttestations : VecSet AttestationId
  consumedCrossings : VecSet CrossingId
  crossingGrants : VecMap CrossingKey CrossingGrant
  toolRegistered : VecSet ToolId
  deriving DecidableEq

namespace KernelState

def initial : KernelState where
  agentActive := VecSet.new.insert AgentId.root
  agentParent := VecMap.new
  agentCap := VecMap.new.insert AgentId.root
    (CapKind.all.foldl (fun allCaps cap => allCaps.insert cap) VecSet.new)
  taintLevels := VecMap.new
  integLevels := VecMap.new
  pending := VecMap.new
  challenges := VecMap.new
  consumedIds := VecSet.new
  consumedAttestations := VecSet.new
  consumedCrossings := VecSet.new
  crossingGrants := VecMap.new
  toolRegistered := VecSet.new

def Taints (s : KernelState) (a : AgentId) (l : ConfLevel) : Prop := l ∈ s.taintLevels.getSetOrEmpty a

def Integs (s : KernelState) (a : AgentId) (l : IntegLevel) : Prop := l ∈ s.integLevels.getSetOrEmpty a

def HasCap (s : KernelState) (a : AgentId) (c : CapKind) : Prop := c ∈ s.agentCap.getSetOrEmpty a

instance (s : KernelState) (a : AgentId) (l : ConfLevel) : Decidable (s.Taints a l) :=
  inferInstanceAs (Decidable (l ∈ s.taintLevels.getSetOrEmpty a))

instance (s : KernelState) (a : AgentId) (l : IntegLevel) : Decidable (s.Integs a l) :=
  inferInstanceAs (Decidable (l ∈ s.integLevels.getSetOrEmpty a))

instance (s : KernelState) (a : AgentId) (c : CapKind) : Decidable (s.HasCap a c) :=
  inferInstanceAs (Decidable (c ∈ s.agentCap.getSetOrEmpty a))

theorem initial_hasCap (a : AgentId) (c : CapKind) : initial.HasCap a c ↔ a = AgentId.root := by
  simp only [HasCap, initial, VecMap.mem_getSetOrEmpty, VecMap.get_insert, VecMap.get_new]
  by_cases root : a = AgentId.root
  · simp [root, VecSet.mem_foldl_insert, CapKind.mem_all]
  · simp [root]

/-- Held taint and the frozen `outputConf` of every pending record of `agent`, the quarantined and
    the monitor-bypassed ones included. -/
def speculativeTaint (s : KernelState) (agent : AgentId) : VecSet ConfLevel :=
  s.pending.forEntries (s.taintLevels.getSetOrEmpty agent) fun taint _ j =>
    if j.agent = agent then taint.insert j.policy.outputConf else taint

def speculativeInteg (s : KernelState) (agent : AgentId) : VecSet IntegLevel :=
  s.pending.forEntries (s.integLevels.getSetOrEmpty agent) fun integ _ j =>
    if j.agent = agent then integ.insert j.policy.outputInteg else integ

theorem mem_speculativeTaint {s : KernelState} {a : AgentId} {l : ConfLevel} :
    l ∈ s.speculativeTaint a ↔
      s.Taints a l ∨ ∃ i j, s.pending.get i = some j ∧ j.agent = a ∧ j.policy.outputConf = l :=
  VecMap.mem_forEntries_insert (fun _ (j : PendingInvocation) => j.agent = a) (·.policy.outputConf)

theorem mem_speculativeInteg {s : KernelState} {a : AgentId} {l : IntegLevel} :
    l ∈ s.speculativeInteg a ↔
      s.Integs a l ∨ ∃ i j, s.pending.get i = some j ∧ j.agent = a ∧ j.policy.outputInteg = l :=
  VecMap.mem_forEntries_insert (fun _ (j : PendingInvocation) => j.agent = a) (·.policy.outputInteg)

def dropPendingOf (s : KernelState) (agent : AgentId) : KernelState :=
  { s with pending := s.pending.forEntries VecMap.new fun kept inv j =>
      if j.agent ≠ agent then kept.insert inv j else kept }

def dropChallengesOf (s : KernelState) (agent : AgentId) : KernelState :=
  { s with challenges := s.challenges.forEntries VecMap.new fun kept inv sc =>
      if sc.agent ≠ agent then kept.insert inv sc else kept }

/-- Demote every pending record owned by `agent`. The admission is deliberately untouched: it records
    how the invocation was admitted. -/
def demoteAllOf (s : KernelState) (agent : AgentId) : KernelState :=
  { s with pending := s.pending.forEntries VecMap.new fun rebuilt inv j =>
      rebuilt.insert inv (if j.agent = agent then { j with disposition := .monitorBypassed } else j) }

/-- One use less of the grant at `(agent, assignment)`; a `u32` subtraction, no-op if absent. -/
def decrementGrantAt (s : KernelState) (agent : AgentId) (assignment : AssignmentDigest) : KernelState :=
  let key : CrossingKey := ⟨agent, assignment⟩
  { s with crossingGrants :=
      match s.crossingGrants.getCloned key with
      | some g => s.crossingGrants.insert key ⟨g.remaining - 1, g.provisioned⟩
      | none => s.crossingGrants }

def dropGrantsOf (s : KernelState) (agent : AgentId) : KernelState :=
  { s with crossingGrants := s.crossingGrants.forEntries VecMap.new fun kept key g =>
      if key.agent ≠ agent then kept.insert key g else kept }

@[simp] theorem dropPendingOf_get (s : KernelState) (a : AgentId) (i : InvocationId) :
    (s.dropPendingOf a).pending.get i = (s.pending.get i).filter (·.agent ≠ a) := by
  have rebuilt := VecMap.get_rebuild s.pending (fun _ j => if j.agent ≠ a then some j else none)
    (fun kept inv j => if j.agent ≠ a then kept.insert inv j else kept)
    (by intro kept k j; by_cases other : j.agent = a <;> simp [other]) i
  rw [dropPendingOf, rebuilt]
  cases s.pending.get i <;> simp [Option.filter]

@[simp] theorem dropChallengesOf_get (s : KernelState) (a : AgentId) (i : InvocationId) :
    (s.dropChallengesOf a).challenges.get i = (s.challenges.get i).filter (·.agent ≠ a) := by
  have rebuilt := VecMap.get_rebuild s.challenges (fun _ sc => if sc.agent ≠ a then some sc else none)
    (fun kept inv sc => if sc.agent ≠ a then kept.insert inv sc else kept)
    (by intro kept k sc; by_cases other : sc.agent = a <;> simp [other]) i
  rw [dropChallengesOf, rebuilt]
  cases s.challenges.get i <;> simp [Option.filter]

@[simp] theorem dropGrantsOf_get (s : KernelState) (a : AgentId) (key : CrossingKey) :
    (s.dropGrantsOf a).crossingGrants.get key =
      if key.agent = a then none else s.crossingGrants.get key := by
  have rebuilt := VecMap.get_rebuild s.crossingGrants
    (fun key g => if key.agent ≠ a then some g else none)
    (fun kept key g => if key.agent ≠ a then kept.insert key g else kept)
    (by intro kept k g; by_cases other : k.agent = a <;> simp [other]) key
  rw [dropGrantsOf, rebuilt]
  by_cases holder : key.agent = a <;> simp [holder]

def demoted (a : AgentId) (j : PendingInvocation) : PendingInvocation :=
  if j.agent = a then { j with disposition := .monitorBypassed } else j

@[simp] theorem demoteAllOf_get (s : KernelState) (a : AgentId) (i : InvocationId) :
    (s.demoteAllOf a).pending.get i = (s.pending.get i).map (demoted a) := by
  have rebuilt := VecMap.get_rebuild s.pending (fun _ j => some (demoted a j))
    (fun rebuilt inv j => rebuilt.insert inv (demoted a j)) (fun _ _ _ => rfl) i
  refine rebuilt.trans ?_
  cases s.pending.get i <;> rfl

@[simp] theorem decrementGrantAt_get (s : KernelState) (a : AgentId) (assignment : AssignmentDigest)
    (key : CrossingKey) :
    (s.decrementGrantAt a assignment).crossingGrants.get key =
      if key = ⟨a, assignment⟩ then
        (s.crossingGrants.get key).map (fun g => ⟨g.remaining - 1, g.provisioned⟩)
      else s.crossingGrants.get key := by
  unfold decrementGrantAt
  cases found : s.crossingGrants.get ⟨a, assignment⟩ with
  | none =>
    by_cases same : key = ⟨a, assignment⟩
    · subst same; simp [found]
    · simp [same, found]
  | some g =>
    by_cases same : key = ⟨a, assignment⟩
    · subst same; simp [found]
    · simp [same, found]

theorem demoted_permitted {a : AgentId} {j : PendingInvocation}
    (permitted : (demoted a j).disposition = .permitted) :
    j.agent ≠ a ∧ demoted a j = j := by
  unfold demoted at permitted ⊢
  by_cases own : j.agent = a <;> simp_all

end KernelState

end Argus
