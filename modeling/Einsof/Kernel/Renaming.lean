import Mathlib.Logic.Embedding.Basic
import Einsof.Base.Symmetry
import Einsof.Kernel.Commands

namespace Argus

namespace VecSet

variable {T U : Type*}

def rename (f : T ↪ U) (s : VecSet T) : VecSet U := ⟨s.items.map f, s.unique.map f.injective⟩

variable {f : T ↪ U}

@[simp] theorem rename_new : (new : VecSet T).rename f = new := rfl

variable [DecidableEq T] [DecidableEq U]

@[simp] theorem contains_rename (s : VecSet T) (x : T) : (s.rename f).contains (f x) = s.contains x := by
  rw [Bool.eq_iff_iff, contains_iff, contains_iff]
  exact List.mem_map_of_injective f.injective

@[simp] theorem insert_rename (s : VecSet T) (x : T) : (s.rename f).insert (f x) = (s.insert x).rename f := by
  by_cases present : x ∈ s
  · rw [insert_of_mem present, insert_of_mem (List.mem_map_of_mem present)]
  · have fresh : f x ∉ s.rename f := fun listed => present ((List.mem_map_of_injective f.injective).mp listed)
    have pushed := insert_items_of_not_mem present
    apply ext_items
    rw [insert_items_of_not_mem fresh]
    change s.items.map f ++ [f x] = (s.insert x).items.map f
    rw [pushed, List.map_append, List.map_singleton]

@[simp] theorem remove_rename (s : VecSet T) (x : T) : (s.rename f).remove (f x) = (s.remove x).rename f := by
  apply ext_items
  simp only [remove_items, rename, List.filter_map]
  congr 2
  funext y
  simp [f.injective.eq_iff]

end VecSet

namespace VecMap

variable {K L V W : Type*}

def rename (f : K ↪ L) (g : V → W) (m : VecMap K V) : VecMap L W :=
  ⟨m.entries.map fun entry => (f entry.1, g entry.2), by
    rw [List.map_map]
    exact (List.map_map (f := Prod.fst) (g := f) (l := m.entries)) ▸ m.unique.map f.injective⟩

variable {f : K ↪ L} {g : V → W}

@[simp] theorem rename_new : (new : VecMap K V).rename f g = new := rfl

variable [DecidableEq K] [DecidableEq L]

@[simp] theorem get_rename (m : VecMap K V) (key : K) : (m.rename f g).get (f key) = (m.get key).map g := by
  ext w
  simp only [get_eq_some, rename, List.mem_map, Prod.mk.injEq, f.injective.eq_iff, Option.map_eq_some_iff]
  constructor
  · intro facts
    obtain ⟨⟨k, v⟩, member, rfl, rfl⟩ := facts
    exact ⟨v, member, rfl⟩
  · intro facts
    obtain ⟨v, member, rfl⟩ := facts
    exact ⟨(key, v), member, rfl, rfl⟩

theorem upsert_rename (m : VecMap K V) (key : K) {update : Option V → V} {update' : Option W → W}
    (same : ∀ found, update' (found.map g) = g (update found)) :
    (m.rename f g).upsert (f key) update' = (m.upsert key update).rename f g := by
  obtain ⟨entries, unique⟩ := m
  apply ext_entries
  by_cases present : key ∈ entries.map Prod.fst
  · obtain ⟨⟨k, v⟩, member, rfl⟩ := List.mem_map.mp present
    obtain ⟨before, after, rfl, -, absent⟩ := split_of_mem unique member
    have absent' : f k ∉ (after.map fun entry => (f entry.1, g entry.2)).map Prod.fst := by
      rw [List.map_map]
      intro listed
      obtain ⟨entry, member, same⟩ := List.mem_map.mp listed
      exact absent (f.injective same ▸ List.mem_map_of_mem member)
    simp only [upsert, rename, List.map_append, List.map_cons, upsertEntries_of_split absent,
      upsertEntries_of_split absent']
    rw [← same (some v)]
    rfl
  · have absent' : f key ∉ (entries.map fun entry => (f entry.1, g entry.2)).map Prod.fst := by
      rw [List.map_map]
      intro listed
      obtain ⟨entry, member, same⟩ := List.mem_map.mp listed
      exact present (f.injective same ▸ List.mem_map_of_mem member)
    simp only [upsert, rename, upsertEntries_of_absent _ present, upsertEntries_of_absent _ absent',
      List.map_append]
    rw [List.map_singleton, ← same none]
    rfl

@[simp] theorem insert_rename (m : VecMap K V) (key : K) (value : V) :
    (m.rename f g).insert (f key) (g value) = (m.insert key value).rename f g :=
  upsert_rename m key fun _ => rfl

@[simp] theorem remove_rename (m : VecMap K V) (key : K) :
    (m.rename f g).remove (f key) = (m.remove key).rename f g := by
  apply ext_entries
  simp only [remove_entries, rename, List.filter_map]
  congr 2
  funext entry
  simp [f.injective.eq_iff]

@[simp] theorem forEntries_rename_body {σ : Type*} (m : VecMap K V) (body : σ → L → W → σ) (init : σ) :
    (m.rename f g).forEntries init body = m.forEntries init fun acc k v => body acc (f k) (g v) := by
  rw [forEntries_eq, forEntries_eq, rename, List.foldl_map]

theorem rebuild_rename (m : VecMap K V) {body : VecMap K V → K → V → VecMap K V}
    {body' : VecMap L W → L → W → VecMap L W}
    (same : ∀ kept k v, body' (kept.rename f g) (f k) (g v) = (body kept k v).rename f g) :
    (m.rename f g).forEntries new body' = (m.forEntries new body).rename f g := by
  rw [forEntries_rename_body, forEntries_eq, forEntries_eq, ← rename_new (f := f) (g := g)]
  refine List.foldl_hom (rename f g) ?_
  intro kept entry
  exact same kept entry.1 entry.2

/-- The loop that keeps some of the renamed entries. -/
theorem retain_rename (m : VecMap K V) (keep : L → W → Prop) [∀ k v, Decidable (keep k v)] :
    (m.rename f g).forEntries new (fun kept k v => if keep k v then kept.insert k v else kept) =
      (m.forEntries new fun kept k v => if keep (f k) (g v) then kept.insert k v else kept).rename f g := by
  apply rebuild_rename
  intro kept k v
  by_cases kept : keep (f k) (g v) <;> simp [kept]

/-- The loop that changes the values of the renamed entries. -/
theorem change_rename (m : VecMap K V) (change : V → V) (change' : W → W)
    (same : ∀ v, change' (g v) = g (change v)) :
    (m.rename f g).forEntries new (fun kept k v => kept.insert k (change' v)) =
      (m.forEntries new fun kept k v => kept.insert k (change v)).rename f g := by
  apply rebuild_rename
  intro kept k v
  rw [same, insert_rename]

@[simp] theorem insert_rename_id {f : K ↪ L} (m : VecMap K V) (key : K) (value : V) :
    (m.rename f id).insert (f key) value = (m.insert key value).rename f id :=
  insert_rename m key value

section SetValued

variable {T : Type*} (m : VecMap K (VecSet T)) (key : K) (x : T)

@[simp] theorem getSetOrEmpty_rename : (m.rename f id).getSetOrEmpty (f key) = m.getSetOrEmpty key := by
  simp only [getSetOrEmpty, getCloned_eq_get, get_rename, Option.map_id_fun, id_eq]

variable [DecidableEq T]

@[simp] theorem setContains_rename : (m.rename f id).setContains (f key) x = m.setContains key x := by
  simp only [setContains, getCloned_eq_get, get_rename, Option.map_id_fun, id_eq]

@[simp] theorem insertInto_rename : (m.rename f id).insertInto (f key) x = (m.insertInto key x).rename f id :=
  upsert_rename m key fun found => by cases found <;> rfl

end SetValued

end VecMap

/-- One-to-one renamings of every kind of identifier; the root keeps its name. -/
structure Renaming where
  agent : AgentId ↪ AgentId
  root : agent AgentId.root = AgentId.root
  tool : ToolId ↪ ToolId
  inv : InvocationId ↪ InvocationId
  challenge : ChallengeId ↪ ChallengeId
  attestation : AttestationId ↪ AttestationId
  crossing : CrossingId ↪ CrossingId
  assignment : AssignmentDigest ↪ AssignmentDigest
  policy : PolicyDigest ↪ PolicyDigest
  content : ContentHash ↪ ContentHash

variable (ρ : Renaming)

def Renaming.key : CrossingKey ↪ CrossingKey where
  toFun key := ⟨ρ.agent key.agent, ρ.assignment key.assignment⟩
  inj' := by
    intro key key' same
    simp only [CrossingKey.mk.injEq, ρ.agent.injective.eq_iff, ρ.assignment.injective.eq_iff] at same
    obtain ⟨agent, assignment⟩ := same
    cases key
    cases key'
    cases agent
    cases assignment
    rfl

def Admission.rename : Admission → Admission
  | .plain => .plain
  | .inspected attestation => .inspected (ρ.attestation attestation)
  | .bypassed => .bypassed

@[simps]
def ActionPolicySnapshot.rename (p : ActionPolicySnapshot) : ActionPolicySnapshot :=
  { p with tool := ρ.tool p.tool, policyDigest := ρ.policy p.policyDigest }

@[simps]
def PendingInvocation.rename (j : PendingInvocation) : PendingInvocation :=
  { j with agent := ρ.agent j.agent, policy := j.policy.rename ρ, admission := j.admission.rename ρ }

@[simps]
def ChallengeScope.rename (sc : ChallengeScope) : ChallengeScope :=
  { sc with
    challenge := ρ.challenge sc.challenge
    agent := ρ.agent sc.agent
    policy := sc.policy.rename ρ
    argsHash := ρ.content sc.argsHash }

@[simps]
def ResolutionAttestation.rename (x : ResolutionAttestation) : ResolutionAttestation :=
  { x with id := ρ.attestation x.id, inv := ρ.inv x.inv }

@[simps]
def InspectionAttestation.rename (x : InspectionAttestation) : InspectionAttestation :=
  { x with
    id := ρ.attestation x.id
    inv := ρ.inv x.inv
    challenge := ρ.challenge x.challenge
    argsHash := ρ.content x.argsHash
    policyDigest := ρ.policy x.policyDigest }

@[simps]
def ConformanceAttestation.rename (x : ConformanceAttestation) : ConformanceAttestation :=
  { x with
    id := ρ.attestation x.id
    output := ρ.content x.output
    src := ρ.agent x.src
    rcv := ρ.agent x.rcv
    descriptor := ρ.content x.descriptor
    assignment := ρ.assignment x.assignment }

@[simps]
def CrossInput.rename (q : CrossInput) : CrossInput :=
  { q with
    src := ρ.agent q.src
    rcv := ρ.agent q.rcv
    crossing := ρ.crossing q.crossing
    outputHash := ρ.content q.outputHash
    descriptor := ρ.content q.descriptor
    assignment := ρ.assignment q.assignment
    evidence := q.evidence.map (·.rename ρ) }

@[simps]
def BackgroundTheory.rename (bg : BackgroundTheory) : BackgroundTheory :=
  { bg with rootAgent := ρ.agent bg.rootAgent }

@[simps]
def KernelState.rename (s : KernelState) : KernelState where
  agentActive := s.agentActive.rename ρ.agent
  agentParent := s.agentParent.rename ρ.agent ρ.agent
  agentCap := s.agentCap.rename ρ.agent id
  taintLevels := s.taintLevels.rename ρ.agent id
  integLevels := s.integLevels.rename ρ.agent id
  pending := s.pending.rename ρ.inv (·.rename ρ)
  challenges := s.challenges.rename ρ.inv (·.rename ρ)
  consumedIds := s.consumedIds.rename ρ.inv
  consumedAttestations := s.consumedAttestations.rename ρ.attestation
  consumedCrossings := s.consumedCrossings.rename ρ.crossing
  crossingGrants := s.crossingGrants.rename ρ.key id
  toolRegistered := s.toolRegistered.rename ρ.tool

def KernelCommand.rename : KernelCommand → KernelCommand
  | .registerTool tool => .registerTool (ρ.tool tool)
  | .unregisterTool tool => .unregisterTool (ρ.tool tool)
  | .delegate grantor grantee => .delegate (ρ.agent grantor) (ρ.agent grantee)
  | .grantCapability parent child cap => .grantCapability (ρ.agent parent) (ρ.agent child) cap
  | .grantCrossing grantor agent assignment n =>
    .grantCrossing (ρ.agent grantor) (ρ.agent agent) (ρ.assignment assignment) n
  | .revoke parent target => .revoke (ρ.agent parent) (ρ.agent target)
  | .cascadeRevoke child parent => .cascadeRevoke (ρ.agent child) (ρ.agent parent)
  | .ingest a src pconf pinteg => .ingest (ρ.agent a) (src.map ρ.agent) pconf pinteg
  | .settleInvocation inv outcome att => .settleInvocation (ρ.inv inv) outcome (att.map (·.rename ρ))
  | .beginInvocation a inv chal snap egr ah authorized =>
    .beginInvocation (ρ.agent a) (ρ.inv inv) (ρ.challenge chal) (snap.rename ρ) egr (ρ.content ah) authorized
  | .authorizeInspected inv att => .authorizeInspected (ρ.inv inv) (att.rename ρ)
  | .crossOutput q => .crossOutput (q.rename ρ)

def KernelAction.rename : KernelAction → KernelAction
  | .registerTool tool => .registerTool (ρ.tool tool)
  | .unregisterTool tool => .unregisterTool (ρ.tool tool)
  | .delegate grantor grantee => .delegate (ρ.agent grantor) (ρ.agent grantee)
  | .grantCapability parent child cap => .grantCapability (ρ.agent parent) (ρ.agent child) cap
  | .grantCrossing grantor agent assignment n =>
    .grantCrossing (ρ.agent grantor) (ρ.agent agent) (ρ.assignment assignment) n
  | .revoke parent target => .revoke (ρ.agent parent) (ρ.agent target)
  | .cascadeRevoke child parent => .cascadeRevoke (ρ.agent child) (ρ.agent parent)
  | .ingest agent src pconf pinteg disposition =>
    .ingest (ρ.agent agent) (src.map ρ.agent) pconf pinteg disposition
  | .settleInvocation inv agent disposition outcome clvl ilvl resolution =>
    .settleInvocation (ρ.inv inv) (ρ.agent agent) disposition outcome clvl ilvl (resolution.map ρ.attestation)
  | .beginInvocation agent inv tool verdict authorized =>
    .beginInvocation (ρ.agent agent) (ρ.inv inv) (ρ.tool tool) verdict authorized
  | .authorizeInspected inv attestation admitted =>
    .authorizeInspected (ρ.inv inv) (ρ.attestation attestation) admitted
  | .crossOutput src rcv crossing branch disposition =>
    .crossOutput (ρ.agent src) (ρ.agent rcv) (ρ.crossing crossing) branch disposition

end Argus
