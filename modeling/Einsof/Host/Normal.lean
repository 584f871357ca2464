import Einsof.Host.Instance
import Einsof.Native.Preflight

namespace ExArgus

open Argus Fallible

def Opaque (value : String) : Prop := value ≠ "" ∧ value.utf8ByteSize ≤ maxOpaqueUtf8Bytes

namespace Validation

theorem checkOpaque_ok {value : String} {path : List Field} {u : Unit} :
    checkOpaque value path = .ok u ↔ Opaque value := by
  unfold checkOpaque Opaque
  by_cases empty : value = "" <;> by_cases large : value.utf8ByteSize > maxOpaqueUtf8Bytes <;>
    simp [empty, large]
  omega

theorem opaques_ok {path : List Field} {fields : List (Field × String)} {u : Unit} :
    opaques path fields = .ok u ↔ ∀ field ∈ fields, Opaque field.2 := by
  simp only [opaques, forM_ok, checkOpaque_ok]

section Sets

variable {T : Type} [DecidableEq T] {value normal allowed : List T} {maximum : Nat} {path path' : List Field}

theorem set_ok : set value allowed maximum path = .ok normal ↔
    value.length ≤ maximum ∧ value.Nodup ∧
      normal = value.insertionSort fun a b => allowed.idxOf a ≤ allowed.idxOf b := by
  unfold set
  by_cases large : value.length > maximum <;> by_cases distinct : value.Nodup <;>
    simp [large, distinct, eq_comm]
  omega

theorem set_normal (checked : set value allowed maximum path = .ok normal) :
    set normal allowed maximum path' = .ok normal := by
  obtain ⟨bounded, distinct, rfl⟩ := set_ok.mp checked
  have total : Std.Total fun a b : T => allowed.idxOf a ≤ allowed.idxOf b := ⟨fun _ _ => Nat.le_total _ _⟩
  have trans : IsTrans T fun a b => allowed.idxOf a ≤ allowed.idxOf b := ⟨fun _ _ _ => Nat.le_trans⟩
  refine set_ok.mpr ⟨?_, ?_, ?_⟩
  · rwa [List.length_insertionSort]
  · rwa [(List.perm_insertionSort _ value).nodup_iff]
  · exact (List.pairwise_insertionSort _ value).insertionSort_eq.symm

end Sets

def texts : CommandN → List String
  | .registerTool tool => [tool]
  | .unregisterTool tool => [tool]
  | .delegate grantor grantee => [grantor, grantee]
  | .grantCapability parent child _ => [parent, child]
  | .grantCrossing grantor agent assignment _ => [grantor, agent, assignment]
  | .revoke parent target => [parent, target]
  | .cascadeRevoke child parent => [child, parent]
  | .ingest agent src _ _ => agent :: src.toList
  | .beginInvocation agent inv challenge policy _ argsHash _ =>
    [agent, inv, challenge, policy.tool, policy.policyDigest, argsHash]
  | .authorizeInspected inv attestation =>
    [inv, attestation.id, attestation.inv, attestation.challenge, attestation.argsHash,
      attestation.policyDigest]
  | .settleInvocation inv _ resolution => inv :: resolution.elim [] fun x => [x.id, x.inv]
  | .crossOutput input =>
    [input.src, input.rcv, input.crossing, input.outputHash, input.descriptor, input.assignment] ++
      input.evidence.elim [] fun x => [x.id, x.output, x.src, x.rcv, x.descriptor, x.assignment]

theorem policy_ok {policy' snapshot : ActionPolicySnapshotN} {path : List Field} :
    policy snapshot path = .ok policy' ↔ Opaque snapshot.tool ∧ Opaque snapshot.policyDigest ∧
      ∃ caps egress, set snapshot.requiredCaps CapKind.all maxCapabilities (path ++ [.requiredCaps]) = .ok caps ∧
        set snapshot.declaredEgress EgressKind.all maxEgressKinds (path ++ [.declaredEgress]) = .ok egress ∧
        policy' = { snapshot with requiredCaps := caps, declaredEgress := egress } := by
  simp only [policy, bind_ok, opaques_ok, List.forall_mem_singleton, pure_ok]
  constructor
  · intro facts
    rcases facts with ⟨_, tool, caps, sorted, egress, sorted', _, digest, rfl⟩
    exact ⟨tool, digest, caps, egress, sorted, sorted', rfl⟩
  · intro facts
    rcases facts with ⟨tool, digest, caps, egress, sorted, sorted', rfl⟩
    exact ⟨(), tool, caps, sorted, egress, sorted', (), digest, rfl⟩

theorem command_normal {value normal : CommandN} (checked : command value = .ok normal) :
    command normal = .ok normal ∧ ∀ text ∈ texts normal, Opaque text := by
  have kept := checked
  cases value with
  | beginInvocation agent inv challenge snapshot egress argsHash authorized =>
    simp only [command, beginCommand, bind_ok, opaques_ok, pure_ok, policy_ok] at checked
    obtain ⟨_, names, _, ⟨tool, digest, caps, declared, sorted, sorted', rfl⟩, egress', sorted'', _, hash,
      rfl⟩ := checked
    constructor
    · simp only [command, beginCommand, bind_ok, opaques_ok, pure_ok, policy_ok]
      exact ⟨(), names, _, ⟨tool, digest, _, _, set_normal sorted, set_normal sorted', rfl⟩, _,
        set_normal sorted'', (), hash, rfl⟩
    · simp_all [texts]
  | authorizeInspected inv attestation =>
    simp only [command, inspection, bind_ok, map_ok, opaques_ok] at checked
    rcases checked with ⟨_, named, _, evidence, rfl⟩
    exact ⟨kept, by simp_all [texts]⟩
  | settleInvocation inv outcome resolution =>
    simp only [command, bind_ok, map_ok, opaques_ok] at checked
    rcases checked with ⟨_, named, _, evidence, rfl⟩
    refine ⟨kept, ?_⟩
    cases resolution with
    | none => simp_all [texts]
    | some x =>
      rw [optionalResolution, opaques_ok] at evidence
      simp_all [texts]
  | crossOutput input =>
    simp only [command, crossInput, bind_ok, map_ok, opaques_ok] at checked
    rcases checked with ⟨_, ⟨_, named, evidence⟩, rfl⟩
    refine ⟨kept, ?_⟩
    cases present : input.evidence with
    | none => simp_all [texts]
    | some x =>
      rw [present, optionalEvidence, opaques_ok] at evidence
      simp_all [texts]
  | ingest agent src pconf pinteg =>
    simp only [command, map_ok, opaques_ok] at checked
    rcases checked with ⟨_, proper, rfl⟩
    cases src <;> exact ⟨kept, by simp_all [texts, optionalField]⟩
  | _ =>
    simp only [command, map_ok, opaques_ok] at checked
    rcases checked with ⟨_, proper, rfl⟩
    exact ⟨kept, by simp_all [texts]⟩

end Validation

instance (value : String) : Decidable (Opaque value) :=
  inferInstanceAs (Decidable (value ≠ "" ∧ value.utf8ByteSize ≤ maxOpaqueUtf8Bytes))

/-- One for a string that no validated command contains. -/
def unfit (value : String) : Nat := if Opaque value then 0 else 1

theorem unfit_eq_zero {value : String} : unfit value = 0 ↔ Opaque value := by
  unfold unfit
  split <;> simp [*]

/-- Every string that the state retains came from a validated command. -/
def Proper (s : KernelState) : Prop := s.weigh (Gauge.text unfit) = 0

theorem initial_proper : Proper KernelState.initial := by
  unfold Proper
  decide

section Strings

variable {s s' : KernelState} {bg : BackgroundTheory} {f : String → Nat}

theorem pending_texts {inv : InvocationId} {j : PendingInvocation} (found : s.pending.get inv = some j) :
    ((pendingTexts inv j).map f).sum ≤ s.weigh (Gauge.text f) := by
  have held : ((pendingTexts inv j).map f).sum ≤ s.pending.weigh (Gauge.text f).pending :=
    VecMap.le_weigh (Gauge.text f).pending found
  unfold KernelState.weigh
  omega

theorem challenge_texts {inv : InvocationId} {sc : ChallengeScope} (found : s.challenges.get inv = some sc) :
    ((challengeTexts inv sc).map f).sum ≤ s.weigh (Gauge.text f) := by
  have held : ((challengeTexts inv sc).map f).sum ≤ s.challenges.weigh (Gauge.text f).challenge :=
    VecMap.le_weigh (Gauge.text f).challenge found
  unfold KernelState.weigh
  omega

/-- A command only brings strings of its own or moves strings that the state holds. -/
theorem growth_of_texts {command : CommandN} (fresh : ∀ text ∈ Validation.texts command, f text = 0)
    (kept : s.weigh (Gauge.text f) = 0) : command.intoKernel.growth (Gauge.text f) s = 0 := by
  have newKey_of : ∀ {V : Type} (m : VecMap AgentId V) {a : AgentId}, f a.val = 0 →
      newKey m (fun a => f a.val) a = 0 :=
    fun m _ none => Nat.le_zero.mp (none ▸ newKey_le m _ _)
  cases command with
  | settleInvocation inv outcome resolution =>
    have owner : ∀ j, s.pending.get ⟨inv⟩ = some j → f j.agent.val = 0 := by
      intro j found
      have held := pending_texts (f := f) found
      simp only [pendingTexts, List.map_append, List.map_cons, List.map_nil, List.sum_append, List.sum_cons,
        List.sum_nil] at held
      omega
    cases found : s.pending.get ⟨inv⟩ <;> cases resolution <;>
      simp_all [Validation.texts, CommandN.intoKernel, KernelCommand.growth, Gauge.text,
        ResolutionAttestationN.intoKernel]
  | authorizeInspected inv attestation =>
    have scope : ∀ sc, s.challenges.get ⟨inv⟩ = some sc → f inv = 0 ∧ f sc.agent.val = 0 ∧
        f sc.policy.tool.val = 0 ∧ f sc.policy.policyDigest.val = 0 := by
      intro sc found
      have held := challenge_texts (f := f) found
      simp only [challengeTexts, List.map_cons, List.map_nil, List.sum_cons, List.sum_nil] at held
      omega
    cases found : s.challenges.get ⟨inv⟩ <;>
      simp_all [Validation.texts, CommandN.intoKernel, KernelCommand.growth, Gauge.text, pendingTexts,
        InspectionAttestationN.intoKernel]
  | crossOutput input =>
    cases evidence : input.evidence <;>
      simp_all [Validation.texts, CommandN.intoKernel, KernelCommand.growth, Gauge.text,
        CrossInputN.intoKernel, ConformanceAttestationN.intoKernel]
  | beginInvocation agent inv challenge policy egress argsHash authorized =>
    simp_all [Validation.texts, CommandN.intoKernel, KernelCommand.growth, Gauge.text, pendingTexts,
      challengeTexts, ActionPolicySnapshotN.intoKernel]
  | _ => simp_all [Validation.texts, CommandN.intoKernel, KernelCommand.growth, Gauge.text]

theorem Proper.step {command : CommandN} {action : ActionN} (proper : Proper s)
    (fresh : ∀ text ∈ Validation.texts command, Opaque text)
    (applied : command.apply s bg = .ok (s', action)) : Proper s' := by
  obtain ⟨r, committed, -⟩ := CommandN.apply_ok.mp applied
  have grown := KernelCommand.apply_weigh (Gauge.text unfit) committed
  have nothing := growth_of_texts (fun text member => unfit_eq_zero.mpr (fresh text member)) proper
  rw [proper, nothing] at grown
  exact Nat.le_zero.mp grown

/-- Every string of a recorded action is one of the command or the owner of the settled record. -/
theorem action_texts {command : CommandN} {action : ActionN}
    (applied : command.apply s bg = .ok (s', action)) {field : Field × String}
    (member : field ∈ Validation.actionFields action) : field.2 ∈ Validation.texts command ∨
      ∃ inv j, s.pending.get inv = some j ∧ field.2 = j.agent.val := by
  obtain ⟨r, committed, rfl⟩ := CommandN.apply_ok.mp applied
  have own (kept : (Validation.actionFields (ActionN.fromKernel r)).map Prod.snd ⊆ Validation.texts command) :
      field.2 ∈ Validation.texts command ∨ ∃ inv j, s.pending.get inv = some j ∧ field.2 = j.agent.val :=
    .inl (kept (List.mem_map_of_mem member))
  cases command with
  | registerTool tool =>
    obtain ⟨-, -, rfl⟩ := registerTool_ok.mp committed
    exact own (List.Subset.refl _)
  | unregisterTool tool =>
    obtain ⟨-, -, -, -, rfl⟩ := unregisterTool_ok.mp committed
    exact own (List.Subset.refl _)
  | delegate grantor grantee =>
    obtain ⟨-, -, -, -, -, rfl⟩ := delegate_ok.mp committed
    exact own (List.Subset.refl _)
  | grantCapability parent child cap =>
    obtain ⟨-, -, -, -, -, rfl⟩ := grantCapability_ok.mp committed
    exact own (List.Subset.refl _)
  | grantCrossing grantor agent assignment n =>
    obtain ⟨-, -, -, -, rfl⟩ := grantCrossing_ok.mp committed
    exact own (List.Subset.refl _)
  | revoke parent target =>
    obtain ⟨-, -, -, -, -, rfl⟩ := revoke_ok.mp committed
    exact own (List.Subset.refl _)
  | cascadeRevoke child parent =>
    obtain ⟨-, -, -, -, -, rfl⟩ := cascadeRevoke_ok.mp committed
    exact own (List.Subset.refl _)
  | ingest agent src pconf pinteg =>
    obtain ⟨-, -, d, -, -, rfl⟩ := ingest_ok.mp committed
    cases src <;> exact own (List.Subset.refl _)
  | beginInvocation agent inv challenge policy egress argsHash authorized =>
    obtain ⟨-, -, rfl⟩ := beginInvocation_ok.mp committed
    apply own
    simp [Validation.texts, Validation.actionFields, ActionN.fromKernel, ActionPolicySnapshotN.intoKernel]
  | authorizeInspected inv attestation =>
    obtain ⟨sc, -, -, -, -, rfl⟩ := authorizeInspected_ok.mp committed
    apply own
    simp [Validation.texts, Validation.actionFields, ActionN.fromKernel, InspectionAttestationN.intoKernel]
  | settleInvocation inv outcome resolution =>
    obtain ⟨j, found, -, -, -, -, rfl⟩ := settleInvocation_ok.mp committed
    by_cases owner : field.2 = j.agent.val
    · exact .inr ⟨_, j, found, owner⟩
    left
    have listed := List.mem_map_of_mem (f := Prod.snd) member
    cases resolution with
    | none =>
      simpa [Validation.texts, Validation.actionFields, Validation.optionalField, ActionN.fromKernel, owner]
        using listed
    | some x =>
      have listed' : field.2 = inv ∨ field.2 = x.id := by
        simpa [Validation.actionFields, Validation.optionalField, ActionN.fromKernel,
          ResolutionAttestationN.intoKernel, owner] using listed
      simp only [Validation.texts, Option.elim_some, List.mem_cons]
      exact listed'.imp_right Or.inl
  | crossOutput input =>
    obtain ⟨-, -, -, -, -, d, -, -, rfl⟩ := crossOutput_ok.mp committed
    apply own
    simp [Validation.texts, Validation.actionFields, ActionN.fromKernel, CrossInputN.intoKernel]

end Strings

end ExArgus
