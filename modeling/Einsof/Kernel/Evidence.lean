import Einsof.Base.Ledger
import Einsof.Kernel.Declassification

namespace Argus

def attestationsUsed : KernelCommand × KernelAction → List AttestationId
  | (_, .authorizeInspected _ attestation _) => [attestation]
  | (_, .settleInvocation _ _ _ _ _ _ resolution) => resolution.toList
  | (.crossOutput q, .crossOutput _ _ _ .endorsed _) => (q.evidence.map (·.id)).toList
  | _ => []

def crossingsUsed : KernelCommand × KernelAction → List CrossingId
  | (_, .crossOutput _ _ crossing _ _) => [crossing]
  | _ => []

variable {s s' : KernelState} {bg : BackgroundTheory} {r : KernelAction}

structure Spends (s s' : KernelState) (used : List AttestationId) (crossings : List CrossingId) : Prop where
  once : used.Nodup
  fresh : ∀ x ∈ used, x ∉ s.consumedAttestations
  remember : ∀ x, x ∈ s'.consumedAttestations ↔ x ∈ s.consumedAttestations ∨ x ∈ used
  crossingOnce : crossings.Nodup
  crossingFresh : ∀ x ∈ crossings, x ∉ s.consumedCrossings
  crossingRemember : ∀ x, x ∈ s'.consumedCrossings ↔ x ∈ s.consumedCrossings ∨ x ∈ crossings

theorem Spends.nothing (attestations : s'.consumedAttestations = s.consumedAttestations)
    (crossings : s'.consumedCrossings = s.consumedCrossings) : Spends s s' [] [] := by
  constructor <;> simp [attestations, crossings]

theorem settle_spends {inv : InvocationId} {outcome : Outcome} {att : Option ResolutionAttestation}
    (accepted : settleInvocation s inv outcome att = .ok (s', r)) :
    Spends s s' (attestationsUsed (.settleInvocation inv outcome att, r)) [] := by
  obtain ⟨j, -, -, -, rule, rfl, rfl⟩ := settleInvocation_ok.mp accepted
  have crossings : (settled s inv outcome att j).consumedCrossings = s.consumedCrossings := by
    rw [settled_eq]
  cases att with
  | none => constructor <;> simp [attestationsUsed, crossings]
  | some x =>
    have fresh : x.id ∉ s.consumedAttestations := by
      rcases rule with ⟨-, -, y, same, -, -, fresh⟩ | ⟨-, impossible⟩
      · cases same
        exact fresh
      · cases impossible
    constructor <;> simp [attestationsUsed, crossings, fresh]

theorem authorize_spends {inv : InvocationId} {att : InspectionAttestation}
    (accepted : authorizeInspected s bg inv att = .ok (s', r)) :
    Spends s s' (attestationsUsed (.authorizeInspected inv att, r)) [] := by
  obtain ⟨sc, -, -, fresh, rfl, rfl⟩ := authorizeInspected_ok.mp accepted
  constructor <;> simp [attestationsUsed, resolve, fresh]

theorem cross_spends {q : CrossInput} (accepted : crossOutput s bg q = .ok (s', r)) :
    Spends s s' (attestationsUsed (.crossOutput q, r)) (crossingsUsed (.crossOutput q, r)) := by
  obtain ⟨-, -, -, crossingFresh, -, d, -, rfl, rfl⟩ := crossOutput_ok.mp accepted
  have crossings : (crossed s q (crossBranch s q) d).consumedCrossings =
      s.consumedCrossings.insert q.crossing := by rw [crossed_eq]
  cases branch : crossBranch s q with
  | endorsed =>
    obtain ⟨⟨e, evidence, -, fresh, -⟩, -⟩ := endorsedOk_iff.mp (crossBranch_endorsed.mp branch)
    rw [branch] at crossings
    constructor <;>
      simp [attestationsUsed, crossingsUsed, crossings, evidence, fresh, crossingFresh]
  | unendorsed =>
    rw [branch] at crossings
    constructor <;> simp [attestationsUsed, crossingsUsed, crossings, crossingFresh]
  | fail =>
    rw [branch] at crossings
    constructor <;> simp [attestationsUsed, crossingsUsed, crossings, crossingFresh]

theorem spends_step {c : KernelCommand} (accepted : (kernel bg).step s c = .ok (s', r)) :
    Spends s s' (attestationsUsed (c, r)) (crossingsUsed (c, r)) := by
  cases c with
  | registerTool tool =>
    obtain ⟨-, rfl, rfl⟩ := registerTool_ok.mp accepted
    exact .nothing rfl rfl
  | unregisterTool tool =>
    obtain ⟨-, -, -, rfl, rfl⟩ := unregisterTool_ok.mp accepted
    exact .nothing rfl rfl
  | delegate grantor grantee =>
    obtain ⟨-, -, -, -, rfl, rfl⟩ := delegate_ok.mp accepted
    exact .nothing rfl rfl
  | grantCapability parent child cap =>
    obtain ⟨-, -, -, -, rfl, rfl⟩ := grantCapability_ok.mp accepted
    exact .nothing rfl rfl
  | grantCrossing grantor agent assignment n =>
    obtain ⟨-, -, -, rfl, rfl⟩ := grantCrossing_ok.mp accepted
    exact .nothing rfl rfl
  | revoke parent target =>
    obtain ⟨-, -, -, -, rfl, rfl⟩ := revoke_ok.mp accepted
    exact .nothing rfl rfl
  | cascadeRevoke child parent =>
    obtain ⟨-, -, -, -, rfl, rfl⟩ := cascadeRevoke_ok.mp accepted
    exact .nothing rfl rfl
  | ingest a src l li =>
    obtain ⟨-, -, d, -, rfl, rfl⟩ := ingest_ok.mp accepted
    exact .nothing (by rw [absorb_eq]) (by rw [absorb_eq])
  | settleInvocation inv outcome att =>
    have spends := settle_spends accepted
    obtain ⟨j, -, -, -, -, -, rfl⟩ := settleInvocation_ok.mp accepted
    exact spends
  | beginInvocation a inv chal snap egr ah authorized =>
    obtain ⟨-, effect, rfl⟩ := beginInvocation_ok.mp accepted
    exact .nothing (by rw [effect.frame]) (by rw [effect.frame])
  | authorizeInspected inv att =>
    have spends := authorize_spends accepted
    obtain ⟨sc, -, -, -, -, rfl⟩ := authorizeInspected_ok.mp accepted
    exact spends
  | crossOutput q => exact cross_spends accepted

theorem attestation_ledger (bg : BackgroundTheory) :
    (kernel bg).Ledger (fun s x => x ∈ s.consumedAttestations) attestationsUsed where
  initial _ := VecSet.mem_new
  once accepted := (spends_step accepted).once
  fresh accepted := (spends_step accepted).fresh
  remember accepted := (spends_step accepted).remember

theorem crossing_ledger (bg : BackgroundTheory) :
    (kernel bg).Ledger (fun s x => x ∈ s.consumedCrossings) crossingsUsed where
  initial _ := VecSet.mem_new
  once accepted := (spends_step accepted).crossingOnce
  fresh accepted := (spends_step accepted).crossingFresh
  remember accepted := (spends_step accepted).crossingRemember

/-- Evidence is one-use over the whole run and across its three uses. -/
theorem evidence_one_use {bg : BackgroundTheory} {history : List (KernelCommand × KernelAction)}
    {s : KernelState} (run : (kernel bg).Run history s) :
    (history.flatMap attestationsUsed).Nodup ∧ (history.flatMap crossingsUsed).Nodup ∧
    (∀ x, x ∈ s.consumedAttestations ↔ x ∈ history.flatMap attestationsUsed) ∧
    ∀ x, x ∈ s.consumedCrossings ↔ x ∈ history.flatMap crossingsUsed :=
  ⟨(attestation_ledger bg).nodup run, (crossing_ledger bg).nodup run,
    (attestation_ledger bg).spent_iff run, (crossing_ledger bg).spent_iff run⟩

theorem evidence_one_use_sample : ∃ history,
    (kernel sampleBackground).Run history endorsedState ∧
    (history.flatMap attestationsUsed).Nodup ∧ (history.flatMap crossingsUsed).Nodup ∧
    (∀ x, x ∈ endorsedState.consumedAttestations ↔ x ∈ history.flatMap attestationsUsed) ∧
    ∀ x, x ∈ endorsedState.consumedCrossings ↔ x ∈ history.flatMap crossingsUsed := by
  obtain ⟨history, run, -⟩ := (Machine.Run.start (M := kernel sampleBackground)).drive endorsedCommands
  exact ⟨_, run, evidence_one_use run⟩

end Argus
