import Einsof.Base.Meter
import Einsof.Kernel.Evidence

namespace Argus

open Meter (Event)

/-- What a committed step does to the grant at `key`. -/
def grantEvent (key : CrossingKey) : KernelCommand × KernelAction → Event
  | (_, .grantCrossing _ agent assignment n) =>
    if (⟨agent, assignment⟩ : CrossingKey) = key then .provision n.toNat else .skip
  | (_, .delegate _ grantee) => if grantee = key.agent then .reset else .skip
  | (_, .revoke _ target) => if target = key.agent then .reset else .skip
  | (_, .cascadeRevoke child _) => if child = key.agent then .reset else .skip
  | (.crossOutput q, .crossOutput _ _ _ .endorsed _) =>
    if (⟨q.rcv, q.assignment⟩ : CrossingKey) = key then .use else .skip
  | _ => .skip

def CrossingGrant.balance (g : CrossingGrant) : Meter.Balance := ⟨g.provisioned.toNat, g.remaining.toNat⟩

def KernelState.grantBalance (s : KernelState) (key : CrossingKey) : Option Meter.Balance :=
  (s.crossingGrants.get key).map CrossingGrant.balance

variable {s s' : KernelState} {bg : BackgroundTheory} {r : KernelAction} {key : CrossingKey}

theorem grantBalance_congr (same : s'.crossingGrants = s.crossingGrants) :
    s'.grantBalance key = s.grantBalance key := by
  rw [KernelState.grantBalance, same, KernelState.grantBalance]

/-- A step settles the balance of every key by its event, and uses only what is there. -/
def Meters (s s' : KernelState) (key : CrossingKey) (e : Event) : Prop :=
  s'.grantBalance key = Meter.settle (s.grantBalance key) e ∧
    (e = .use → ∃ b, s.grantBalance key = some b ∧ 0 < b.remaining)

theorem Meters.skip (same : s'.crossingGrants = s.crossingGrants) : Meters s s' key .skip := by
  refine ⟨?_, fun use => by cases use⟩
  rw [grantBalance_congr same]
  cases s.grantBalance key <;> rfl

theorem Meters.drop {a : AgentId} (grants : s'.crossingGrants.get key =
    if key.agent = a then none else s.crossingGrants.get key) :
    Meters s s' key (if a = key.agent then .reset else .skip) := by
  by_cases holder : a = key.agent
  · rw [if_pos holder]
    rw [if_pos holder.symm] at grants
    refine ⟨?_, fun use => by cases use⟩
    rw [KernelState.grantBalance, grants]
    cases s.grantBalance key <;> rfl
  · rw [if_neg holder]
    rw [if_neg (fun same => holder same.symm)] at grants
    refine ⟨?_, fun use => by cases use⟩
    rw [KernelState.grantBalance, grants, ← KernelState.grantBalance]
    cases s.grantBalance key <;> rfl

/-- The grant read by the decrement is the one the endorsement test found funded. -/
theorem endorsed_grant_positive {q : CrossInput} (endorsed : crossBranch s q = .endorsed) :
    ∃ g, s.crossingGrants.get ⟨q.rcv, q.assignment⟩ = some g ∧ 0 < g.remaining :=
  (endorsedOk_iff.mp (crossBranch_endorsed.mp endorsed)).2

theorem Meters.cross {q : CrossInput} {d : Disposition} :
    Meters s (crossed s q (crossBranch s q) d) key
      (grantEvent key (.crossOutput q, .crossOutput q.src q.rcv q.crossing (crossBranch s q) d)) := by
  by_cases used : crossBranch s q = .endorsed ∧ key = ⟨q.rcv, q.assignment⟩
  · rcases used with ⟨endorsed, rfl⟩
    obtain ⟨g, present, positive⟩ := endorsed_grant_positive endorsed
    have balance : s.grantBalance ⟨q.rcv, q.assignment⟩ = some g.balance := by
      rw [KernelState.grantBalance, present]
      rfl
    have event : grantEvent ⟨q.rcv, q.assignment⟩ (.crossOutput q,
        .crossOutput q.src q.rcv q.crossing (crossBranch s q) d) = .use := by
      simp [grantEvent, endorsed]
    rw [event]
    refine ⟨?_, fun _ => ⟨g.balance, balance, positive⟩⟩
    have less : (g.remaining - 1).toNat = g.remaining.toNat - 1 := UInt32.toNat_sub_of_le _ _ positive
    rw [balance, KernelState.grantBalance, crossed_crossingGrants, if_pos ⟨endorsed, rfl⟩, present]
    simp [Meter.settle, CrossingGrant.balance, less]
  · have event : grantEvent key (.crossOutput q,
        .crossOutput q.src q.rcv q.crossing (crossBranch s q) d) = .skip := by
      cases branch : crossBranch s q with
      | endorsed =>
        have other : (⟨q.rcv, q.assignment⟩ : CrossingKey) ≠ key := fun same => used ⟨branch, same.symm⟩
        exact if_neg other
      | unendorsed => rfl
      | fail => rfl
    rw [event]
    refine ⟨?_, fun use => by cases use⟩
    rw [KernelState.grantBalance, crossed_crossingGrants, if_neg used, ← KernelState.grantBalance]
    cases s.grantBalance key <;> rfl

theorem Meters.provision {agent : AgentId} {assignment : AssignmentDigest} {n : UInt32}
    (same : s'.crossingGrants = s.crossingGrants.insert ⟨agent, assignment⟩ ⟨n, n⟩) :
    Meters s s' key (if (⟨agent, assignment⟩ : CrossingKey) = key then .provision n.toNat else .skip) := by
  by_cases here : (⟨agent, assignment⟩ : CrossingKey) = key
  · rw [if_pos here]
    refine ⟨?_, fun use => by cases use⟩
    rw [KernelState.grantBalance, same, VecMap.get_insert, if_pos here.symm]
    cases s.grantBalance key <;> rfl
  · rw [if_neg here]
    refine ⟨?_, fun use => by cases use⟩
    rw [KernelState.grantBalance, same, VecMap.get_insert, if_neg (fun h => here h.symm),
      ← KernelState.grantBalance]
    cases s.grantBalance key <;> rfl

theorem meters_step {c : KernelCommand} (accepted : (kernel bg).step s c = .ok (s', r))
    (key : CrossingKey) : Meters s s' key (grantEvent key (c, r)) := by
  cases c with
  | registerTool tool =>
    obtain ⟨-, rfl, rfl⟩ := registerTool_ok.mp accepted
    exact .skip rfl
  | unregisterTool tool =>
    obtain ⟨-, -, -, rfl, rfl⟩ := unregisterTool_ok.mp accepted
    exact .skip rfl
  | delegate grantor grantee =>
    obtain ⟨-, -, -, -, rfl, rfl⟩ := delegate_ok.mp accepted
    exact .drop enroll_crossingGrants
  | grantCapability parent child cap =>
    obtain ⟨-, -, -, -, rfl, rfl⟩ := grantCapability_ok.mp accepted
    exact .skip rfl
  | grantCrossing grantor agent assignment n =>
    obtain ⟨-, -, -, rfl, rfl⟩ := grantCrossing_ok.mp accepted
    exact .provision rfl
  | revoke parent target =>
    obtain ⟨-, -, -, -, rfl, rfl⟩ := revoke_ok.mp accepted
    exact .drop clearAgent_crossingGrants
  | cascadeRevoke child parent =>
    obtain ⟨-, -, -, -, rfl, rfl⟩ := cascadeRevoke_ok.mp accepted
    exact .drop clearAgent_crossingGrants
  | ingest a src l li =>
    obtain ⟨-, -, d, -, rfl, rfl⟩ := ingest_ok.mp accepted
    exact .skip (by rw [absorb_eq])
  | settleInvocation inv outcome att =>
    obtain ⟨j, -, -, -, -, rfl, rfl⟩ := settleInvocation_ok.mp accepted
    exact .skip (by rw [settled_eq])
  | beginInvocation a inv chal snap egr ah authorized =>
    obtain ⟨-, effect, rfl⟩ := beginInvocation_ok.mp accepted
    exact .skip (by rw [effect.frame])
  | authorizeInspected inv att =>
    obtain ⟨sc, -, -, -, rfl, rfl⟩ := authorizeInspected_ok.mp accepted
    exact .skip rfl
  | crossOutput q =>
    obtain ⟨-, -, -, -, -, d, -, rfl, rfl⟩ := crossOutput_ok.mp accepted
    exact .cross

theorem run_metered {history : List (KernelCommand × KernelAction)} (run : (kernel bg).Run history s)
    (key : CrossingKey) : s.grantBalance key = Meter.balance (history.map (grantEvent key)) ∧
      Meter.Legal (history.map (grantEvent key)) := by
  induction run with
  | start => exact ⟨rfl, .nil⟩
  | step run accepted ih =>
    rcases ih with ⟨balance, legal⟩
    obtain ⟨settled, funded⟩ := meters_step accepted key
    rw [balance] at settled funded
    rw [List.map_append, List.map_singleton, Meter.balance_snoc]
    exact ⟨settled, legal.snoc funded⟩

theorem count_uses (key : CrossingKey) (steps : List (KernelCommand × KernelAction)) :
    (steps.map (grantEvent key)).count .use = steps.countP (grantEvent key · = .use) := by
  rw [List.count, List.countP_map]
  rfl

theorem quiet_map {steps : List (KernelCommand × KernelAction)}
    (quiet : ∀ f ∈ steps, (grantEvent key f).provisions = false) :
    ∀ e ∈ steps.map (grantEvent key), e.provisions = false := by
  intro e member
  obtain ⟨f, present, rfl⟩ := List.mem_map.mp member
  exact quiet f present

theorem live_grant_conserved {history : List (KernelCommand × KernelAction)}
    (run : (kernel bg).Run history s) {g : CrossingGrant} (live : s.crossingGrants.get key = some g) :
    ∃ before e after, history = before ++ e :: after ∧
      grantEvent key e = .provision g.provisioned.toNat ∧
      (∀ f ∈ after, (grantEvent key f).provisions = false ∧ grantEvent key f ≠ .reset) ∧
      g.remaining.toNat + after.countP (grantEvent key · = .use) = g.provisioned.toNat := by
  obtain ⟨balance, legal⟩ := run_metered run key
  rw [KernelState.grantBalance, live] at balance
  obtain ⟨before, after, split, untouched, conserved⟩ := legal.conserved balance.symm
  obtain ⟨before', rest, rfl, rfl, tail⟩ := List.map_eq_append_iff.mp split
  obtain ⟨e, after', rfl, event, rfl⟩ := List.map_eq_cons_iff.mp tail
  refine ⟨before', e, after', rfl, event, fun f member => ?_, ?_⟩
  · exact untouched _ (List.mem_map_of_mem member)
  · rw [← count_uses]
    exact conserved

theorem segment_bounded {before mid rest : List (KernelCommand × KernelAction)}
    {e : KernelCommand × KernelAction} {n : Nat} (run : (kernel bg).Run (before ++ e :: (mid ++ rest)) s)
    (provisioned : grantEvent key e = .provision n)
    (quiet : ∀ f ∈ mid, (grantEvent key f).provisions = false) :
    mid.countP (grantEvent key · = .use) ≤ n := by
  have regroup : before ++ e :: (mid ++ rest) = (before ++ e :: mid) ++ rest := by simp
  rw [regroup] at run
  obtain ⟨s₁, upto⟩ := run.front
  obtain ⟨-, legal⟩ := run_metered upto key
  rw [List.map_append, List.map_cons, provisioned] at legal
  rw [← count_uses]
  rcases legal.segment (quiet_map quiet) with ⟨b, -, -, conserved, -⟩ | ⟨-, bounded⟩
  · omega
  · exact bounded

theorem unfunded_segment {before mid rest : List (KernelCommand × KernelAction)}
    (run : (kernel bg).Run (before ++ (mid ++ rest)) s)
    (empty : before = [] ∨ ∃ earlier e, before = earlier ++ [e] ∧ grantEvent key e = .reset)
    (quiet : ∀ f ∈ mid, (grantEvent key f).provisions = false) :
    mid.countP (grantEvent key · = .use) = 0 := by
  rw [← List.append_assoc] at run
  obtain ⟨s₁, upto⟩ := run.front
  obtain ⟨-, legal⟩ := run_metered upto key
  rw [List.map_append] at legal
  have none : Meter.balance (before.map (grantEvent key)) = none := by
    rcases empty with rfl | ⟨earlier, e, rfl, reset⟩
    · rfl
    · rw [List.map_append, List.map_singleton, reset, Meter.balance_snoc]
      cases Meter.balance (earlier.map (grantEvent key)) <;> rfl
  rw [← count_uses]
  exact (legal.unfunded none (quiet_map quiet)).2

/-- Crossing grants are conserved over every run. -/
theorem grants_conserved {history : List (KernelCommand × KernelAction)}
    (run : (kernel bg).Run history s) :
    (∀ key g, s.crossingGrants.get key = some g → ∃ before e after, history = before ++ e :: after ∧
      grantEvent key e = .provision g.provisioned.toNat ∧
      (∀ f ∈ after, (grantEvent key f).provisions = false ∧ grantEvent key f ≠ .reset) ∧
      g.remaining.toNat + after.countP (grantEvent key · = .use) = g.provisioned.toNat) ∧
    (∀ key before e mid rest n, history = before ++ e :: (mid ++ rest) →
      grantEvent key e = .provision n → (∀ f ∈ mid, (grantEvent key f).provisions = false) →
      mid.countP (grantEvent key · = .use) ≤ n) ∧
    (∀ key before mid rest, history = before ++ (mid ++ rest) →
      (before = [] ∨ ∃ earlier e, before = earlier ++ [e] ∧ grantEvent key e = .reset) →
      (∀ f ∈ mid, (grantEvent key f).provisions = false) → mid.countP (grantEvent key · = .use) = 0) ∧
    ∀ q s₂ d, crossOutput s bg q = .ok (s₂, .crossOutput q.src q.rcv q.crossing .endorsed d) →
      ∀ g, (crossConsume (crossRelease s q .endorsed) q .endorsed).crossingGrants.get
        ⟨q.rcv, q.assignment⟩ = some g → g.remaining ≠ 0 := by
  refine ⟨fun key g live => live_grant_conserved run live, ?_, ?_, ?_⟩
  · intro key before e mid rest n same provisioned quiet
    subst same
    exact segment_bounded run provisioned quiet
  · intro key before mid rest same empty quiet
    subst same
    exact unfunded_segment run empty quiet
  · intro q s₂ d committed g present zero
    obtain ⟨-, -, -, -, -, d', -, -, same⟩ := crossOutput_ok.mp committed
    obtain ⟨-, -, -, branch, -⟩ := KernelAction.crossOutput.inj same
    obtain ⟨g', funded, positive⟩ := endorsed_grant_positive branch.symm
    cases funded.symm.trans present
    rw [zero] at positive
    exact absurd positive (by decide)

theorem grants_conserved_sample : ∃ history, (kernel sampleBackground).Run history endorsedState ∧
    ∃ before e after, history = before ++ e :: after ∧
      grantEvent ⟨⟨"receiver"⟩, ⟨"assignment"⟩⟩ e = .provision 1 ∧
      (∀ f ∈ after, (grantEvent ⟨⟨"receiver"⟩, ⟨"assignment"⟩⟩ f).provisions = false ∧
        grantEvent ⟨⟨"receiver"⟩, ⟨"assignment"⟩⟩ f ≠ .reset) ∧
      0 + after.countP (grantEvent ⟨⟨"receiver"⟩, ⟨"assignment"⟩⟩ · = .use) = 1 := by
  obtain ⟨history, run, -⟩ := (Machine.Run.start (M := kernel sampleBackground)).drive endorsedCommands
  exact ⟨_, run, (grants_conserved run).1 ⟨⟨"receiver"⟩, ⟨"assignment"⟩⟩ ⟨0, 1⟩ (by decide)⟩

end Argus
