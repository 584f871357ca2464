import Einsof.Base.Sourcing
import Einsof.Kernel.Forest

namespace Argus

/-- What the records tell of an invocation in flight. -/
structure RollEntry where
  agent : AgentId
  tool : ToolId
  admission : Admission
  disposition : Disposition
  authorized : Bool
  quarantined : Bool
  deriving DecidableEq

def PendingInvocation.entry (j : PendingInvocation) : RollEntry where
  agent := j.agent
  tool := j.policy.tool
  admission := j.admission
  disposition := j.disposition
  authorized := j.authorized
  quarantined := j.quarantined

/-- What the records tell of a challenge: an invocation not yet admitted. -/
def ChallengeScope.entry (sc : ChallengeScope) : RollEntry where
  agent := sc.agent
  tool := sc.policy.tool
  admission := .plain
  disposition := .blocked
  authorized := sc.authorized
  quarantined := false

/-- Who is active, on whose behalf and with which rights, what is in flight and what is spent, as far as
    the accepted actions tell. -/
@[ext] structure Roll where
  active : AgentId → Bool
  parent : AgentId → Option AgentId
  caps : AgentId → CapKind → Bool
  provisioned : CrossingKey → Option UInt32
  tools : ToolId → Bool
  pending : InvocationId → Option RollEntry
  challenges : InvocationId → Option RollEntry
  consumedIds : InvocationId → Bool
  consumedCrossings : CrossingId → Bool

def KernelState.roll (s : KernelState) : Roll where
  active := s.agentActive.contains
  parent := s.agentParent.get
  caps := s.agentCap.setContains
  provisioned key := (s.crossingGrants.get key).map (·.provisioned)
  tools := s.toolRegistered.contains
  pending i := (s.pending.get i).map (·.entry)
  challenges i := (s.challenges.get i).map (·.entry)
  consumedIds := s.consumedIds.contains
  consumedCrossings := s.consumedCrossings.contains

namespace Roll

open Function (update)

/-- Nothing of `a` is left, but for edges that lead to it. -/
def clear (v : Roll) (a : AgentId) : Roll :=
  { v with
    active := update v.active a false
    parent := update v.parent a none
    caps := update v.caps a fun _ => false
    provisioned := fun key => if key.agent = a then none else v.provisioned key
    pending := fun i => (v.pending i).filter (·.agent ≠ a)
    challenges := fun i => (v.challenges i).filter (·.agent ≠ a) }

def demote (v : Roll) (a : AgentId) : Roll :=
  { v with pending := fun i => (v.pending i).map fun j =>
      if j.agent = a then { j with disposition := .monitorBypassed } else j }

/-- How one accepted record moves the roll. -/
def record (mode : Mode) (v : Roll) : KernelAction → Roll
  | .registerTool tool => { v with tools := update v.tools tool true }
  | .unregisterTool tool => { v with tools := update v.tools tool false }
  | .delegate grantor grantee =>
    { v.clear grantee with
      active := update v.active grantee true
      parent := update v.parent grantee (some grantor) }
  | .grantCapability _ child cap => { v with caps := update v.caps child (update (v.caps child) cap true) }
  | .grantCrossing _ agent assignment n =>
    { v with provisioned := update v.provisioned ⟨agent, assignment⟩ (some n) }
  | .revoke _ target => v.clear target
  | .cascadeRevoke child _ => v.clear child
  | .ingest agent _ _ _ disposition => if disposition = .monitorBypassed then v.demote agent else v
  | .beginInvocation agent inv tool verdict authorized =>
    let v := { v with consumedIds := update v.consumedIds inv true }
    match verdict, mode with
    | .allow, _ =>
      { v with pending := update v.pending inv (some ⟨agent, tool, .plain, .permitted, authorized, false⟩) }
    | .inspectionRequired, .enforce =>
      { v with challenges :=
          update v.challenges inv (some ⟨agent, tool, .plain, .blocked, authorized, false⟩) }
    | _, _ =>
      { v with pending :=
          update v.pending inv (some ⟨agent, tool, .bypassed, .monitorBypassed, authorized, false⟩) }
  | .authorizeInspected inv attestation admitted =>
    { v with
      pending := if admitted then
          update v.pending inv ((v.challenges inv).map fun sc =>
            { sc with admission := .inspected attestation, disposition := .permitted })
        else v.pending
      challenges := update v.challenges inv none }
  | .settleInvocation inv agent disposition outcome _ _ _ =>
    let left := if outcome = .ambiguous then (v.pending inv).map fun j => { j with quarantined := true }
      else none
    let v := { v with pending := update v.pending inv left }
    if disposition ≠ .permitted then v.demote agent else v
  | .crossOutput _ rcv crossing _ disposition =>
    let v := { v with consumedCrossings := update v.consumedCrossings crossing true }
    if disposition = .monitorBypassed then v.demote rcv else v

end Roll

variable {s s' : KernelState} {bg : BackgroundTheory} {r : KernelAction} {a : AgentId}

section Contents

variable {T : Type*} [DecidableEq T]

theorem contains_insert (x : T) (s : VecSet T) :
    (s.insert x).contains = Function.update s.contains x true := by
  funext y
  rw [Bool.eq_iff_iff]
  by_cases same : y = x <;> simp [same]

theorem contains_remove (x : T) (s : VecSet T) :
    (s.remove x).contains = Function.update s.contains x false := by
  funext y
  rw [Bool.eq_iff_iff]
  by_cases same : y = x <;> simp [same]

end Contents

theorem setContains_remove (m : VecMap AgentId (VecSet CapKind)) :
    (m.remove a).setContains = Function.update m.setContains a fun _ => false := by
  funext b cap
  rw [Bool.eq_iff_iff]
  by_cases same : b = a <;> simp [same]

theorem get_remove_update {K V : Type*} [DecidableEq K] (m : VecMap K V) (key : K) :
    (m.remove key).get = Function.update m.get key none := by
  funext other
  rw [VecMap.get_remove, Function.update_apply]

theorem filter_entry (o : Option PendingInvocation) :
    (o.filter (·.agent ≠ a)).map (·.entry) = (o.map (·.entry)).filter (·.agent ≠ a) := by
  cases o with
  | none => rfl
  | some j => by_cases own : j.agent = a <;> simp [Option.filter, PendingInvocation.entry, own]

theorem filter_scope (o : Option ChallengeScope) :
    (o.filter (·.agent ≠ a)).map (·.entry) = (o.map (·.entry)).filter (·.agent ≠ a) := by
  cases o with
  | none => rfl
  | some sc => by_cases own : sc.agent = a <;> simp [Option.filter, ChallengeScope.entry, own]

theorem clearAgent_roll : (clearAgent s a).roll = s.roll.clear a := by
  apply Roll.ext
  · exact contains_remove a s.agentActive
  · exact get_remove_update s.agentParent a
  · exact setContains_remove s.agentCap
  · funext key
    simp only [KernelState.roll, Roll.clear, clearAgent_crossingGrants]
    split <;> rfl
  · rfl
  · funext i
    simp only [KernelState.roll, Roll.clear, clearAgent_pending, filter_entry]
  · funext i
    simp only [KernelState.roll, Roll.clear, clearAgent_challenges, filter_scope]
  · rfl
  · rfl

theorem enroll_roll {grantor : AgentId} (mode : Mode)
    (childless : ∀ child, s.agentParent.get child ≠ some a) :
    (enroll s grantor a).roll = s.roll.record mode (.delegate grantor a) := by
  apply Roll.ext
  · funext b
    rw [Bool.eq_iff_iff]
    by_cases self : b = a <;> simp [KernelState.roll, Roll.record, Roll.clear, self]
  · funext b
    refine (enroll_edges childless b).trans ?_
    by_cases self : b = a <;> simp [KernelState.roll, Roll.record, Roll.clear, self]
  · exact setContains_remove s.agentCap
  · funext key
    simp only [KernelState.roll, Roll.record, Roll.clear, enroll_crossingGrants]
    split <;> rfl
  · rfl
  · funext i
    simp only [KernelState.roll, Roll.record, Roll.clear, enroll_pending, filter_entry]
  · funext i
    simp only [KernelState.roll, Roll.record, Roll.clear, enroll_challenges, filter_scope]
  · rfl
  · rfl

/-- Demotion reads the owner and writes the disposition. -/
theorem demoteAllOf_roll : (s.demoteAllOf a).roll = s.roll.demote a := by
  apply Roll.ext <;> try rfl
  funext i
  simp only [KernelState.roll, Roll.demote, KernelState.demoteAllOf_get, Option.map_map]
  congr 1
  funext j
  by_cases own : j.agent = a <;> simp [KernelState.demoted, PendingInvocation.entry, own]

theorem absorb_roll {l : ConfLevel} {li : IntegLevel} {d : Disposition} :
    (absorb s a l li d).roll = if d = .monitorBypassed then s.roll.demote a else s.roll := by
  unfold absorb
  split
  · exact demoteAllOf_roll
  · rfl

theorem settleAt_roll {inv : InvocationId} {outcome : Outcome} {j : PendingInvocation}
    (present : s.pending.get inv = some j) : (settleAt s inv outcome j).roll = { s.roll with
      pending := Function.update s.roll.pending inv (if outcome = .ambiguous then
        (s.roll.pending inv).map fun e => { e with quarantined := true } else none) } := by
  have entry : s.roll.pending inv = some j.entry := by simp [KernelState.roll, present]
  rw [entry]
  have moved : (settleAt s inv outcome j).roll.pending = Function.update s.roll.pending inv
      (if outcome = .ambiguous then some { j.entry with quarantined := true } else none) := by
    funext i
    by_cases self : i = inv <;> by_cases ambiguous : outcome = .ambiguous <;>
      simp [KernelState.roll, settleAt, ambiguous, self, PendingInvocation.entry]
  exact congrArg (fun p => { s.roll with pending := p }) moved

theorem settled_roll {inv : InvocationId} {outcome : Outcome} {att : Option ResolutionAttestation}
    {j : PendingInvocation} : (settled s inv outcome att j).roll =
      if j.disposition ≠ .permitted then (settleAt s inv outcome j).roll.demote j.agent
      else (settleAt s inv outcome j).roll := by
  rw [settled_eq]
  by_cases contained : j.disposition ≠ .permitted
  · simp only [if_pos contained]
    exact demoteAllOf_roll (s := settleAt s inv outcome j)
  · simp only [if_neg contained]
    rfl

theorem pend_roll {inv : InvocationId} {j : PendingInvocation} : (s.pend inv j).roll =
    { s.roll with
      pending := Function.update s.roll.pending inv (some j.entry)
      consumedIds := Function.update s.roll.consumedIds inv true } := by
  apply Roll.ext <;> try rfl
  · funext i
    by_cases self : i = inv <;> simp [KernelState.roll, self]
  · exact contains_insert inv s.consumedIds

theorem challenge_roll {inv : InvocationId} {sc : ChallengeScope} : (s.challenge inv sc).roll =
    { s.roll with
      challenges := Function.update s.roll.challenges inv (some sc.entry)
      consumedIds := Function.update s.roll.consumedIds inv true } := by
  apply Roll.ext <;> try rfl
  · funext i
    by_cases self : i = inv <;> simp [KernelState.roll, self]
  · exact contains_insert inv s.consumedIds

theorem resolve_roll {inv : InvocationId} {sc : ChallengeScope} {x : AttestationId} {admitted : Bool}
    (mode : Mode) (opened : s.challenges.get inv = some sc) :
    (resolve s inv sc x admitted).roll = s.roll.record mode (.authorizeInspected inv x admitted) := by
  have entry : s.roll.challenges inv = some sc.entry := by simp [KernelState.roll, opened]
  apply Roll.ext <;> try rfl
  · funext i
    simp only [Roll.record, entry]
    by_cases self : i = inv <;> cases admitted <;>
      simp [KernelState.roll, self, PendingInvocation.entry, ChallengeScope.entry]
  · funext i
    by_cases self : i = inv <;> simp [KernelState.roll, Roll.record, self]

/-- A crossing spends a use of the grant, of which the provisioned number says nothing. -/
theorem decrementGrantAt_provisioned {assignment : AssignmentDigest} (key : CrossingKey) :
    ((s.decrementGrantAt a assignment).crossingGrants.get key).map (·.provisioned) =
      (s.crossingGrants.get key).map (·.provisioned) := by
  rw [KernelState.decrementGrantAt_get]
  split
  · rw [Option.map_map]
    rfl
  · rfl

theorem crossed_roll {q : CrossInput} {branch : CrossBranch} {d : Disposition} (mode : Mode) :
    (crossed s q branch d).roll = s.roll.record mode (.crossOutput q.src q.rcv q.crossing branch d) := by
  have provisioned : (fun key => ((if branch = .endorsed then s.decrementGrantAt q.rcv q.assignment
      else s).crossingGrants.get key).map (·.provisioned)) = s.roll.provisioned := by
    funext key
    split
    · exact decrementGrantAt_provisioned key
    · rfl
  have crossings := contains_insert q.crossing s.consumedCrossings
  rw [crossed_eq]
  by_cases bypassed : d = .monitorBypassed
  · have demotes := congrArg Roll.pending (demoteAllOf_roll (s := s) (a := q.rcv))
    simp only [Roll.record, bypassed, if_true]
    apply Roll.ext <;> try rfl
    · exact provisioned
    · exact demotes
    · exact crossings
  · simp only [Roll.record, bypassed, if_false]
    apply Roll.ext <;> try rfl
    · exact provisioned
    · exact crossings

theorem roll_step {c : KernelCommand} (accepted : (kernel bg).step s c = .ok (s', r)) :
    s'.roll = s.roll.record bg.mode r := by
  cases c with
  | registerTool tool =>
    obtain ⟨-, rfl, rfl⟩ := registerTool_ok.mp accepted
    exact congrArg (fun tools => { s.roll with tools := tools }) (contains_insert tool s.toolRegistered)
  | unregisterTool tool =>
    obtain ⟨-, -, -, rfl, rfl⟩ := unregisterTool_ok.mp accepted
    exact congrArg (fun tools => { s.roll with tools := tools }) (contains_remove tool s.toolRegistered)
  | delegate grantor grantee =>
    obtain ⟨-, -, -, childless, rfl, rfl⟩ := delegate_ok.mp accepted
    exact enroll_roll bg.mode childless
  | grantCapability parent child cap =>
    obtain ⟨-, -, -, -, rfl, rfl⟩ := grantCapability_ok.mp accepted
    have caps : (s.agentCap.insertInto child cap).setContains =
        Function.update s.roll.caps child (Function.update (s.roll.caps child) cap true) := by
      funext b other
      rw [Bool.eq_iff_iff]
      by_cases holder : b = child <;> by_cases same : other = cap <;>
        simp [KernelState.roll, holder, same]
    exact congrArg (fun caps => { s.roll with caps := caps }) caps
  | grantCrossing grantor agent assignment n =>
    obtain ⟨-, -, -, rfl, rfl⟩ := grantCrossing_ok.mp accepted
    have provisioned : (fun key => ((s.crossingGrants.insert ⟨agent, assignment⟩ ⟨n, n⟩).get key).map
        (·.provisioned)) = Function.update s.roll.provisioned ⟨agent, assignment⟩ (some n) := by
      funext key
      by_cases same : key = ⟨agent, assignment⟩ <;> simp [KernelState.roll, same]
    exact congrArg (fun provisioned => { s.roll with provisioned := provisioned }) provisioned
  | revoke parent target =>
    obtain ⟨-, -, -, -, rfl, rfl⟩ := revoke_ok.mp accepted
    exact clearAgent_roll
  | cascadeRevoke child parent =>
    obtain ⟨-, -, -, -, rfl, rfl⟩ := cascadeRevoke_ok.mp accepted
    exact clearAgent_roll
  | ingest a src l li =>
    obtain ⟨-, -, d, -, rfl, rfl⟩ := ingest_ok.mp accepted
    exact absorb_roll
  | settleInvocation inv outcome att =>
    obtain ⟨j, present, -, -, -, rfl, rfl⟩ := settleInvocation_ok.mp accepted
    rw [settled_roll, settleAt_roll present]
    rfl
  | beginInvocation a inv chal snap egr ah authorized =>
    obtain ⟨-, effect, rfl⟩ := beginInvocation_ok.mp accepted
    generalize beginVerdict s bg a snap egr authorized = verdict at effect
    generalize bg.mode = mode at effect
    cases effect with
    | permit => exact pend_roll
    | inspect => exact challenge_roll
    | bypass _ gated =>
      cases verdict with
      | allow => exact absurd rfl gated
      | inspectionRequired => exact pend_roll
      | deny => exact pend_roll
  | authorizeInspected inv att =>
    obtain ⟨sc, opened, -, -, rfl, rfl⟩ := authorizeInspected_ok.mp accepted
    exact resolve_roll bg.mode opened
  | crossOutput q =>
    obtain ⟨-, -, -, -, -, d, -, rfl, rfl⟩ := crossOutput_ok.mp accepted
    exact crossed_roll bg.mode

theorem roll_sourced (bg : BackgroundTheory) :
    (kernel bg).Sourced KernelState.roll (Roll.record bg.mode) :=
  fun _ _ _ _ => roll_step

/-- The log of accepted actions tells the whole roll, under any ceilings and any root: it is what an
    auditor computes from the log alone, and equal logs leave equal rolls. -/
theorem log_tells_roll {bg bg' : BackgroundTheory} (mode : bg.mode = bg'.mode) :
    (∀ history s, (kernel bg).Run history s →
      s.roll = (history.map Prod.snd).foldl (Roll.record bg.mode) KernelState.initial.roll) ∧
    ∀ history s, (kernel bg).Run history s → ∀ history' s', (kernel bg').Run history' s' →
      history.map Prod.snd = history'.map Prod.snd → s.roll = s'.roll := by
  refine ⟨fun history s run => (roll_sourced bg).run run, fun history s run history' s' run' records => ?_⟩
  have sourced' := roll_sourced bg'
  rw [← mode] at sourced'
  exact (roll_sourced bg).alike sourced' rfl run run' records

/-- The sample background with a further channel and another root. -/
def laxBackground : BackgroundTheory :=
  (sampleBackground.setEgressCeilings .ipc (some .restricted) none).setRootAgent ⟨"operator"⟩

/-- The auditor finds the second call quarantined under its inspection and the third one waiting, and a
    background with other ceilings and the same log leaves the same roll. -/
theorem log_tells_roll_sample :
    workedState.roll = workedActions.foldl (Roll.record .enforce) KernelState.initial.roll ∧
    workedState.roll.pending ⟨"second"⟩ =
      some ⟨⟨"worker"⟩, ⟨"mailer"⟩, .inspected ⟨"look"⟩, .permitted, true, true⟩ ∧
    workedState.roll.challenges ⟨"third"⟩ = some ⟨⟨"worker"⟩, ⟨"mailer"⟩, .plain, .blocked, true, false⟩ ∧
    workedState.roll = ((kernel laxBackground).drive KernelState.initial workedCommands).1.roll := by
  have all : ((kernel laxBackground).drive KernelState.initial workedCommands).2.length =
      workedCommands.length := by decide
  have same : (workedCommands.zip workedActions).map Prod.snd = (workedCommands.zip
      ((kernel laxBackground).drive KernelState.initial workedCommands).2).map Prod.snd := by decide
  obtain ⟨told, alike⟩ := @log_tells_roll sampleBackground laxBackground rfl
  exact ⟨told _ _ worked_run, by decide, by decide,
    alike _ _ worked_run _ _ (Machine.Run.start.drive_all all) same⟩

end Argus
