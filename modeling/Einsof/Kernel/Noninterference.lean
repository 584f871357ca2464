import Einsof.Base.Unwinding
import Einsof.Kernel.Reading

namespace Argus

open Fallible (Alike)

variable {L : LabelView} {P : Party} {bg : BackgroundTheory} {s s' t : KernelState} {a b grantor : AgentId}
  {inv : InvocationId}

section Steps

/-- Read alike by the party, and answered with the same action. -/
def SeenOutcome (L : LabelView) (P : Party) (x y : KernelState × KernelAction) : Prop :=
  Seen L P x.1 y.1 ∧ x.2 = y.2

variable (seen : Seen L P s t) (here : Separated P bg s) (there : Separated P bg t)

include seen

theorem registerTool_seen {tool : ToolId} (own : P.tools tool = true) :
    Alike (SeenOutcome L P) (registerTool s tool) (registerTool t tool) := by
  have known := seen.tools tool (P.owned tool own)
  exact .refuse (by simpa using known) fun _ => .ok ⟨registered_seen seen tool, rfl⟩

include here there

theorem unregisterTool_seen {tool : ToolId} (own : P.tools tool = true) :
    Alike (SeenOutcome L P) (unregisterTool s tool) (unregisterTool t tool) := by
  have known := seen.tools tool (P.owned tool own)
  exact .refuse (by simpa using not_congr known) fun _ =>
    .refuse (by rw [toolInUse_seen seen here there own]) fun _ => .ok ⟨unregistered_seen seen tool, rfl⟩

theorem delegate_seen {grantee : AgentId} (above : P.above grantor = true)
    (own : P.agents grantee = true) :
    Alike (SeenOutcome L P) (delegate s bg grantor grantee) (delegate t bg grantor grantee) := by
  have grantors := active_seen seen here there above
  have grantees := seen.active grantee own
  refine .refuse (by simpa using not_congr grantors) fun _ => .refuse (by simpa using grantees) fun fresh =>
    .refuse Iff.rfl fun _ => ?_
  have notRoot : grantee ≠ AgentId.root := by
    intro same
    rw [VecSet.contains_iff, same] at fresh
    exact fresh here.forest.rooted
  exact .refuse (by rw [isParent_seen seen here there own notRoot]) fun _ => .ok ⟨enroll_seen seen, rfl⟩

theorem grantCapability_seen {parent child : AgentId} (above : P.above parent = true)
    (own : P.agents child = true) (cap : CapKind) :
    Alike (SeenOutcome L P) (grantCapability s parent child cap) (grantCapability t parent child cap) := by
  have parents := active_seen seen here there above
  have children := seen.active child own
  have edges : parentOk s child parent = true ↔ parentOk t child parent = true := by
    rw [parentOk_iff, parentOk_iff, seen.parent child own]
  have held : s.agentCap.setContains parent cap = true ↔ t.agentCap.setContains parent cap = true := by
    rw [VecMap.setContains_iff, VecMap.setContains_iff]
    exact hasCap_seen seen here there above cap
  exact .refuse (by simpa using not_congr parents) fun _ =>
    .refuse (by simpa using not_congr children) fun _ => .refuse (not_congr edges) fun _ =>
    .refuse (not_congr held) fun _ => .ok ⟨endow_seen seen cap, rfl⟩

theorem grantCrossing_seen (own : P.agents a = true) (assignment : AssignmentDigest) (n : UInt32) :
    Alike (SeenOutcome L P) (grantCrossing s bg grantor a assignment n)
      (grantCrossing t bg grantor a assignment n) := by
  refine .refuse Iff.rfl fun operator => ?_
  have same : grantor = bg.rootAgent := by simpa using operator
  have grantors : grantor ∈ s.agentActive ↔ grantor ∈ t.agentActive := by
    rw [same, here.forest.operator, there.forest.operator]
  have holders := seen.active a own
  exact .refuse (by simpa using not_congr grantors) fun _ => .refuse (by simpa using not_congr holders) fun _ =>
    .ok ⟨granted_seen seen _ _, rfl⟩

/-- The parent that an edge of the party names is its own, or `root`. -/
theorem parentOk_seen {child : AgentId} (parent : AgentId) (own : P.agents child = true) :
    (parentOk s child parent = true ↔ parentOk t child parent = true) ∧
      (parentOk s child parent = true → (parent ∈ s.agentActive ↔ parent ∈ t.agentActive)) := by
  rw [parentOk_iff, parentOk_iff, seen.parent child own]
  refine ⟨Iff.rfl, fun edge => active_seen seen here there (Party.above_iff.mpr ?_)⟩
  rcases there.edges child parent edge with root | side
  · exact .inr root
  · exact .inl (side.trans own)

theorem revoke_seen {parent target : AgentId} (own : P.agents target = true) :
    Alike (SeenOutcome L P) (revoke s bg parent target) (revoke t bg parent target) := by
  obtain ⟨edges, parents⟩ := parentOk_seen seen here there parent own
  have targets := seen.active target own
  refine .refuse (not_congr edges) fun linked => ?_
  have known := parents (not_not.mp linked)
  exact .refuse (by simpa using not_congr known) fun _ => .refuse (by simpa using not_congr targets) fun _ =>
    .refuse Iff.rfl fun _ => .ok ⟨clearAgent_seen seen, rfl⟩

theorem cascadeRevoke_seen {child parent : AgentId} (own : P.agents child = true) :
    Alike (SeenOutcome L P) (cascadeRevoke s bg child parent) (cascadeRevoke t bg child parent) := by
  obtain ⟨edges, parents⟩ := parentOk_seen seen here there parent own
  have children := seen.active child own
  refine .refuse (not_congr edges) fun linked => ?_
  have known := parents (not_not.mp linked)
  exact .refuse (by simpa using known) fun _ => .refuse (by simpa using not_congr children) fun _ =>
    .refuse Iff.rfl fun _ => .ok ⟨clearAgent_seen seen, rfl⟩

theorem ingest_seen {src : Option AgentId} (own : P.agents a = true)
    (source : ∀ b, src = some b → P.agents b = true) (l : ConfLevel) (li : IntegLevel) :
    Alike (SeenOutcome L P) (ingest s bg a src l li) (ingest t bg a src l li) := by
  have active := seen.active a own
  refine .refuse (by simpa using not_congr active) fun _ =>
    .refuse (by rw [dominated_seen seen source]) fun _ => ?_
  rw [ingestHolds_seen seen here there own]
  cases holdDisposition bg (ingestHolds t bg a l li) with
  | none => exact .error _
  | some d => exact .ok ⟨absorb_seen seen l li d, rfl⟩

omit there in
theorem settleInvocation_seen (own : P.invocations inv = true) (outcome : Outcome)
    {att : Option ResolutionAttestation} (named : ∀ x, att = some x → P.attestations x.id = true) :
    Alike (SeenOutcome L P) (settleInvocation s inv outcome att) (settleInvocation t inv outcome att) := by
  unfold settleInvocation
  rw [VecMap.getCloned_eq_get, VecMap.getCloned_eq_get, ← seen.pending inv own]
  cases present : s.pending.get inv with
  | none => exact .error _
  | some j =>
    have active := seen.active j.agent ((here.agent_of_pending present).symm.trans own)
    have valid : resolutionValid s inv outcome att = resolutionValid t inv outcome att := by
      rw [Bool.eq_iff_iff, resolutionValid_iff, resolutionValid_iff]
      refine exists_congr fun x => and_congr_right fun same => ?_
      rw [seen.attestations _ (named x same)]
    refine .refuse (by simpa using not_congr active) fun _ => .refuse Iff.rfl fun _ => ?_
    rw [settleRefusal, settleRefusal, valid]
    generalize (if j.quarantined = true then _ else _ : Option KernelError) = refusal
    cases refusal with
    | some e => exact .error e
    | none => exact .ok ⟨settled_seen seen inv outcome att j, rfl⟩

theorem beginInvocation_seen (own : P.agents a = true) (mine : P.invocations inv = true)
    {snap : ActionPolicySnapshot} (uses : P.uses snap.tool = true) (chal : ChallengeId)
    (egr : VecSet EgressKind) (ah : ContentHash) (authorized : Bool) :
    Alike (SeenOutcome L P) (beginInvocation s bg a inv chal snap egr ah authorized)
      (beginInvocation t bg a inv chal snap egr ah authorized) := by
  unfold beginInvocation
  rw [beginRefusal_seen seen own mine uses, beginVerdict_seen seen here there own,
    denyReason_seen seen here there own]
  cases beginRefusal t bg a inv snap egr with
  | some e => exact .error e
  | none =>
    cases beginVerdict t bg a snap egr authorized with
    | allow => exact .ok ⟨pend_seen seen inv _, rfl⟩
    | inspectionRequired =>
      cases bg.mode with
      | enforce => exact .ok ⟨challenge_seen seen inv _, rfl⟩
      | monitor => exact .ok ⟨pend_seen seen inv _, rfl⟩
    | deny =>
      cases bg.mode with
      | enforce => exact .error _
      | monitor => exact .ok ⟨pend_seen seen inv _, rfl⟩

theorem authorizeInspected_seen (own : P.invocations inv = true) {att : InspectionAttestation}
    (named : P.attestations att.id = true) :
    Alike (SeenOutcome L P) (authorizeInspected s bg inv att) (authorizeInspected t bg inv att) := by
  have fresh := seen.attestations att.id named
  unfold authorizeInspected
  rw [VecMap.getCloned_eq_get, VecMap.getCloned_eq_get, ← seen.challenges inv own]
  cases present : s.challenges.get inv with
  | none => exact .error _
  | some sc =>
    refine .refuse Iff.rfl fun _ => .refuse (by simpa using fresh) fun _ => ?_
    rw [authorizeAdmits_seen seen here there present own]
    exact .ok ⟨resolve_seen seen inv sc att.id _, rfl⟩

theorem crossOutput_seen {q : CrossInput} (source : P.agents q.src = true) (own : P.agents q.rcv = true)
    (crossing : P.crossings q.crossing = true)
    (evidence : ∀ e, q.evidence = some e → P.attestations e.id = true) :
    Alike (SeenOutcome L P) (crossOutput s bg q) (crossOutput t bg q) := by
  have sources := seen.active q.src source
  have receivers := seen.active q.rcv own
  have fresh := seen.crossings q.crossing crossing
  unfold crossOutput
  rw [inFlight_seen seen here there source, crossBranch_seen seen own evidence, crossBound_seen seen source]
  refine .refuse (by simpa using not_congr sources) fun _ => .refuse (by simpa using not_congr receivers) fun _ =>
    .refuse Iff.rfl fun _ => .refuse (by simpa using fresh) fun _ => .refuse Iff.rfl fun _ => ?_
  rw [crossHolds_seen seen here there source own]
  cases holdDisposition bg (crossHolds t bg q (crossBranch t q)) with
  | none => exact .error _
  | some d => exact .ok ⟨crossed_seen seen source _ d, rfl⟩

/-- A command of the party is answered from what the party sees, and changes that alike. -/
theorem KernelCommand.apply_seen {c : KernelCommand} (own : P.within c = true) :
    Alike (SeenOutcome L P) (c.apply bg s) (c.apply bg t) := by
  cases c <;> simp only [Party.within, Bool.and_eq_true, Option.all_eq_true] at own
  case registerTool tool => exact registerTool_seen seen own
  case unregisterTool tool => exact unregisterTool_seen seen here there own
  case delegate grantor grantee => exact delegate_seen seen here there own.1 own.2
  case grantCapability parent child cap => exact grantCapability_seen seen here there own.1 own.2 cap
  case grantCrossing grantor agent assignment n => exact grantCrossing_seen seen here there own assignment n
  case revoke parent target => exact revoke_seen seen here there own
  case cascadeRevoke child parent => exact cascadeRevoke_seen seen here there own
  case ingest a src l li => exact ingest_seen seen here there own.1 own.2 l li
  case settleInvocation inv outcome att => exact settleInvocation_seen seen here own.1 outcome own.2
  case beginInvocation a inv chal snap egr ah authorized =>
    exact beginInvocation_seen seen here there own.1.1 own.1.2 own.2 chal egr ah authorized
  case authorizeInspected inv att => exact authorizeInspected_seen seen here there own.1 own.2
  case crossOutput q =>
    exact crossOutput_seen seen here there own.1.1.1 own.1.1.2 own.1.2 own.2

end Steps

section Hidden

variable {c : KernelCommand} {r : KernelAction}

theorem ne_of_sides {α : Type} {f : α → Bool} {x y : α} (own : f x = true) (foreign : f y = false) : x ≠ y := by
  intro same
  rw [same, foreign] at own
  cases own

theorem subject_foreign (before : Separated P bg s) (foreign : P.rest.within c = true)
    (own : P.agents b = true) : c.subject s ≠ some b := by
  intro subject
  cases c <;> simp only [Party.within, Party.rest, Bool.and_eq_true, Bool.not_eq_true', Option.all_eq_true,
    KernelCommand.subject, Option.some.injEq, Option.map_eq_some_iff, reduceCtorEq] at foreign subject
  case delegate => exact ne_of_sides own foreign.2 subject.symm
  case grantCapability => exact ne_of_sides own foreign.2 subject.symm
  case grantCrossing => exact ne_of_sides own foreign subject.symm
  case revoke => exact ne_of_sides own foreign subject.symm
  case cascadeRevoke => exact ne_of_sides own foreign subject.symm
  case ingest => exact ne_of_sides own foreign.1 subject.symm
  case settleInvocation =>
    obtain ⟨j, present, rfl⟩ := subject
    exact ne_of_sides own ((before.agent_of_pending present).symm.trans foreign.1) rfl
  case beginInvocation => exact ne_of_sides own foreign.1.1 subject.symm
  case authorizeInspected =>
    obtain ⟨sc, present, rfl⟩ := subject
    exact ne_of_sides own ((before.agent_of_challenge present).symm.trans foreign.1) rfl
  case crossOutput => exact ne_of_sides own foreign.1.1.2 subject.symm

/-- The names a foreign command consumes, and the tools it registers, are foreign. -/
structure LedgersHidden (P : Party) (s s' : KernelState) : Prop where
  consumedIds : ∀ i, P.invocations i = true → (i ∈ s'.consumedIds ↔ i ∈ s.consumedIds)
  attestations : ∀ x, P.attestations x = true → (x ∈ s'.consumedAttestations ↔ x ∈ s.consumedAttestations)
  crossings : ∀ x, P.crossings x = true → (x ∈ s'.consumedCrossings ↔ x ∈ s.consumedCrossings)
  tools : ∀ tool, P.uses tool = true → (tool ∈ s'.toolRegistered ↔ tool ∈ s.toolRegistered)

theorem LedgersHidden.still (ids : s'.consumedIds = s.consumedIds)
    (attestations : s'.consumedAttestations = s.consumedAttestations)
    (crossings : s'.consumedCrossings = s.consumedCrossings)
    (tools : s'.toolRegistered = s.toolRegistered) : LedgersHidden P s s' := by
  constructor <;> simp [ids, attestations, crossings, tools]

theorem ledgers_foreign (foreign : P.rest.within c = true)
    (accepted : (kernel bg).step s c = .ok (s', r)) : LedgersHidden P s s' := by
  cases c <;> simp only [Party.within, Party.rest, Bool.and_eq_true, Bool.not_eq_true',
    Option.all_eq_true] at foreign
  case registerTool tool =>
    obtain ⟨-, rfl, -⟩ := registerTool_ok.mp accepted
    refine ⟨fun _ _ => .rfl, fun _ _ => .rfl, fun _ _ => .rfl, fun other own => ?_⟩
    simp [ne_of_sides own foreign]
  case unregisterTool tool =>
    obtain ⟨-, -, -, rfl, -⟩ := unregisterTool_ok.mp accepted
    refine ⟨fun _ _ => .rfl, fun _ _ => .rfl, fun _ _ => .rfl, fun other own => ?_⟩
    simp [ne_of_sides own foreign]
  case delegate grantor grantee =>
    obtain ⟨-, -, -, -, rfl, -⟩ := delegate_ok.mp accepted
    exact .still rfl rfl rfl rfl
  case grantCapability parent child cap =>
    obtain ⟨-, -, -, -, rfl, -⟩ := grantCapability_ok.mp accepted
    exact .still rfl rfl rfl rfl
  case grantCrossing grantor agent assignment n =>
    obtain ⟨-, -, -, rfl, -⟩ := grantCrossing_ok.mp accepted
    exact .still rfl rfl rfl rfl
  case revoke parent target =>
    obtain ⟨-, -, -, -, rfl, -⟩ := revoke_ok.mp accepted
    exact .still rfl rfl rfl rfl
  case cascadeRevoke child parent =>
    obtain ⟨-, -, -, -, rfl, -⟩ := cascadeRevoke_ok.mp accepted
    exact .still rfl rfl rfl rfl
  case ingest a src l li =>
    obtain ⟨-, -, d, -, rfl, -⟩ := ingest_ok.mp accepted
    rw [absorb_eq]
    exact .still rfl rfl rfl rfl
  case settleInvocation inv outcome att =>
    obtain ⟨j, -, -, -, -, rfl, -⟩ := settleInvocation_ok.mp accepted
    have attestations : ∀ x, P.attestations x = true →
        (x ∈ (settled s inv outcome att j).consumedAttestations ↔ x ∈ s.consumedAttestations) := by
      intro x own
      rw [settled_consumedAttestations, or_iff_left]
      intro spent
      obtain ⟨y, named, same⟩ := spent
      exact ne_of_sides own (foreign.2 y named) same
    rw [settled_eq] at attestations ⊢
    exact ⟨fun _ _ => .rfl, attestations, fun _ _ => .rfl, fun _ _ => .rfl⟩
  case beginInvocation a inv chal snap egr ah authorized =>
    obtain ⟨-, effect, -⟩ := beginInvocation_ok.mp accepted
    rw [effect.frame]
    refine ⟨fun i own => ?_, fun _ _ => .rfl, fun _ _ => .rfl, fun _ _ => .rfl⟩
    simp [ne_of_sides own foreign.1.2]
  case authorizeInspected inv att =>
    obtain ⟨sc, -, -, -, rfl, -⟩ := authorizeInspected_ok.mp accepted
    refine ⟨fun _ _ => .rfl, fun x own => ?_, fun _ _ => .rfl, fun _ _ => .rfl⟩
    simp [resolve, ne_of_sides own foreign.2]
  case crossOutput q =>
    obtain ⟨-, -, -, -, -, d, -, rfl, -⟩ := crossOutput_ok.mp accepted
    have attestations : ∀ x, P.attestations x = true →
        (x ∈ (crossed s q (crossBranch s q) d).consumedAttestations ↔ x ∈ s.consumedAttestations) := by
      intro x own
      rw [crossed_consumedAttestations, or_iff_left]
      intro spent
      obtain ⟨_, e, named, same⟩ := spent
      exact ne_of_sides own (foreign.2 e named) same
    rw [crossed_eq] at attestations ⊢
    refine ⟨fun _ _ => .rfl, attestations, fun x own => ?_, fun _ _ => .rfl⟩
    simp [ne_of_sides own foreign.1.2]

/-- No foreign command changes what the party sees. -/
theorem seen_foreign (L : LabelView) (before : Separated P bg s) (foreign : P.rest.within c = true)
    (accepted : (kernel bg).step s c = .ok (s', r)) : Seen L P s' s := by
  have after := before.step (Party.Sorted.fits (.inr foreign)) accepted
  have kept : ∀ b, P.agents b = true → s'.compartment b = s.compartment b :=
    fun b own => compartment_step accepted (subject_foreign before foreign own)
  have hidden := ledgers_foreign foreign accepted
  refine
    { active := fun b own => ?_
      parent := fun b own => congrArg Compartment.parent (kept b own)
      caps := fun b own cap => ?_
      taints := fun b own => ?_
      integs := fun b own => ?_
      pending := fun i own => ?_
      challenges := fun i own => ?_
      consumedIds := hidden.consumedIds
      attestations := hidden.attestations
      crossings := hidden.crossings
      grants := fun key own => congrFun (congrArg Compartment.grants (kept key.agent own)) key.assignment
      tools := hidden.tools }
  · have same := congrArg Compartment.active (kept b own)
    rwa [Bool.eq_iff_iff, KernelState.compartment, KernelState.compartment, VecSet.contains_iff,
      VecSet.contains_iff] at same
  · have same : s'.agentCap.get b = s.agentCap.get b := congrArg Compartment.caps (kept b own)
    rw [KernelState.HasCap, KernelState.HasCap, VecMap.mem_getSetOrEmpty, VecMap.mem_getSetOrEmpty, same]
  · have same : s'.taintLevels.get b = s.taintLevels.get b := congrArg Compartment.taints (kept b own)
    simp only [KernelState.Taints, VecMap.mem_getSetOrEmpty, same]
    exact .refl _ _
  · have same : s'.integLevels.get b = s.integLevels.get b := congrArg Compartment.integs (kept b own)
    simp only [KernelState.Integs, VecMap.mem_getSetOrEmpty, same]
    exact .refl _ _
  · -- a record of the party's lies in the compartment of an owner of the party's, before and after
    have owned : ∀ {u v : KernelState} {j}, Separated P bg u → u.pending.get i = some j →
        (P.agents j.agent = true → u.compartment j.agent = v.compartment j.agent) →
        v.pending.get i = some j := by
      intro u v j separated present same
      have own := (separated.agent_of_pending present).symm.trans own
      have held := compartment_pending.mpr ⟨present, rfl⟩
      rw [same own] at held
      exact (compartment_pending.mp held).1
    refine Option.ext fun j => ⟨fun present => ?_, fun present => ?_⟩
    · exact owned after present fun own => kept _ own
    · exact owned before present fun own => (kept _ own).symm
  · have owned : ∀ {u v : KernelState} {sc}, Separated P bg u → u.challenges.get i = some sc →
        (P.agents sc.agent = true → u.compartment sc.agent = v.compartment sc.agent) →
        v.challenges.get i = some sc := by
      intro u v sc separated present same
      have own := (separated.agent_of_challenge present).symm.trans own
      have held : (u.compartment sc.agent).challenges i = some sc := by
        simp [KernelState.compartment, present]
      rw [same own, KernelState.compartment, Option.filter_eq_some_iff] at held
      exact held.1
    refine Option.ext fun sc => ⟨fun present => ?_, fun present => ?_⟩
    · exact owned after present fun own => kept _ own
    · exact owned before present fun own => (kept _ own).symm

end Hidden

/-- The kernel unwinds for every party and every view of labels. -/
theorem kernel_unwinding (L : LabelView) (P : Party) (bg : BackgroundTheory) :
    (kernel bg).Unwinding (Separated P bg) (Seen L P) (P.within · = true) (P.rest.within · = true) where
  keep before sorted accepted := before.step (Party.Sorted.fits sorted) accepted
  agree here there seen own := KernelCommand.apply_seen seen here there own
  hide before seen foreign accepted := (seen_foreign L before foreign accepted).trans seen

section Runs

variable {history : List (KernelCommand × KernelAction)} {cs ds : List KernelCommand}

/-- Noninterference: a party is answered, and finds its own names, as if no one else had commanded. -/
theorem noninterference (P : Party) (run : (kernel bg).Run history s)
    (fits : ∀ entry ∈ history, P.Fits entry.1) (sorted : ∀ c ∈ cs, P.Sorted c) :
    ((kernel bg).responds s cs).2.filter (P.within ·.1) =
        ((kernel bg).responds s (cs.filter P.within)).2 ∧
      Seen .exact P ((kernel bg).responds s cs).1 ((kernel bg).responds s (cs.filter P.within)).1 := by
  have before := Separated.run run fits
  exact (kernel_unwinding .exact P bg).purge sorted before before (.refl _ _ _)

/-- The order in which the commands of two sides reach the kernel changes no answer on either side, and
    nothing that can be read of the state. -/
theorem interleavings_alike (P : Party) (run : (kernel bg).Run history s)
    (fits : ∀ entry ∈ history, P.Fits entry.1) (sorted : ∀ c ∈ cs, P.Sorted c)
    (sorted' : ∀ d ∈ ds, P.Sorted d) (own : cs.filter P.within = ds.filter P.within)
    (foreign : cs.filter P.rest.within = ds.filter P.rest.within) :
    ((kernel bg).responds s cs).2.filter (P.within ·.1) =
        ((kernel bg).responds s ds).2.filter (P.within ·.1) ∧
      ((kernel bg).responds s cs).2.filter (P.rest.within ·.1) =
        ((kernel bg).responds s ds).2.filter (P.rest.within ·.1) ∧
      Seen .exact .everyone ((kernel bg).responds s cs).1 ((kernel bg).responds s ds).1 := by
  have before := Separated.run run fits
  have swap : ∀ {c}, P.Sorted c → P.rest.within c = true ∨ P.rest.rest.within c = true := by
    intro c side
    rw [Party.rest_rest]
    exact side.symm
  obtain ⟨answers, view⟩ := (kernel_unwinding .exact P bg).interleave .symm .trans sorted sorted' own
    before before (.refl _ _ _)
  obtain ⟨answers', view'⟩ := (kernel_unwinding .exact P.rest bg).interleave .symm .trans
    (fun c member => swap (sorted c member)) (fun d member => swap (sorted' d member)) foreign
    before.rest before.rest (.refl _ _ _)
  exact ⟨answers, answers', view.everyone view'⟩

/-- Of the labels an agent holds only the marks count: kernels that agree on the highest confidentiality
    and the lowest integrity of each agent answer every list of commands alike. -/
theorem marks_suffice (reach : (kernel bg).Reachable s) (reach' : (kernel bg).Reachable t)
    (alike : Seen .marks .everyone s t) (cs : List KernelCommand) :
    ((kernel bg).responds s cs).2 = ((kernel bg).responds t cs).2 ∧
      Seen .marks .everyone ((kernel bg).responds s cs).1 ((kernel bg).responds t cs).1 := by
  have all : ∀ u : KernelState, ((kernel bg).responds u cs).2.filter (Party.everyone.within ·.1) =
      ((kernel bg).responds u cs).2 :=
    fun u => List.filter_eq_self.mpr fun _ _ => Party.within_everyone _
  have sorted : ∀ c ∈ cs, Party.everyone.Sorted c := fun c _ => .inl (Party.within_everyone c)
  obtain ⟨answers, view⟩ := (kernel_unwinding .marks .everyone bg).interleave .symm .trans sorted sorted rfl
    (.everyone reach) (.everyone reach') alike
  rw [all, all] at answers
  exact ⟨answers, view⟩

/-- What an agent already holds something above, and something below, it may take in unnoticed. -/
theorem absorb_marks {l : ConfLevel} {li : IntegLevel} (above : ∃ k, s.Taints a k ∧ l ≤ k)
    (below : ∃ k, s.Integs a k ∧ k ≤ li) : Seen .marks P (absorb s a l li .permitted) s := by
  have taints : ∀ b, P.agents b = true → TestedAlike LabelView.marks.conf
      {k | (absorb s a l li .permitted).Taints b k} {k | s.Taints b k} := by
    intro b _
    refine (TestedAlike.lower_iff ConfLevel.le_refl ConfLevel.le_trans).mpr fun k => ?_
    simp only [absorb_taints]
    constructor
    · rintro ⟨x, held | ⟨rfl, rfl⟩, under⟩
      · exact ⟨x, held, under⟩
      · exact above.imp fun _ held => ⟨held.1, ConfLevel.le_trans under held.2⟩
    · intro facts
      obtain ⟨x, held, under⟩ := facts
      exact ⟨x, .inl held, under⟩
  have integs : ∀ b, P.agents b = true → TestedAlike LabelView.marks.integ
      {k | (absorb s a l li .permitted).Integs b k} {k | s.Integs b k} := by
    intro b _
    refine (TestedAlike.upper_iff IntegLevel.le_refl IntegLevel.le_trans).mpr fun k => ?_
    simp only [absorb_integs]
    constructor
    · rintro ⟨x, held | ⟨rfl, rfl⟩, upper⟩
      · exact ⟨x, held, upper⟩
      · exact below.imp fun _ held => ⟨held.1, IntegLevel.le_trans held.2 upper⟩
    · intro facts
      obtain ⟨x, held, upper⟩ := facts
      exact ⟨x, .inl held, upper⟩
  rw [absorb_eq] at taints integs ⊢
  exact { Seen.refl .marks P s with taints := taints, integs := integs }

/-- The worker and its call on one side; the mailer is shared. -/
def workerParty : Party where
  agents a := a = ⟨"worker"⟩
  tools _ := false
  uses _ := true
  invocations i := i = ⟨"call"⟩
  attestations _ := false
  crossings _ := false
  owned _ := nofun

def sharedHistory : List (KernelCommand × KernelAction) :=
  [(.registerTool ⟨"mailer"⟩, .registerTool ⟨"mailer"⟩)]

def sharedState : KernelState :=
  { KernelState.initial with toolRegistered := VecSet.new.insert ⟨"mailer"⟩ }

theorem sharedState_run : (kernel sampleBackground).Run sharedHistory sharedState :=
  .step .start (by decide)

theorem sharedHistory_fits : ∀ entry ∈ sharedHistory, workerParty.Fits entry.1 := by
  intro entry member
  rw [List.mem_singleton.mp member]
  trivial

def workerCommands : List KernelCommand :=
  [.delegate AgentId.root ⟨"worker"⟩, .grantCapability AgentId.root ⟨"worker"⟩ .networkEgress,
    .ingest ⟨"worker"⟩ none .«internal» .trusted,
    .beginInvocation ⟨"worker"⟩ ⟨"call"⟩ ⟨"challenge"⟩ sampleSnapshot
      (VecSet.fromIter [.networkExternal]) ⟨"args"⟩ true]

def helperCommands : List KernelCommand :=
  [.delegate AgentId.root ⟨"helper"⟩, .ingest ⟨"helper"⟩ none .restricted .untrusted,
    .beginInvocation ⟨"helper"⟩ ⟨"errand"⟩ ⟨"challenge"⟩ sampleSnapshot
      (VecSet.fromIter [.networkExternal]) ⟨"args"⟩ true]

/-- The helper's refused begin and its restricted data leave the worker's call permitted. -/
theorem noninterference_sample :
    ((kernel sampleBackground).responds sharedState (helperCommands ++ workerCommands)).2.filter
        (workerParty.within ·.1) =
      ((kernel sampleBackground).responds sharedState
        ((helperCommands ++ workerCommands).filter workerParty.within)).2 ∧
    Seen .exact workerParty
      ((kernel sampleBackground).responds sharedState (helperCommands ++ workerCommands)).1
      ((kernel sampleBackground).responds sharedState
        ((helperCommands ++ workerCommands).filter workerParty.within)).1 :=
  noninterference workerParty sharedState_run sharedHistory_fits (by decide)

theorem interleavings_alike_sample :
    ((kernel sampleBackground).responds sharedState (helperCommands ++ workerCommands)).2.filter
        (workerParty.within ·.1) =
      ((kernel sampleBackground).responds sharedState (workerCommands ++ helperCommands)).2.filter
        (workerParty.within ·.1) ∧
    ((kernel sampleBackground).responds sharedState (helperCommands ++ workerCommands)).2.filter
        (workerParty.rest.within ·.1) =
      ((kernel sampleBackground).responds sharedState (workerCommands ++ helperCommands)).2.filter
        (workerParty.rest.within ·.1) ∧
    Seen .exact .everyone
      ((kernel sampleBackground).responds sharedState (helperCommands ++ workerCommands)).1
      ((kernel sampleBackground).responds sharedState (workerCommands ++ helperCommands)).1 :=
  interleavings_alike workerParty sharedState_run sharedHistory_fits (by decide) (by decide) (by decide)
    (by decide)

/-- Public data taken in again by the worker, which holds internal data, changes no later answer. -/
theorem marks_suffice_sample :
    ((kernel sampleBackground).responds (absorb sampleState ⟨"worker"⟩ .«public» .trusted .permitted)
        helperCommands).2 =
      ((kernel sampleBackground).responds sampleState helperCommands).2 ∧
    Seen .marks .everyone
      ((kernel sampleBackground).responds (absorb sampleState ⟨"worker"⟩ .«public» .trusted .permitted)
        helperCommands).1
      ((kernel sampleBackground).responds sampleState helperCommands).1 := by
  have reach : (kernel sampleBackground).Reachable sampleState :=
    Machine.drive_reachable (kernel sampleBackground) sampleCommands
  have accepted : (kernel sampleBackground).step sampleState (.ingest ⟨"worker"⟩ none .«public» .trusted) =
      .ok (absorb sampleState ⟨"worker"⟩ .«public» .trusted .permitted,
        .ingest ⟨"worker"⟩ none .«public» .trusted .permitted) := by decide
  exact marks_suffice (reach.step accepted) reach
    (absorb_marks ⟨.«internal», by decide, by decide⟩ ⟨.trusted, by decide, by decide⟩) helperCommands

end Runs

end Argus
