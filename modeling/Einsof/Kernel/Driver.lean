import Mathlib.Data.List.Forall2
import Mathlib.Data.UInt
import Einsof.Base.Journal
import Einsof.Kernel.Declassification

namespace Argus

/-- A durable, sequenced kernel event. -/
structure KernelEvent where
  sequence : UInt64
  action : KernelAction
  deriving DecidableEq, Repr

/-- The authorizer verdict oracle; a consultation may change it. -/
class AuthorizerOracle (A : Type) where
  allows : A → AgentId → ToolId → InvocationId → KernelState → BackgroundTheory → Bool × A

/-- The durable event sink. What a failed append leaves in it is the store's affair. -/
class EventStore (E : Type) where
  append : E → KernelEvent → Except KernelError Unit × E

/-- The stateful driver around the transitions. -/
structure Kernel (A E : Type) where
  state : KernelState
  background : BackgroundTheory
  sequence : UInt64
  authorizer : A
  events : E

namespace Kernel

variable {A E : Type} [AuthorizerOracle A] [EventStore E]

def new (background : BackgroundTheory) (authorizer : A) (events : E) : Kernel A E :=
  ⟨KernelState.initial, background, 0, authorizer, events⟩

/-- Append-before-commit: only a successful append advances the sequence and adopts the new state. -/
def apply (k : Kernel A E) (result : Except KernelError (KernelState × KernelAction)) :
    Except KernelError KernelEvent × Kernel A E :=
  match result with
  | .error e => (.error e, k)
  | .ok (newState, action) =>
    let nextSeq := k.sequence + 1
    let event : KernelEvent := ⟨nextSeq, action⟩
    match EventStore.append k.events event with
    | (.error e, events) => (.error e, { k with events := events })
    | (.ok (), events) => (.ok event, { k with state := newState, sequence := nextSeq, events := events })

def registerTool (k : Kernel A E) (tool : ToolId) : Except KernelError KernelEvent × Kernel A E :=
  k.apply (Argus.registerTool k.state tool)

def unregisterTool (k : Kernel A E) (tool : ToolId) : Except KernelError KernelEvent × Kernel A E :=
  k.apply (Argus.unregisterTool k.state tool)

def delegate (k : Kernel A E) (grantor grantee : AgentId) : Except KernelError KernelEvent × Kernel A E :=
  k.apply (Argus.delegate k.state k.background grantor grantee)

def grantCapability (k : Kernel A E) (parent child : AgentId) (cap : CapKind) :
    Except KernelError KernelEvent × Kernel A E :=
  k.apply (Argus.grantCapability k.state parent child cap)

def grantCrossing (k : Kernel A E) (grantor agent : AgentId) (assignment : AssignmentDigest) (n : UInt32) :
    Except KernelError KernelEvent × Kernel A E :=
  k.apply (Argus.grantCrossing k.state k.background grantor agent assignment n)

def revoke (k : Kernel A E) (parent target : AgentId) : Except KernelError KernelEvent × Kernel A E :=
  k.apply (Argus.revoke k.state k.background parent target)

def cascadeRevoke (k : Kernel A E) (child parent : AgentId) : Except KernelError KernelEvent × Kernel A E :=
  k.apply (Argus.cascadeRevoke k.state k.background child parent)

def ingest (k : Kernel A E) (agent : AgentId) (src : Option AgentId) (pconf : ConfLevel)
    (pinteg : IntegLevel) : Except KernelError KernelEvent × Kernel A E :=
  k.apply (Argus.ingest k.state k.background agent src pconf pinteg)

def settleInvocation (k : Kernel A E) (inv : InvocationId) (outcome : Outcome)
    (att : Option ResolutionAttestation) : Except KernelError KernelEvent × Kernel A E :=
  k.apply (Argus.settleInvocation k.state inv outcome att)

/-- The authorizer is asked about every invocation, before any guard. -/
def beginInvocation (k : Kernel A E) (agent : AgentId) (inv : InvocationId) (chal : ChallengeId)
    (snap : ActionPolicySnapshot) (attestedEgress : VecSet EgressKind) (argsHash : ContentHash) :
    Except KernelError KernelEvent × Kernel A E :=
  let (authorized, authorizer) :=
    AuthorizerOracle.allows k.authorizer agent snap.tool inv k.state k.background
  { k with authorizer := authorizer }.apply
    (Argus.beginInvocation k.state k.background agent inv chal snap attestedEgress argsHash authorized)

def authorizeInspected (k : Kernel A E) (inv : InvocationId) (att : InspectionAttestation) :
    Except KernelError KernelEvent × Kernel A E :=
  k.apply (Argus.authorizeInspected k.state k.background inv att)

def crossOutput (k : Kernel A E) (q : CrossInput) : Except KernelError KernelEvent × Kernel A E :=
  k.apply (Argus.crossOutput k.state k.background q)

/-- A call of one of the driver's methods: a command, of which a begin leaves the verdict open. -/
inductive Call
  | registerTool (tool : ToolId)
  | unregisterTool (tool : ToolId)
  | delegate (grantor grantee : AgentId)
  | grantCapability (parent child : AgentId) (cap : CapKind)
  | grantCrossing (grantor agent : AgentId) (assignment : AssignmentDigest) (n : UInt32)
  | revoke (parent target : AgentId)
  | cascadeRevoke (child parent : AgentId)
  | ingest (agent : AgentId) (src : Option AgentId) (pconf : ConfLevel) (pinteg : IntegLevel)
  | settleInvocation (inv : InvocationId) (outcome : Outcome) (att : Option ResolutionAttestation)
  | beginInvocation (agent : AgentId) (inv : InvocationId) (chal : ChallengeId)
      (snap : ActionPolicySnapshot) (attestedEgress : VecSet EgressKind) (argsHash : ContentHash)
  | authorizeInspected (inv : InvocationId) (att : InspectionAttestation)
  | crossOutput (q : CrossInput)

def call (k : Kernel A E) : Call → Except KernelError KernelEvent × Kernel A E
  | .registerTool tool => k.registerTool tool
  | .unregisterTool tool => k.unregisterTool tool
  | .delegate grantor grantee => k.delegate grantor grantee
  | .grantCapability parent child cap => k.grantCapability parent child cap
  | .grantCrossing grantor agent assignment n => k.grantCrossing grantor agent assignment n
  | .revoke parent target => k.revoke parent target
  | .cascadeRevoke child parent => k.cascadeRevoke child parent
  | .ingest agent src pconf pinteg => k.ingest agent src pconf pinteg
  | .settleInvocation inv outcome att => k.settleInvocation inv outcome att
  | .beginInvocation agent inv chal snap attestedEgress argsHash =>
    k.beginInvocation agent inv chal snap attestedEgress argsHash
  | .authorizeInspected inv att => k.authorizeInspected inv att
  | .crossOutput q => k.crossOutput q

/-- The calls in turn, each with its answer. -/
def calls : Kernel A E → List Call → List (Call × Except KernelError KernelEvent) × Kernel A E
  | k, [] => ([], k)
  | k, c :: cs => ((c, (k.call c).1) :: (calls (k.call c).2 cs).1, (calls (k.call c).2 cs).2)

/-- The command of a call, once the authorizer has answered. -/
def Call.command (authorized : Bool) : Call → KernelCommand
  | .registerTool tool => .registerTool tool
  | .unregisterTool tool => .unregisterTool tool
  | .delegate grantor grantee => .delegate grantor grantee
  | .grantCapability parent child cap => .grantCapability parent child cap
  | .grantCrossing grantor agent assignment n => .grantCrossing grantor agent assignment n
  | .revoke parent target => .revoke parent target
  | .cascadeRevoke child parent => .cascadeRevoke child parent
  | .ingest agent src pconf pinteg => .ingest agent src pconf pinteg
  | .settleInvocation inv outcome att => .settleInvocation inv outcome att
  | .beginInvocation agent inv chal snap attestedEgress argsHash =>
    .beginInvocation agent inv chal snap attestedEgress argsHash authorized
  | .authorizeInspected inv att => .authorizeInspected inv att
  | .crossOutput q => .crossOutput q

/-- The authorizer's answer to a call, and the authorizer afterwards. -/
def consult (k : Kernel A E) : Call → Bool × A
  | .beginInvocation agent inv _ snap _ _ =>
    AuthorizerOracle.allows k.authorizer agent snap.tool inv k.state k.background
  | _ => (false, k.authorizer)

/-- What a call does: it is refused, or its event is not appended, or it is committed. -/
inductive Effect (k : Kernel A E) (c : KernelCommand) (authorizer : A) :
    Except KernelError KernelEvent × Kernel A E → Prop
  | refused {e : KernelError} (refused : (kernel k.background).step k.state c = .error e) :
      Effect k c authorizer (.error e, { k with authorizer := authorizer })
  | unappended {s : KernelState} {r : KernelAction} {e : KernelError} {events : E}
      (accepted : (kernel k.background).step k.state c = .ok (s, r))
      (failed : EventStore.append k.events ⟨k.sequence + 1, r⟩ = (.error e, events)) :
      Effect k c authorizer (.error e, { k with authorizer := authorizer, events := events })
  | committed {s : KernelState} {r : KernelAction} {events : E}
      (accepted : (kernel k.background).step k.state c = .ok (s, r))
      (appended : EventStore.append k.events ⟨k.sequence + 1, r⟩ = (.ok (), events)) :
      Effect k c authorizer (.ok ⟨k.sequence + 1, r⟩,
        ⟨s, k.background, k.sequence + 1, authorizer, events⟩)

theorem call_effect (k : Kernel A E) (c : Call) :
    Effect k (c.command (k.consult c).1) (k.consult c).2 (k.call c) := by
  have unfolded : k.call c = { k with authorizer := (k.consult c).2 }.apply
      ((kernel k.background).step k.state (c.command (k.consult c).1)) := by
    cases c <;> rfl
  rw [unfolded]
  cases answer : (kernel k.background).step k.state (c.command (k.consult c).1) with
  | error e => exact .refused answer
  | ok next =>
    rcases next with ⟨s, r⟩
    simp only [apply]
    rcases stored : EventStore.append k.events ⟨k.sequence + 1, r⟩ with ⟨_ | _, events⟩
    · exact .unappended answer stored
    · exact .committed answer stored

/-- The committed transitions of a driver, and how many they are. -/
structure Driven (bg : BackgroundTheory) (k : Kernel A E) (history : List (KernelCommand × KernelAction)) :
    Prop where
  background : k.background = bg
  run : (kernel bg).Run history k.state
  sequence : k.sequence = UInt64.ofNat history.length

/-- An acknowledged call against the transition committed under the next number. -/
def Acknowledges (acked : Call × KernelEvent) (entry : (KernelCommand × KernelAction) × Nat) : Prop :=
  (∃ authorized, entry.1.1 = acked.1.command authorized) ∧
    acked.2 = ⟨UInt64.ofNat entry.2, entry.1.2⟩

def acknowledged (answers : List (Call × Except KernelError KernelEvent)) : List (Call × KernelEvent) :=
  answers.filterMap fun answer => answer.2.toOption.map (answer.1, ·)

variable {bg : BackgroundTheory} {k : Kernel A E} {history : List (KernelCommand × KernelAction)}

omit [AuthorizerOracle A] [EventStore E] in
theorem Driven.number (driven : Driven bg k history) :
    k.sequence + 1 = UInt64.ofNat (history.length + 1) := by
  rw [driven.sequence, UInt64.ofNat_add]
  rfl

omit [AuthorizerOracle A] [EventStore E] in
theorem Driven.committed {s : KernelState} {c : KernelCommand} {r : KernelAction} {events : E}
    {authorizer : A} (driven : Driven bg k history) (accepted : (kernel bg).step k.state c = .ok (s, r)) :
    Driven bg (⟨s, bg, k.sequence + 1, authorizer, events⟩ : Kernel A E) (history ++ [(c, r)]) :=
  ⟨rfl, driven.run.step accepted, by rw [driven.number, List.length_append, List.length_singleton]⟩

theorem Driven.calls (driven : Driven bg k history) (cs : List Call) :
    ∃ more, Driven bg (k.calls cs).2 (history ++ more) ∧
      List.Forall₂ Acknowledges (acknowledged (k.calls cs).1) (more.zipIdx (history.length + 1)) := by
  induction cs generalizing k history with
  | nil => exact ⟨[], by simpa [Kernel.calls] using driven, .nil⟩
  | cons c cs ih =>
    cases driven.background
    have effect := call_effect k c
    simp only [Kernel.calls]
    generalize outcome : k.call c = answer at effect
    cases effect with
    | refused => exact ih ⟨rfl, driven.run, driven.sequence⟩
    | unappended => exact ih ⟨rfl, driven.run, driven.sequence⟩
    | @committed s r events accepted =>
      obtain ⟨more, later, answers⟩ := ih (driven.committed accepted)
      refine ⟨(c.command (k.consult c).1, r) :: more, ?_, ?_⟩
      · rwa [List.append_cons]
      · rw [List.length_append, List.length_singleton] at answers
        exact .cons ⟨⟨_, rfl⟩, by rw [driven.number]⟩ answers

/-- Append before commit, over any calls of any driver: the state is what the pure kernel reaches by the
    acknowledged calls alone, and their events are numbered from one on without a gap. -/
theorem append_before_commit (bg : BackgroundTheory) (authorizer : A) (events : E) (cs : List Call) :
    ∃ history, (kernel bg).Run history ((new bg authorizer events).calls cs).2.state ∧
      ((new bg authorizer events).calls cs).2.sequence = UInt64.ofNat history.length ∧
      List.Forall₂ Acknowledges (acknowledged ((new bg authorizer events).calls cs).1) (history.zipIdx 1) := by
  have fresh : Driven bg (new bg authorizer events) [] := ⟨rfl, .start, rfl⟩
  obtain ⟨history, driven, answers⟩ := fresh.calls cs
  exact ⟨history, driven.run, driven.sequence, answers⟩

section Journal

variable {contents : E → List KernelEvent}

/-- An acknowledged event is in the store for good; a failed append may have written it or not. -/
structure Durable (contents : E → List KernelEvent) : Prop where
  kept : ∀ {events event events'}, EventStore.append events event = (.ok (), events') →
    contents events' = contents events ++ [event]
  torn : ∀ {events event e events'}, EventStore.append events event = (.error e, events') →
    contents events' = contents events ∨ contents events' = contents events ++ [event]

def numbered (events : List KernelEvent) : List (Nat × KernelAction) :=
  events.map fun event => (event.sequence.toNat, event.action)

/-- How many calls were made since the latest acknowledged one, after `n` earlier ones. -/
def unacknowledged : Nat → List (Call × Except KernelError KernelEvent) → Nat
  | n, [] => n
  | _, (_, .ok _) :: answers => unacknowledged 0 answers
  | n, (_, .error _) :: answers => unacknowledged (n + 1) answers

/-- The store covers the committed actions, and whatever else it holds under the next number are at most
    `n` actions, each of which the kernel would take from its present state. -/
structure Recorded (contents : E → List KernelEvent) (bg : BackgroundTheory) (k : Kernel A E)
    (history : List (KernelCommand × KernelAction)) (n : Nat) : Prop where
  driven : Driven bg k history
  covers : Journal.Covers (numbered (contents k.events)) (history.map Prod.snd)
  phantom : ∀ r ∈ Journal.under (numbered (contents k.events)) (history.length + 1),
    ∃ c s, (kernel bg).step k.state c = .ok (s, r)
  bounded : (Journal.under (numbered (contents k.events)) (history.length + 1)).length ≤ n

omit [AuthorizerOracle A] [EventStore E] in
theorem numbered_append {r : KernelAction} (journal : List KernelEvent) (driven : Driven bg k history)
    (room : history.length + 1 < 2 ^ 64) :
    numbered (journal ++ [⟨k.sequence + 1, r⟩]) =
      numbered journal ++ [((history.map Prod.snd).length + 1, r)] := by
  have next : (k.sequence + 1).toNat = history.length + 1 := by
    rw [driven.number, UInt64.toNat_ofNat', Nat.mod_eq_of_lt room]
  rw [numbered, List.map_append, List.length_map]
  simp only [List.map_cons, List.map_nil, next]
  rfl

omit [AuthorizerOracle A] in
theorem Recorded.unappended {s : KernelState} {c : KernelCommand} {r : KernelAction} {e : KernelError}
    {events : E} {authorizer : A} {n : Nat} (durable : Durable contents)
    (recorded : Recorded contents bg k history n) (room : history.length + 1 < 2 ^ 64)
    (accepted : (kernel bg).step k.state c = .ok (s, r))
    (failed : EventStore.append k.events ⟨k.sequence + 1, r⟩ = (.error e, events)) :
    Recorded contents bg { k with authorizer := authorizer, events := events } history (n + 1) := by
  have driven : Driven bg { k with authorizer := authorizer, events := events } history :=
    ⟨recorded.driven.background, recorded.driven.run, recorded.driven.sequence⟩
  rcases durable.torn failed with clean | written
  · refine ⟨driven, ?_, ?_, ?_⟩ <;> simp only [clean]
    · exact recorded.covers
    · exact recorded.phantom
    · exact Nat.le_succ_of_le recorded.bounded
  · have journal : numbered (contents events) =
        numbered (contents k.events) ++ [((history.map Prod.snd).length + 1, r)] := by
      rw [written, numbered_append _ recorded.driven room]
    have beyond : Journal.under (numbered (contents events)) (history.length + 1) =
        Journal.under (numbered (contents k.events)) (history.length + 1) ++ [r] := by
      rw [journal, Journal.under_append, if_pos (by rw [List.length_map])]
    refine ⟨driven, ?_, fun r' member => ?_, ?_⟩
    · rw [journal]
      exact recorded.covers.tear
    · rcases List.mem_append.mp (beyond ▸ member) with earlier | new
      · exact recorded.phantom r' earlier
      · rw [List.mem_singleton.mp new]
        exact ⟨c, s, accepted⟩
    · rw [beyond, List.length_append, List.length_singleton]
      exact Nat.succ_le_succ recorded.bounded

omit [AuthorizerOracle A] in
theorem Recorded.committed {s : KernelState} {c : KernelCommand} {r : KernelAction} {events : E}
    {authorizer : A} {n : Nat} (durable : Durable contents) (recorded : Recorded contents bg k history n)
    (room : history.length + 1 < 2 ^ 64) (accepted : (kernel bg).step k.state c = .ok (s, r))
    (appended : EventStore.append k.events ⟨k.sequence + 1, r⟩ = (.ok (), events)) :
    Recorded contents bg (⟨s, bg, k.sequence + 1, authorizer, events⟩ : Kernel A E) (history ++ [(c, r)])
      0 := by
  have journal : numbered (contents events) =
      numbered (contents k.events) ++ [((history.map Prod.snd).length + 1, r)] := by
    rw [durable.kept appended, numbered_append _ recorded.driven room]
  -- nothing was written yet under the number after the one just used
  have beyond : Journal.under (numbered (contents events)) ((history ++ [(c, r)]).length + 1) = [] := by
    rw [journal, Journal.under_append, recorded.covers.under_later, List.nil_append, if_neg]
    all_goals simp
  refine ⟨recorded.driven.committed accepted, ?_, ?_, ?_⟩
  · rw [journal, List.map_append]
    exact recorded.covers.commit
  · intro r' member
    rw [beyond] at member
    cases member
  · rw [beyond]
    exact Nat.le_refl 0

theorem Recorded.calls {n : Nat} (durable : Durable contents) (recorded : Recorded contents bg k history n)
    (cs : List Call) (room : history.length + cs.length < 2 ^ 64) :
    ∃ more, Recorded contents bg (k.calls cs).2 (history ++ more) (unacknowledged n (k.calls cs).1) := by
  induction cs generalizing k history n with
  | nil => exact ⟨[], by simpa [Kernel.calls, unacknowledged] using recorded⟩
  | cons c cs ih =>
    rw [List.length_cons] at room
    cases recorded.driven.background
    have effect := call_effect k c
    simp only [Kernel.calls]
    generalize k.call c = answer at effect
    cases effect with
    | refused =>
      have still : Recorded contents k.background { k with authorizer := (k.consult c).2 } history (n + 1) :=
        ⟨⟨rfl, recorded.driven.run, recorded.driven.sequence⟩, recorded.covers, recorded.phantom,
          Nat.le_succ_of_le recorded.bounded⟩
      exact ih still (by omega)
    | unappended accepted failed =>
      exact ih (recorded.unappended durable (by omega) accepted failed) (by omega)
    | committed accepted appended =>
      obtain ⟨more, later⟩ := ih (recorded.committed durable (by omega) accepted appended)
        (by rw [List.length_append, List.length_singleton]; omega)
      exact ⟨_ :: more, by rwa [List.append_cons]⟩

end Journal

instance : AuthorizerOracle AllowAll := ⟨fun oracle _ _ _ _ _ => (true, oracle)⟩

/-- A store that reports the planned outages, after writing the event. -/
structure TornStore where
  outages : List Bool
  journal : List KernelEvent

instance : EventStore TornStore where
  append store event := match store.outages with
    | true :: later => (.error .eventStore, ⟨later, store.journal ++ [event]⟩)
    | _ :: later => (.ok (), ⟨later, store.journal ++ [event]⟩)
    | [] => (.ok (), ⟨[], store.journal ++ [event]⟩)

theorem TornStore.durable : Durable TornStore.journal where
  kept {events event events'} appended := by
    rcases events with ⟨_ | ⟨_ | _, later⟩, journal⟩ <;> cases appended <;> rfl
  torn {events event e events'} failed := by
    rcases events with ⟨_ | ⟨_ | _, later⟩, journal⟩ <;> cases failed
    exact .inr rfl

end Kernel

end Argus
