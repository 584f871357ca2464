import Einsof.Native.Chain

namespace Argus

def maxOpaqueUtf8Bytes : Nat := 1024
def maxAgents : Nat := 4096
def maxParentOrLabelKeys : Nat := 4096
def maxTools : Nat := 1024
def maxPending : Nat := 4096
def maxChallenges : Nat := 4096
def maxCrossingGrants : Nat := 16384
def maxConsumedIds : Nat := 65536
def maxConsumedAttestations : Nat := 65536
def maxConsumedCrossings : Nat := 65536
def maxRetainedUtf8Bytes : Nat := 16 * 1024 * 1024
def maxAcceptedSequence : UInt64 := 100000
def maxCapabilities : Nat := 15
def maxEgressKinds : Nat := 4
def maxConfLevels : Nat := 4
def maxIntegLevels : Nat := 4

/-- Sizes are mathematical naturals: a machine overflow of the sum is refused as well. -/
def checkedCapacity (current addition maximum : Nat) : Except ErrorN Nat :=
  let total := current + addition
  if total ≤ maximum then .ok total else .error .capacityExceeded

def checkLen (current maximum : Nat) : Except ErrorN Unit :=
  (checkedCapacity current 0 maximum).map fun _ => ()

structure TextBudget where
  total : Nat

namespace TextBudget

def new : TextBudget := ⟨0⟩

def add (text : TextBudget) (value : String) : Except ErrorN TextBudget := do
  checkLen value.utf8ByteSize maxOpaqueUtf8Bytes
  return ⟨← checkedCapacity text.total value.utf8ByteSize maxRetainedUtf8Bytes⟩

/-- The loop `for value in values { text.add(value)? }`. -/
def addAll (text : TextBudget) (values : List String) : Except ErrorN TextBudget :=
  values.foldlM add text

end TextBudget

/-- The loop `for value in values { check(value)? }`. -/
def checkAll (values : List String) : Except ErrorN Unit :=
  values.forM fun value => checkLen value.utf8ByteSize maxOpaqueUtf8Bytes

def checkPolicy (policy : ActionPolicySnapshotN) : Except ErrorN Unit := do
  checkLen policy.requiredCaps.length maxCapabilities
  checkLen policy.declaredEgress.length maxEgressKinds

def checkEvidence (evidence : ConformanceAttestationN) : Except ErrorN Unit :=
  checkAll [evidence.id, evidence.output, evidence.src, evidence.rcv, evidence.descriptor,
    evidence.assignment]

def checkCrossInput (input : CrossInputN) : Except ErrorN Unit := do
  checkAll [input.src, input.rcv, input.crossing, input.outputHash, input.descriptor, input.assignment]
  match input.evidence with
  | some evidence => checkEvidence evidence
  | none => return

def checkCommand : CommandN → Except ErrorN Unit
  | .registerTool tool => checkAll [tool]
  | .unregisterTool tool => checkAll [tool]
  | .delegate grantor grantee => checkAll [grantor, grantee]
  | .grantCapability parent child _ => checkAll [parent, child]
  | .grantCrossing grantor agent assignment _ => checkAll [grantor, agent, assignment]
  | .revoke parent target => checkAll [parent, target]
  | .cascadeRevoke child parent => checkAll [child, parent]
  | .ingest agent src _ _ => checkAll (agent :: src.toList)
  | .beginInvocation agent inv challenge policy egress argsHash _ => do
    checkAll [agent, inv, challenge, policy.tool, policy.policyDigest, argsHash]
    checkPolicy policy
    checkLen egress.length maxEgressKinds
  | .authorizeInspected inv attestation =>
    checkAll [inv, attestation.id, attestation.inv, attestation.challenge, attestation.argsHash,
      attestation.policyDigest]
  | .settleInvocation inv _ resolution =>
    checkAll (inv :: match resolution with
      | some resolution => [resolution.id, resolution.inv]
      | none => [])
  | .crossOutput input => checkCrossInput input

def pendingTexts (inv : InvocationId) (pending : PendingInvocation) : List String :=
  [inv.val, pending.agent.val, pending.policy.tool.val, pending.policy.policyDigest.val] ++
    match pending.admission with
    | .inspected attestation => [attestation.val]
    | _ => []

def challengeTexts (inv : InvocationId) (challenge : ChallengeScope) : List String :=
  [inv.val, challenge.challenge.val, challenge.agent.val, challenge.policy.tool.val,
    challenge.policy.policyDigest.val, challenge.argsHash.val]

def retainedText (state : KernelState) : Except ErrorN TextBudget := do
  let text := TextBudget.new
  let text ← text.addAll (state.agentActive.items.map (·.val))
  let text ← text.addAll (state.agentParent.entries.flatMap fun (child, parent) => [child.val, parent.val])
  let text ← text.addAll (state.agentCap.entries.map fun (agent, _) => agent.val)
  let text ← text.addAll (state.taintLevels.entries.map fun (agent, _) => agent.val)
  let text ← text.addAll (state.integLevels.entries.map fun (agent, _) => agent.val)
  let text ← text.addAll (state.pending.entries.flatMap fun (inv, pending) => pendingTexts inv pending)
  let text ← text.addAll (state.challenges.entries.flatMap fun (inv, scope) => challengeTexts inv scope)
  let text ← text.addAll (state.consumedIds.items.map (·.val))
  let text ← text.addAll (state.consumedAttestations.items.map (·.val))
  let text ← text.addAll (state.consumedCrossings.items.map (·.val))
  let text ← text.addAll (state.crossingGrants.entries.flatMap fun (key, _) =>
    [key.agent.val, key.assignment.val])
  text.addAll (state.toolRegistered.items.map (·.val))

def checkStoredSets (policy : ActionPolicySnapshot) (egress : VecSet EgressKind) : Except ErrorN Unit := do
  checkLen policy.requiredCaps.len maxCapabilities
  checkLen policy.declaredEgress.len maxEgressKinds
  checkLen egress.len maxEgressKinds

def checkStateShape (state : KernelState) : Except ErrorN Unit := do
  checkLen state.agentActive.len maxAgents
  checkLen state.agentParent.len maxParentOrLabelKeys
  checkLen state.agentCap.len maxParentOrLabelKeys
  checkLen state.taintLevels.len maxParentOrLabelKeys
  checkLen state.integLevels.len maxParentOrLabelKeys
  checkLen state.pending.len maxPending
  checkLen state.challenges.len maxChallenges
  checkLen state.crossingGrants.len maxCrossingGrants
  checkLen state.consumedIds.len maxConsumedIds
  checkLen state.consumedAttestations.len maxConsumedAttestations
  checkLen state.consumedCrossings.len maxConsumedCrossings
  checkLen state.toolRegistered.len maxTools
  state.agentCap.entries.forM fun (_, caps) => checkLen caps.len maxCapabilities
  state.taintLevels.entries.forM fun (_, levels) => checkLen levels.len maxConfLevels
  state.integLevels.entries.forM fun (_, levels) => checkLen levels.len maxIntegLevels
  state.pending.entries.forM fun (_, pending) => checkStoredSets pending.policy pending.egress
  state.challenges.entries.forM fun (_, scope) => checkStoredSets scope.policy scope.egress

def checkedStateText (state : KernelState) : Except ErrorN TextBudget := do
  checkStateShape state
  retainedText state

def checkState (state : KernelState) : Except ErrorN Unit :=
  (checkedStateText state).map fun _ => ()

def checkedSucc (sequence : UInt64) : Except ErrorN UInt64 :=
  if sequence = UInt64.ofNat (UInt64.size - 1) then .error .sequenceExhausted else .ok (sequence + 1)

def checkRecoveryLink (state : KernelState) (sequence : UInt64) : Except ErrorN Unit := do
  checkState state
  let next ← checkedSucc sequence
  if next > maxAcceptedSequence then .error .sequenceExhausted else .ok ()

def addLabelKeyIfAbsent {V : Type} (map : VecMap AgentId V) (agent : AgentId) : Nat :=
  if map.containsKey agent then 0 else 1

def checkLabelKey {V : Type} (map : VecMap AgentId V) (agent : AgentId) : Except ErrorN Unit := do
  let _ ← checkedCapacity map.len (addLabelKeyIfAbsent map agent) maxParentOrLabelKeys

/-- Room for one element in the set under a key. -/
def checkSetRoom {T : Type} [DecidableEq T] (existing : Option (VecSet T)) (elem : T) (maximum : Nat) :
    Except ErrorN Unit := do
  let held := match existing with
    | some set => set.len
    | none => 0
  let addition := match existing with
    | some set => if set.contains elem then 0 else 1
    | none => 1
  let _ ← checkedCapacity held addition maximum

/-- Room for the elements of the source's set that the receiver does not hold, at least for one. -/
def checkSetMerge {T : Type} [DecidableEq T] (source receiver : Option (VecSet T)) (maximum : Nat) :
    Except ErrorN Unit := do
  let held := match receiver with
    | some set => set.len
    | none => 0
  let addition := match source with
    | some levels => max 1 (levels.items.filter fun level =>
        match receiver with
        | some set => !set.contains level
        | none => true).length
    | none => 1
  let _ ← checkedCapacity held addition maximum

def checkCrossPost (state : KernelState) (input : CrossInputN) (text : TextBudget) :
    Except ErrorN TextBudget := do
  let _ ← checkedCapacity state.consumedCrossings.len 1 maxConsumedCrossings
  if input.evidence.isSome then
    let _ ← checkedCapacity state.consumedAttestations.len 1 maxConsumedAttestations
  let source : AgentId := ⟨input.src⟩
  let receiver : AgentId := ⟨input.rcv⟩
  checkLabelKey state.taintLevels receiver
  checkLabelKey state.integLevels receiver
  checkSetMerge (state.taintLevels.get source) (state.taintLevels.get receiver) maxConfLevels
  checkSetMerge (state.integLevels.get source) (state.integLevels.get receiver) maxIntegLevels
  text.addAll ([input.crossing, input.rcv, input.rcv] ++ match input.evidence with
    | some evidence => [evidence.id]
    | none => [])

/-- What each transition may add, estimated without running it. -/
def checkPostTransition (state : KernelState) (command : CommandN) (text : TextBudget) :
    Except ErrorN TextBudget :=
  match command with
  | .registerTool tool => do
    let _ ← checkedCapacity state.toolRegistered.len 1 maxTools
    text.add tool
  | .unregisterTool _ | .revoke _ _ | .cascadeRevoke _ _ => .ok text
  | .delegate grantor grantee => do
    let _ ← checkedCapacity state.agentActive.len 1 maxAgents
    let _ ← checkedCapacity state.agentParent.len 1 maxParentOrLabelKeys
    text.addAll [grantee, grantee, grantor]
  | .grantCapability _ child cap => do
    checkLabelKey state.agentCap ⟨child⟩
    let existing := state.agentCap.get ⟨child⟩
    checkSetRoom existing cap maxCapabilities
    if existing.isNone then text.add child else return text
  | .grantCrossing _ agent assignment _ => do
    let _ ← checkedCapacity state.crossingGrants.len 1 maxCrossingGrants
    text.addAll [agent, assignment]
  | .ingest agent _ pconf pinteg => do
    let taintAddition := addLabelKeyIfAbsent state.taintLevels ⟨agent⟩
    let integAddition := addLabelKeyIfAbsent state.integLevels ⟨agent⟩
    let _ ← checkedCapacity state.taintLevels.len taintAddition maxParentOrLabelKeys
    let _ ← checkedCapacity state.integLevels.len integAddition maxParentOrLabelKeys
    checkSetRoom (state.taintLevels.get ⟨agent⟩) pconf maxConfLevels
    checkSetRoom (state.integLevels.get ⟨agent⟩) pinteg maxIntegLevels
    let text ← if taintAddition = 1 then text.add agent else pure text
    if integAddition = 1 then text.add agent else return text
  | .beginInvocation agent inv challenge policy _ argsHash _ => do
    let _ ← checkedCapacity state.pending.len 1 maxPending
    let _ ← checkedCapacity state.challenges.len 1 maxChallenges
    let _ ← checkedCapacity state.consumedIds.len 1 maxConsumedIds
    text.addAll [inv, inv, agent, challenge, policy.tool, policy.policyDigest, argsHash]
  | .authorizeInspected inv attestation => do
    let _ ← checkedCapacity state.pending.len 1 maxPending
    let _ ← checkedCapacity state.consumedAttestations.len 1 maxConsumedAttestations
    text.addAll ([attestation.id, attestation.id] ++ match state.challenges.get ⟨inv⟩ with
      | some scope => [inv, scope.agent.val, scope.policy.tool.val, scope.policy.policyDigest.val]
      | none => [])
  | .settleInvocation inv _ resolution => do
    if resolution.isSome then
      let _ ← checkedCapacity state.consumedAttestations.len 1 maxConsumedAttestations
    let text ← match state.pending.get ⟨inv⟩ with
      | some pending => do
        checkLabelKey state.taintLevels pending.agent
        checkLabelKey state.integLevels pending.agent
        text.addAll [pending.agent.val, pending.agent.val]
      | none => pure text
    match resolution with
    | some resolution => text.add resolution.id
    | none => return text
  | .crossOutput input => checkCrossPost state input text

def preflight (state : KernelState) (sequence : UInt64) (command : CommandN) : Except ErrorN Unit := do
  let next ← checkedSucc sequence
  if next > maxAcceptedSequence then .error .sequenceExhausted else .ok ()
  let text ← checkedStateText state
  checkCommand command
  let _ ← checkPostTransition state command text

end Argus
