import Einsof.Host.Error
import Einsof.Native.Limits

namespace ExArgus

open Argus

def maxRecoveryEnvelopes : Nat := 100000
def maxReplayContentBytes : Nat := 64 * 1024 * 1024

namespace Validation

/-- A string handed to the kernel is non-empty and bounded; every string is valid UTF-8. -/
def checkOpaque (value : String) (path : List Field) : Except Error Unit :=
  if value = "" then .error (.boundary .emptyValue path) else
  if value.utf8ByteSize > maxOpaqueUtf8Bytes then .error (.boundary .valueTooLarge path) else
  .ok ()

/-- The checks `:ok <- opaque(struct.field, path ++ [:field])`, one after the other. -/
def opaques (path : List Field) (fields : List (Field × String)) : Except Error Unit :=
  fields.forM fun (field, value) => checkOpaque value (path ++ [field])

def optionalField (field : Field) : Option String → List (Field × String)
  | none => []
  | some value => [(field, value)]

/-- A set arrives as a list without repetitions and is sorted into the order of its kinds. -/
def set {T : Type} [DecidableEq T] (value allowed : List T) (maximum : Nat) (path : List Field) :
    Except Error (List T) :=
  if value.length > maximum then .error (.boundary .capacityExceeded path) else
  if ¬ value.Nodup then .error (.boundary .duplicateValue path) else
  .ok (value.insertionSort fun a b => allowed.idxOf a ≤ allowed.idxOf b)

/-- A ceiling map has exactly the four egress keys. -/
def ceiling (value : EgressKind → Option (Option ConfLevel)) (path : List Field) : Except Error Unit :=
  if ∀ e ∈ EgressKind.all, (value e).isSome then .ok () else .error (.boundary .invalidKeys path)

def background (bg : BackgroundN) : Except Error BackgroundN := do
  ceiling bg.allowCeiling [.allowCeiling]
  ceiling bg.inspectCeiling [.inspectCeiling]
  return bg

def policy (policy : ActionPolicySnapshotN) (path : List Field) : Except Error ActionPolicySnapshotN := do
  opaques path [(.tool, policy.tool)]
  let requiredCaps ← set policy.requiredCaps CapKind.all maxCapabilities (path ++ [.requiredCaps])
  let declaredEgress ← set policy.declaredEgress EgressKind.all maxEgressKinds (path ++ [.declaredEgress])
  opaques path [(.policyDigest, policy.policyDigest)]
  return { policy with requiredCaps := requiredCaps, declaredEgress := declaredEgress }

def inspection (attestation : InspectionAttestationN) (path : List Field) : Except Error Unit :=
  opaques path [(.id, attestation.id), (.inv, attestation.inv), (.challenge, attestation.challenge),
    (.argsHash, attestation.argsHash), (.policyDigest, attestation.policyDigest)]

def optionalResolution (value : Option ResolutionAttestationN) (path : List Field) : Except Error Unit :=
  match value with
  | none => .ok ()
  | some resolution => opaques path [(.id, resolution.id), (.inv, resolution.inv)]

def optionalEvidence (value : Option ConformanceAttestationN) (path : List Field) : Except Error Unit :=
  match value with
  | none => .ok ()
  | some evidence => opaques path [(.id, evidence.id), (.output, evidence.output), (.src, evidence.src),
      (.rcv, evidence.rcv), (.descriptor, evidence.descriptor), (.assignment, evidence.assignment)]

def crossInput (input : CrossInputN) (path : List Field) : Except Error Unit := do
  opaques path [(.src, input.src), (.rcv, input.rcv), (.crossing, input.crossing),
    (.outputHash, input.outputHash), (.descriptor, input.descriptor), (.assignment, input.assignment)]
  optionalEvidence input.evidence (path ++ [.evidence])

def beginCommand (agent inv challenge : String) (snapshot : ActionPolicySnapshotN)
    (egress : List EgressKind) (argsHash : String) (authorized : Bool) : Except Error CommandN := do
  opaques [] [(.agent, agent), (.inv, inv), (.challenge, challenge)]
  let snapshot ← policy snapshot [.policy]
  let egress ← set egress EgressKind.all maxEgressKinds [.egress]
  opaques [] [(.argsHash, argsHash)]
  return .beginInvocation agent inv challenge snapshot egress argsHash authorized

/-- The normalized command: only the sets of an invocation are rewritten. -/
def command (command : CommandN) : Except Error CommandN :=
  match command with
  | .registerTool tool => (opaques [] [(.tool, tool)]).map fun _ => command
  | .unregisterTool tool => (opaques [] [(.tool, tool)]).map fun _ => command
  | .delegate grantor grantee =>
    (opaques [] [(.grantor, grantor), (.grantee, grantee)]).map fun _ => command
  | .grantCapability parent child _ =>
    (opaques [] [(.parent, parent), (.child, child)]).map fun _ => command
  | .grantCrossing grantor agent assignment _ =>
    (opaques [] [(.grantor, grantor), (.agent, agent), (.assignment, assignment)]).map fun _ => command
  | .revoke parent target => (opaques [] [(.parent, parent), (.target, target)]).map fun _ => command
  | .cascadeRevoke child parent => (opaques [] [(.child, child), (.parent, parent)]).map fun _ => command
  | .ingest agent src _ _ => (opaques [] ((.agent, agent) :: optionalField .src src)).map fun _ => command
  | .beginInvocation agent inv challenge snapshot egress argsHash authorized =>
    beginCommand agent inv challenge snapshot egress argsHash authorized
  | .authorizeInspected inv attestation => do
    opaques [] [(.inv, inv)]
    (inspection attestation [.attestation]).map fun _ => command
  | .settleInvocation inv _ resolution => do
    opaques [] [(.inv, inv)]
    (optionalResolution resolution [.resolution]).map fun _ => command
  | .crossOutput input => (crossInput input [.input]).map fun _ => command

def quarantineResolution : CommandN → Except Error CommandN
  | .settleInvocation inv outcome resolution => do
    let normalized ← command (.settleInvocation inv outcome resolution)
    if outcome = .ambiguous then .error (.boundary .unknownEnum [.outcome]) else .ok normalized
  | _ => .error (.boundary .invalidStruct [])

def actionFields : ActionN → List (Field × String)
  | .registerTool tool => [(.tool, tool)]
  | .unregisterTool tool => [(.tool, tool)]
  | .delegate grantor grantee => [(.grantor, grantor), (.grantee, grantee)]
  | .grantCapability parent child _ => [(.parent, parent), (.child, child)]
  | .grantCrossing grantor agent assignment _ =>
    [(.grantor, grantor), (.agent, agent), (.assignment, assignment)]
  | .revoke parent target => [(.parent, parent), (.target, target)]
  | .cascadeRevoke child parent => [(.child, child), (.parent, parent)]
  | .ingest agent src _ _ _ => (.agent, agent) :: optionalField .src src
  | .beginInvocation agent inv tool _ _ => [(.agent, agent), (.inv, inv), (.tool, tool)]
  | .authorizeInspected inv attestation _ => [(.inv, inv), (.attestation, attestation)]
  | .settleInvocation inv agent _ _ _ _ resolution =>
    (.inv, inv) :: (.agent, agent) :: optionalField .resolution resolution
  | .crossOutput src rcv crossing _ _ => [(.src, src), (.rcv, rcv), (.crossing, crossing)]

def action (act : ActionN) (path : List Field) : Except Error ActionN :=
  (opaques path (actionFields act)).map fun _ => act

def policyContent (policy : ActionPolicySnapshotN) : Nat :=
  policy.tool.utf8ByteSize + policy.policyDigest.utf8ByteSize

def inspectionContent (attestation : InspectionAttestationN) : Nat :=
  attestation.id.utf8ByteSize + attestation.inv.utf8ByteSize + attestation.challenge.utf8ByteSize +
    attestation.argsHash.utf8ByteSize + attestation.policyDigest.utf8ByteSize

def optionalBytes : Option String → Nat
  | none => 0
  | some value => value.utf8ByteSize

def resolutionContent : Option ResolutionAttestationN → Nat
  | none => 0
  | some resolution => resolution.id.utf8ByteSize + resolution.inv.utf8ByteSize

def evidenceContent : Option ConformanceAttestationN → Nat
  | none => 0
  | some evidence => evidence.id.utf8ByteSize + evidence.output.utf8ByteSize + evidence.src.utf8ByteSize +
      evidence.rcv.utf8ByteSize + evidence.descriptor.utf8ByteSize + evidence.assignment.utf8ByteSize

def crossContent (input : CrossInputN) : Nat :=
  input.src.utf8ByteSize + input.rcv.utf8ByteSize + input.crossing.utf8ByteSize +
    input.outputHash.utf8ByteSize + input.descriptor.utf8ByteSize + input.assignment.utf8ByteSize +
    evidenceContent input.evidence

def commandContent : CommandN → Nat
  | .registerTool tool => tool.utf8ByteSize
  | .unregisterTool tool => tool.utf8ByteSize
  | .delegate grantor grantee => grantor.utf8ByteSize + grantee.utf8ByteSize
  | .grantCapability parent child _ => parent.utf8ByteSize + child.utf8ByteSize
  | .grantCrossing grantor agent assignment _ =>
    grantor.utf8ByteSize + agent.utf8ByteSize + assignment.utf8ByteSize
  | .revoke parent target => parent.utf8ByteSize + target.utf8ByteSize
  | .cascadeRevoke child parent => child.utf8ByteSize + parent.utf8ByteSize
  | .ingest agent src _ _ => agent.utf8ByteSize + optionalBytes src
  | .beginInvocation agent inv challenge policy _ argsHash _ =>
    agent.utf8ByteSize + inv.utf8ByteSize + challenge.utf8ByteSize + policyContent policy +
      argsHash.utf8ByteSize
  | .authorizeInspected inv attestation => inv.utf8ByteSize + inspectionContent attestation
  | .settleInvocation inv _ resolution => inv.utf8ByteSize + resolutionContent resolution
  | .crossOutput input => crossContent input

def actionContent : ActionN → Nat
  | .registerTool tool => tool.utf8ByteSize
  | .unregisterTool tool => tool.utf8ByteSize
  | .delegate grantor grantee => grantor.utf8ByteSize + grantee.utf8ByteSize
  | .grantCapability parent child _ => parent.utf8ByteSize + child.utf8ByteSize
  | .grantCrossing grantor agent assignment _ =>
    grantor.utf8ByteSize + agent.utf8ByteSize + assignment.utf8ByteSize
  | .revoke parent target => parent.utf8ByteSize + target.utf8ByteSize
  | .cascadeRevoke child parent => child.utf8ByteSize + parent.utf8ByteSize
  | .ingest agent src _ _ _ => agent.utf8ByteSize + optionalBytes src
  | .beginInvocation agent inv tool _ _ => agent.utf8ByteSize + inv.utf8ByteSize + tool.utf8ByteSize
  | .authorizeInspected inv attestation _ => inv.utf8ByteSize + attestation.utf8ByteSize
  | .settleInvocation inv agent _ _ _ _ resolution =>
    inv.utf8ByteSize + agent.utf8ByteSize + optionalBytes resolution
  | .crossOutput src rcv crossing _ _ => src.utf8ByteSize + rcv.utf8ByteSize + crossing.utf8ByteSize

def putIndex {α : Type} (result : Except Error α) (index : Nat) : Except Error α :=
  result.mapError fun e => { e with index := some index }

def checkedRecoveryCount (index : Nat) : Except Error Unit :=
  if index < maxRecoveryEnvelopes then .ok ()
  else .error { Error.boundary .capacityExceeded [] with index := some index }

def checkedReplayContent (total bytes : Nat) : Except Error Nat :=
  if total ≤ maxReplayContentBytes ∧ bytes ≤ maxReplayContentBytes - total then .ok (total + bytes)
  else .error (.boundary .capacityExceeded [])

def envelopeContent (command : CommandN) (action : ActionN) : Except Error Nat := do
  let content ← checkedReplayContent 0 64
  let content ← checkedReplayContent content (commandContent command)
  checkedReplayContent content (actionContent action)

def recoveryVersion (version : UInt32) (index : Option Nat) : Except Error Unit :=
  if version = 5 then .ok () else .error (.recovery .invalidVersion index)

def envelopeSequence (value : UInt64) : Except Error Unit :=
  if 0 < value ∧ value ≤ maxAcceptedSequence then .ok ()
  else .error (.boundary .integerOutOfRange [.sequence])

def chainSequence (value : UInt64) : Except Error Unit :=
  if value ≤ maxAcceptedSequence then .ok () else .error (.boundary .integerOutOfRange [.sequence])

def declaredSequence (sequence : UInt64) (index : Nat) : Except Error Unit :=
  if sequence.toNat = index + 1 then .ok () else .error (.recovery .sequenceMismatch (some index))

def predecessor (previousDigest : DigestN) (expected : Option DigestN) (index : Nat) : Except Error Unit :=
  if expected = none ∧ index = 0 ∨ expected = some previousDigest then .ok ()
  else .error (.recovery .previousDigestMismatch (some index))

def envelopeCommand (value : CommandN) : Except Error CommandN :=
  (command value).mapError fun e => { e with path := .command :: e.path }

def envelope (recorded : EnvelopeN) (index : Nat) : Except Error (EnvelopeN × Nat) :=
  putIndex (do
    recoveryVersion recorded.version (some index)
    envelopeSequence recorded.sequence
    let command ← envelopeCommand recorded.command
    let action ← action recorded.action [.action]
    let content ← envelopeContent command action
    return ({ recorded with command := command, action := action }, content)) index

def history : List EnvelopeN → Nat → Option DigestN → Nat → List EnvelopeN →
    Except Error (List EnvelopeN × Nat × Option DigestN)
  | [], index, lastDigest, _, normalized => .ok (normalized.reverse, index, lastDigest)
  | recorded :: tail, index, lastDigest, content, normalized => do
    checkedRecoveryCount index
    let (checked, bytes) ← envelope recorded index
    declaredSequence checked.sequence index
    predecessor checked.previousDigest lastDigest index
    let next ← putIndex (checkedReplayContent content bytes) index
    history tail (index + 1) (some checked.digest) next (checked :: normalized)

def chain (expected : ChainN) : Except Error Unit := do
  recoveryVersion expected.version none
  chainSequence expected.sequence

def expectedSequence (declared : UInt64) (actual : Nat) : Except Error Unit :=
  if declared.toNat = actual then .ok () else .error (.recovery .sequenceMismatch none)

def expectedHead (head : DigestN) (lastDigest : Option DigestN) : Except Error Unit :=
  if lastDigest = none ∨ lastDigest = some head then .ok () else .error (.recovery .finalAnchorMismatch none)

def recovery (bg : BackgroundN) (recorded : List EnvelopeN) (expected : ChainN) :
    Except Error (BackgroundN × List EnvelopeN) := do
  let bg ← background bg
  let (normalized, length, lastDigest) ← history recorded 0 none 0 []
  chain expected
  expectedSequence expected.sequence length
  expectedHead expected.head lastDigest
  return (bg, normalized)

end Validation

end ExArgus
