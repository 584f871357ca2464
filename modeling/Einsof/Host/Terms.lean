import Einsof.Base.Term
import Einsof.Host.Validation

namespace ExArgus

open Argus Erlang

inductive CommandName
  | registerTool
  | unregisterTool
  | delegate
  | grantCapability
  | grantCrossing
  | revoke
  | cascadeRevoke
  | ingest
  | beginInvocation
  | authorizeInspected
  | settleInvocation
  | crossOutput
  deriving DecidableEq, Repr

def CommandName.all : List CommandName :=
  [.registerTool, .unregisterTool, .delegate, .grantCapability, .grantCrossing, .revoke, .cascadeRevoke,
    .ingest, .beginInvocation, .authorizeInspected, .settleInvocation, .crossOutput]

/-- An error of the validation of a term; its path names fields and positions of the term. -/
structure Refusal where
  errorClass : ErrorClass
  reason : Reason
  path : List Place
  index : Option Nat
  deriving DecidableEq

def boundaryError (reason : Reason) (path : List Place) : Refusal := ⟨.boundary, reason, path, none⟩

/-! The validation of whatever terms a caller hands over, ill-typed ones included. -/

namespace Terms

def confLevels : List String := ["public", "internal", "sensitive", "restricted"]
def integLevels : List String := ["untrusted", "standard", "trusted", "attested"]
def egressKinds : List String := ["network_external", "network_internal", "filesystem_write", "ipc"]
def capabilities : List String :=
  ["filesystem_read", "filesystem_write", "filesystem_delete", "network_egress", "network_ingress",
    "execution_shell", "execution_code", "credentials", "system_info", "system_modify", "clipboard",
    "browser_navigate", "database_read", "database_write", "ipc"]
def outcomes : List String := ["success", "failure", "ambiguous"]
def dispositions : List String := ["permitted", "blocked", "monitor_bypassed"]

/-- `%Module{} = value`, then `exact_keys`, then the checks of the fields. -/
def struct : String → List (String × Check Refusal) → Check Refusal :=
  Check.record (boundaryError .invalidStruct) (boundaryError .invalidKeys)

def checkOpaque : Check Refusal := fun value path =>
  match value with
  | .binary bytes =>
    if bytes.size = 0 then .error (boundaryError .emptyValue path) else
    if bytes.size > maxOpaqueUtf8Bytes then .error (boundaryError .valueTooLarge path) else
    if ¬ bytes.IsValidUTF8 then .error (boundaryError .invalidUtf8 path) else
    .ok value
  | _ => .error (boundaryError .invalidType path)

def optionalOpaque : Check Refusal := checkOpaque.optional

def enum (allowed : List String) : Check Refusal := fun value path =>
  match value with
  | .atom name => if name ∈ allowed then .ok value else .error (boundaryError .unknownEnum path)
  | _ => .error (boundaryError .unknownEnum path)

def optionalEnum (allowed : List String) : Check Refusal := (enum allowed).optional

def boolean : Check Refusal := fun value path =>
  match value with
  | .atom name =>
    if name = "true" ∨ name = "false" then .ok value else .error (boundaryError .invalidType path)
  | _ => .error (boundaryError .invalidType path)

def u32 : Check Refusal := fun value path =>
  match value with
  | .integer n =>
    if 0 ≤ n ∧ n ≤ 4294967295 then .ok value else .error (boundaryError .integerOutOfRange path)
  | _ => .error (boundaryError .integerOutOfRange path)

inductive ListShape
  | proper
  | overLimit
  | improper
  deriving DecidableEq

def boundedProperList : Term → Nat → Nat → ListShape
  | .empty, _, _ => .proper
  | .cons _ tail, maximum, count =>
    if count = maximum then .overLimit else boundedProperList tail maximum (count + 1)
  | _, _, _ => .improper

def setMembers (allowed : List String) (path : List Place) : Term → Nat → Except Refusal Unit
  | .cons member tail, index => do
    let _ ← enum allowed member (path ++ [.index index])
    setMembers allowed path tail (index + 1)
  | _, _ => .ok ()

/-- The atoms in a list. -/
def atoms : Term → List String
  | .cons (.atom name) tail => name :: atoms tail
  | .cons _ tail => atoms tail
  | _ => []

/-- A set arrives as a list without repetitions and is sorted into the order of its kinds. -/
def set (allowed : List String) (maximum : Nat) : Check Refusal := fun value path =>
  match boundedProperList value maximum 0 with
  | .proper => do
    setMembers allowed path value 0
    if ¬ (atoms value).Nodup then .error (boundaryError .duplicateValue path) else
    .ok (.ofList (((atoms value).insertionSort fun a b => allowed.idxOf a ≤ allowed.idxOf b).map .atom))
  | .overLimit => .error (boundaryError .capacityExceeded path)
  | .improper => .error (boundaryError .invalidType path)

def policy : Check Refusal := struct "Elixir.ExArgus.Kernel.Types.ActionPolicySnapshot"
  [("tool", checkOpaque), ("required_caps", set capabilities maxCapabilities),
    ("conf_clearance", enum confLevels), ("integ_floor", enum integLevels),
    ("integ_inspect", enum integLevels), ("output_conf", enum confLevels),
    ("output_integ", enum integLevels), ("declared_egress", set egressKinds maxEgressKinds),
    ("policy_digest", checkOpaque)]

def inspection : Check Refusal := struct "Elixir.ExArgus.Kernel.Types.InspectionAttestation"
  [("id", checkOpaque), ("inv", checkOpaque), ("challenge", checkOpaque), ("args_hash", checkOpaque),
    ("policy_digest", checkOpaque), ("positive", boolean)]

def resolution : Check Refusal := struct "Elixir.ExArgus.Kernel.Types.ResolutionAttestation"
  [("id", checkOpaque), ("inv", checkOpaque), ("outcome", enum outcomes)]

def optionalResolution : Check Refusal := resolution.optional

def evidence : Check Refusal := struct "Elixir.ExArgus.Kernel.Types.ConformanceAttestation"
  [("id", checkOpaque), ("output", checkOpaque), ("src", checkOpaque), ("rcv", checkOpaque),
    ("descriptor", checkOpaque), ("assignment", checkOpaque), ("positive", boolean)]

def optionalEvidence : Check Refusal := evidence.optional

def crossInput : Check Refusal := struct "Elixir.ExArgus.Kernel.Types.CrossInput"
  [("src", checkOpaque), ("rcv", checkOpaque), ("crossing", checkOpaque), ("output_hash", checkOpaque),
    ("descriptor", checkOpaque), ("fallback", enum ["fail", "release_unendorsed"]),
    ("t_integ", enum integLevels), ("t_conf", optionalEnum confLevels), ("assignment", checkOpaque),
    ("evidence", optionalEvidence), ("released_conf", enum confLevels),
    ("released_integ", enum integLevels)]

def commandModule : CommandName → String
  | .registerTool => "Elixir.ExArgus.Command.RegisterTool"
  | .unregisterTool => "Elixir.ExArgus.Command.UnregisterTool"
  | .delegate => "Elixir.ExArgus.Command.Delegate"
  | .grantCapability => "Elixir.ExArgus.Command.GrantCapability"
  | .grantCrossing => "Elixir.ExArgus.Command.GrantCrossing"
  | .revoke => "Elixir.ExArgus.Command.Revoke"
  | .cascadeRevoke => "Elixir.ExArgus.Command.CascadeRevoke"
  | .ingest => "Elixir.ExArgus.Command.Ingest"
  | .beginInvocation => "Elixir.ExArgus.Command.BeginInvocation"
  | .authorizeInspected => "Elixir.ExArgus.Command.AuthorizeInspected"
  | .settleInvocation => "Elixir.ExArgus.Command.SettleInvocation"
  | .crossOutput => "Elixir.ExArgus.Command.CrossOutput"

def commandFields : CommandName → List (String × Check Refusal)
  | .registerTool => [("tool", checkOpaque)]
  | .unregisterTool => [("tool", checkOpaque)]
  | .delegate => [("grantor", checkOpaque), ("grantee", checkOpaque)]
  | .grantCapability => [("parent", checkOpaque), ("child", checkOpaque), ("cap", enum capabilities)]
  | .grantCrossing =>
    [("grantor", checkOpaque), ("agent", checkOpaque), ("assignment", checkOpaque), ("n", u32)]
  | .revoke => [("parent", checkOpaque), ("target", checkOpaque)]
  | .cascadeRevoke => [("child", checkOpaque), ("parent", checkOpaque)]
  | .ingest => [("agent", checkOpaque), ("src", optionalOpaque), ("pconf", enum confLevels),
      ("pinteg", enum integLevels)]
  | .beginInvocation => [("agent", checkOpaque), ("inv", checkOpaque), ("challenge", checkOpaque),
      ("policy", policy), ("egress", set egressKinds maxEgressKinds), ("args_hash", checkOpaque),
      ("authorized", boolean)]
  | .authorizeInspected => [("inv", checkOpaque), ("attestation", inspection)]
  | .settleInvocation =>
    [("inv", checkOpaque), ("outcome", enum outcomes), ("resolution", optionalResolution)]
  | .crossOutput => [("input", crossInput)]

def command (value : Term) : Except Refusal Term :=
  match CommandName.all.find? fun name => value.isStruct (commandModule name) with
  | some name => struct (commandModule name) (commandFields name) value []
  | none => .error (boundaryError .invalidStruct [])

/-- The validation of a named transition's command; another transition's struct is refused. -/
def commandFor (expected : CommandName) (value : Term) : Except Refusal Term :=
  if value.isStruct (commandModule expected) then command value
  else .error (boundaryError .invalidStruct [])

def quarantineResolution (value : Term) : Except Refusal Term :=
  if value.isStruct (commandModule .settleInvocation) then do
    let normalized ← commandFor .settleInvocation value
    let _ ← enum ["success", "failure"] (normalized.get "outcome") [.field "outcome"]
    return normalized
  else .error (boundaryError .invalidStruct [])

def actionModule : CommandName → String
  | .registerTool => "Elixir.ExArgus.Kernel.Action.RegisterTool"
  | .unregisterTool => "Elixir.ExArgus.Kernel.Action.UnregisterTool"
  | .delegate => "Elixir.ExArgus.Kernel.Action.Delegate"
  | .grantCapability => "Elixir.ExArgus.Kernel.Action.GrantCapability"
  | .grantCrossing => "Elixir.ExArgus.Kernel.Action.GrantCrossing"
  | .revoke => "Elixir.ExArgus.Kernel.Action.Revoke"
  | .cascadeRevoke => "Elixir.ExArgus.Kernel.Action.CascadeRevoke"
  | .ingest => "Elixir.ExArgus.Kernel.Action.Ingest"
  | .beginInvocation => "Elixir.ExArgus.Kernel.Action.BeginInvocation"
  | .authorizeInspected => "Elixir.ExArgus.Kernel.Action.AuthorizeInspected"
  | .settleInvocation => "Elixir.ExArgus.Kernel.Action.SettleInvocation"
  | .crossOutput => "Elixir.ExArgus.Kernel.Action.CrossOutput"

def actionFields : CommandName → List (String × Check Refusal)
  | .registerTool => [("tool", checkOpaque)]
  | .unregisterTool => [("tool", checkOpaque)]
  | .delegate => [("grantor", checkOpaque), ("grantee", checkOpaque)]
  | .grantCapability => [("parent", checkOpaque), ("child", checkOpaque), ("cap", enum capabilities)]
  | .grantCrossing =>
    [("grantor", checkOpaque), ("agent", checkOpaque), ("assignment", checkOpaque), ("n", u32)]
  | .revoke => [("parent", checkOpaque), ("target", checkOpaque)]
  | .cascadeRevoke => [("child", checkOpaque), ("parent", checkOpaque)]
  | .ingest => [("agent", checkOpaque), ("src", optionalOpaque), ("pconf", enum confLevels),
      ("pinteg", enum integLevels), ("disposition", enum dispositions)]
  | .beginInvocation => [("agent", checkOpaque), ("inv", checkOpaque), ("tool", checkOpaque),
      ("verdict", enum ["allow", "inspection_required", "deny"]), ("authorized", boolean)]
  | .authorizeInspected => [("inv", checkOpaque), ("attestation", checkOpaque), ("admitted", boolean)]
  | .settleInvocation => [("inv", checkOpaque), ("agent", checkOpaque), ("disposition", enum dispositions),
      ("outcome", enum outcomes), ("clvl", enum confLevels), ("ilvl", enum integLevels),
      ("resolution", optionalOpaque)]
  | .crossOutput => [("src", checkOpaque), ("rcv", checkOpaque), ("crossing", checkOpaque),
      ("branch", enum ["endorsed", "unendorsed", "fail"]), ("disposition", enum dispositions)]

def action : Check Refusal := fun value path =>
  match CommandName.all.find? fun name => value.isStruct (actionModule name) with
  | some name => struct (actionModule name) (actionFields name) value path
  | none => .error (boundaryError .invalidStruct path)

/-- The first egress kind, if any, whose ceiling is neither `nil` nor a level. -/
def badCeiling (value : Term) : Option String :=
  egressKinds.find? fun kind =>
    match value.get kind with
    | .atom level => level ∉ "nil" :: confLevels
    | _ => true

def ceiling : Check Refusal := fun value path =>
  match value with
  | .map _ _ =>
    if value.exactKeys egressKinds then
      match badCeiling value with
      | none => .ok value
      | some kind => .error (boundaryError .unknownEnum (path ++ [.field kind]))
    else .error (boundaryError .invalidKeys path)
  | _ => .error (boundaryError .invalidType path)

def background (value : Term) : Except Refusal Term :=
  struct "Elixir.ExArgus.Kernel.Background"
    [("mode", enum ["enforce", "monitor"]), ("allow_ceiling", ceiling), ("inspect_ceiling", ceiling)]
    value []

def putIndex {α : Type} (result : Except Refusal α) (index : Nat) : Except Refusal α :=
  result.mapError fun e => { e with index := some index }

def checkedRecoveryCount (index : Nat) : Except Refusal Unit :=
  if index < maxRecoveryEnvelopes then .ok ()
  else .error { boundaryError .capacityExceeded [] with index := some index }

def checkedReplayContent (total bytes : Nat) : Except Refusal Nat :=
  if total ≤ maxReplayContentBytes ∧ bytes ≤ maxReplayContentBytes - total then .ok (total + bytes)
  else .error (boundaryError .capacityExceeded [])

/-- The size of a binary; `nil` counts nothing. -/
def bytes : Term → Nat
  | .binary bytes => bytes.size
  | _ => 0

def policyContent (policy : Term) : Nat := bytes (policy.get "tool") + bytes (policy.get "policy_digest")

def inspectionContent (attestation : Term) : Nat :=
  bytes (attestation.get "id") + bytes (attestation.get "inv") + bytes (attestation.get "challenge") +
    bytes (attestation.get "args_hash") + bytes (attestation.get "policy_digest")

def resolutionContent (resolution : Term) : Nat :=
  if resolution.isNil then 0 else bytes (resolution.get "id") + bytes (resolution.get "inv")

def evidenceContent (evidence : Term) : Nat :=
  if evidence.isNil then 0 else
    bytes (evidence.get "id") + bytes (evidence.get "output") + bytes (evidence.get "src") +
      bytes (evidence.get "rcv") + bytes (evidence.get "descriptor") + bytes (evidence.get "assignment")

def crossContent (input : Term) : Nat :=
  bytes (input.get "src") + bytes (input.get "rcv") + bytes (input.get "crossing") +
    bytes (input.get "output_hash") + bytes (input.get "descriptor") + bytes (input.get "assignment") +
    evidenceContent (input.get "evidence")

def commandContent (value : Term) : Nat :=
  match CommandName.all.find? fun name => value.isStruct (commandModule name) with
  | some .registerTool => bytes (value.get "tool")
  | some .unregisterTool => bytes (value.get "tool")
  | some .delegate => bytes (value.get "grantor") + bytes (value.get "grantee")
  | some .grantCapability => bytes (value.get "parent") + bytes (value.get "child")
  | some .grantCrossing =>
    bytes (value.get "grantor") + bytes (value.get "agent") + bytes (value.get "assignment")
  | some .revoke => bytes (value.get "parent") + bytes (value.get "target")
  | some .cascadeRevoke => bytes (value.get "child") + bytes (value.get "parent")
  | some .ingest => bytes (value.get "agent") + bytes (value.get "src")
  | some .beginInvocation =>
    bytes (value.get "agent") + bytes (value.get "inv") + bytes (value.get "challenge") +
      policyContent (value.get "policy") + bytes (value.get "args_hash")
  | some .authorizeInspected => bytes (value.get "inv") + inspectionContent (value.get "attestation")
  | some .settleInvocation => bytes (value.get "inv") + resolutionContent (value.get "resolution")
  | some .crossOutput => crossContent (value.get "input")
  | none => 0

def actionContent (value : Term) : Nat :=
  match CommandName.all.find? fun name => value.isStruct (actionModule name) with
  | some .registerTool => bytes (value.get "tool")
  | some .unregisterTool => bytes (value.get "tool")
  | some .delegate => bytes (value.get "grantor") + bytes (value.get "grantee")
  | some .grantCapability => bytes (value.get "parent") + bytes (value.get "child")
  | some .grantCrossing =>
    bytes (value.get "grantor") + bytes (value.get "agent") + bytes (value.get "assignment")
  | some .revoke => bytes (value.get "parent") + bytes (value.get "target")
  | some .cascadeRevoke => bytes (value.get "child") + bytes (value.get "parent")
  | some .ingest => bytes (value.get "agent") + bytes (value.get "src")
  | some .beginInvocation => bytes (value.get "agent") + bytes (value.get "inv") + bytes (value.get "tool")
  | some .authorizeInspected => bytes (value.get "inv") + bytes (value.get "attestation")
  | some .settleInvocation =>
    bytes (value.get "inv") + bytes (value.get "agent") + bytes (value.get "resolution")
  | some .crossOutput => bytes (value.get "src") + bytes (value.get "rcv") + bytes (value.get "crossing")
  | none => 0

def envelopeContent (command action : Term) : Except Refusal Nat := do
  let content ← checkedReplayContent 0 64
  let content ← checkedReplayContent content (commandContent command)
  checkedReplayContent content (actionContent action)

def recoveryVersion (index : Option Nat) : Check Refusal := fun value _ =>
  match value with
  | .integer n => if n = 5 then .ok value else .error ⟨.recovery, .invalidVersion, [], index⟩
  | _ => .error ⟨.recovery, .invalidVersion, [], index⟩

def envelopeSequence : Check Refusal := fun value path =>
  match value with
  | .integer n =>
    if 0 < n ∧ n ≤ maxAcceptedSequence.toNat then .ok value
    else .error (boundaryError .integerOutOfRange path)
  | _ => .error (boundaryError .integerOutOfRange path)

def chainSequence : Check Refusal := fun value path =>
  match value with
  | .integer n =>
    if 0 ≤ n ∧ n ≤ maxAcceptedSequence.toNat then .ok value
    else .error (boundaryError .integerOutOfRange path)
  | _ => .error (boundaryError .integerOutOfRange path)

def digest : Check Refusal := fun value path =>
  match value with
  | .binary bytes => if bytes.size = 32 then .ok value else .error (boundaryError .invalidType path)
  | _ => .error (boundaryError .invalidType path)

def envelopeCommand : Check Refusal := fun value path =>
  (command value).mapError fun e => { e with path := path ++ e.path }

def envelope (recorded : Term) (index : Nat) : Except Refusal (Term × Nat) :=
  putIndex (do
    let normalized ← struct "Elixir.ExArgus.Envelope"
      [("version", recoveryVersion (some index)), ("sequence", envelopeSequence),
        ("previous_digest", digest), ("digest", digest), ("command", envelopeCommand), ("action", action)]
      recorded []
    let content ← envelopeContent (normalized.get "command") (normalized.get "action")
    return (normalized, content)) index

def declaredSequence (sequence : Term) (index : Nat) : Except Refusal Unit :=
  match sequence with
  | .integer n => if n = index + 1 then .ok () else .error ⟨.recovery, .sequenceMismatch, [], some index⟩
  | _ => .error ⟨.recovery, .sequenceMismatch, [], some index⟩

/-- Whether two terms are the same binary. -/
def sameBinary : Term → Term → Bool
  | .binary bytes, .binary bytes' => bytes.data = bytes'.data
  | _, _ => false

def predecessor (previousDigest : Term) (expected : Option Term) (index : Nat) : Except Refusal Unit :=
  match expected with
  | none => if index = 0 then .ok () else .error ⟨.recovery, .previousDigestMismatch, [], some index⟩
  | some digest =>
    if sameBinary previousDigest digest then .ok ()
    else .error ⟨.recovery, .previousDigestMismatch, [], some index⟩

def history : Term → Nat → Option Term → Nat → List Term → Except Refusal (List Term × Nat × Option Term)
  | .empty, index, lastDigest, _, normalized => .ok (normalized.reverse, index, lastDigest)
  | .cons recorded tail, index, lastDigest, content, normalized => do
    checkedRecoveryCount index
    let (checked, bytes) ← envelope recorded index
    declaredSequence (checked.get "sequence") index
    predecessor (checked.get "previous_digest") lastDigest index
    let next ← putIndex (checkedReplayContent content bytes) index
    history tail (index + 1) (some (checked.get "digest")) next (checked :: normalized)
  | _, index, _, _, _ => .error { boundaryError .invalidType [] with index := some index }

def chain (expected : Term) : Except Refusal Term :=
  struct "Elixir.ExArgus.Chain"
    [("version", recoveryVersion none), ("sequence", chainSequence), ("head", digest)] expected []

def expectedSequence (declared : Term) (actual : Nat) : Except Refusal Unit :=
  match declared with
  | .integer n => if n = actual then .ok () else .error ⟨.recovery, .sequenceMismatch, [], none⟩
  | _ => .error ⟨.recovery, .sequenceMismatch, [], none⟩

def expectedHead (head : Term) (lastDigest : Option Term) : Except Refusal Unit :=
  match lastDigest with
  | none => .ok ()
  | some digest =>
    if sameBinary head digest then .ok () else .error ⟨.recovery, .finalAnchorMismatch, [], none⟩

def recovery (bg recorded expected : Term) : Except Refusal (Term × List Term × Term) := do
  let bg ← background bg
  let (normalized, length, lastDigest) ← history recorded 0 none 0 []
  let expected ← chain expected
  expectedSequence (expected.get "sequence") length
  expectedHead (expected.get "head") lastDigest
  return (bg, normalized, expected)

end Terms

end ExArgus
