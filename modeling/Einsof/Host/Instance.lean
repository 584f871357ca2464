import Einsof.Host.Validation
import Einsof.Native.Instance

namespace ExArgus

open Argus

/-- A transition as it is issued: one of the twelve commands, or the quarantine helper, which settles
    with an ordinary outcome. -/
inductive Request
  | transition (command : CommandN)
  | resolveQuarantine (inv : String) (outcome : Outcome) (attestation : ResolutionAttestationN)
  deriving DecidableEq

def Request.validate : Request → Except Error CommandN
  | .transition command => Validation.command command
  | .resolveQuarantine inv outcome attestation =>
    Validation.quarantineResolution (.settleInvocation inv outcome (some attestation))

variable (sha256 : List UInt8 → DigestN)

namespace Instance

def new (background : BackgroundN) : Except Error LiveInstance := do
  let normalized ← Validation.background background
  return LiveInstance.new sha256 normalized

/-- What the adapter checks on an envelope before it hands it out. -/
def exactEnvelope (envelope : EnvelopeN) (command : CommandN) : Bool :=
  decide (envelope.version = 5) && decide (0 < envelope.sequence ∧ envelope.sequence ≤ maxAcceptedSequence) &&
    decide (envelope.command = command)

def transition (live : LiveInstance) (request : Request) : LiveInstance × Except Error EnvelopeN :=
  match request.validate with
  | .error e => (live, .error e)
  | .ok normalized =>
    match live.apply sha256 normalized with
    | (next, .ok envelope) =>
      (next, if exactEnvelope envelope normalized then .ok envelope
        else .error (.internal .nativeContractViolation none))
    | (next, .error reason) => (next, .error (.fromNative reason))

/-- Transitions issued in order, with the envelopes of those accepted. -/
def issue (live : LiveInstance) : List Request → LiveInstance × List EnvelopeN
  | [] => (live, [])
  | request :: requests =>
    match transition sha256 live request with
    | (next, .ok envelope) => ((issue next requests).1, envelope :: (issue next requests).2)
    | (next, .error _) => issue next requests

def replayHistory (recovery : RecoveryInstance) : List EnvelopeN → Nat → Except Error RecoveryInstance
  | [], _ => .ok recovery
  | recorded :: rest, index =>
    match recovery.replay sha256 recorded with
    | (next, .ok _) => replayHistory next rest (index + 1)
    | (_, .error reason) => .error (.fromRecovery reason (some index))

def recoveryFinalize (recovery : RecoveryInstance) (expected : ChainN) : Except Error LiveInstance :=
  (recovery.finalize expected).2.mapError (Error.fromRecovery · none)

def recover (background : BackgroundN) (history : List EnvelopeN) (expected : ChainN) :
    Except Error LiveInstance := do
  let (normalized, history) ← Validation.recovery background history expected
  let recovery ← replayHistory sha256 (RecoveryInstance.new sha256 normalized) history 0
  recoveryFinalize recovery expected

end Instance

end ExArgus
