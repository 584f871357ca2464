import Einsof.Native.Wire

namespace ExArgus

open Argus

inductive ErrorClass
  | boundary
  | kernel
  | recovery
  | internal
  deriving DecidableEq, Repr

inductive Reason
  | invalidType
  | invalidStruct
  | invalidKeys
  | invalidUtf8
  | emptyValue
  | valueTooLarge
  | unknownEnum
  | duplicateValue
  | integerOutOfRange
  | capacityExceeded
  | sequenceExhausted
  | instanceBusy
  | kernel (cause : KernelError)
  | invalidVersion
  | sequenceMismatch
  | previousDigestMismatch
  | actionMismatch
  | digestMismatch
  | replayRefused
  | recoveryConsumed
  | finalAnchorMismatch
  | resourcePoisoned
  | nativeContractViolation
  deriving DecidableEq, Repr

inductive Field
  | allowCeiling
  | inspectCeiling
  | sequence
  | command
  | action
  | tool
  | grantor
  | grantee
  | parent
  | child
  | agent
  | assignment
  | target
  | src
  | inv
  | challenge
  | policy
  | requiredCaps
  | declaredEgress
  | policyDigest
  | egress
  | argsHash
  | attestation
  | id
  | resolution
  | input
  | rcv
  | crossing
  | outputHash
  | descriptor
  | evidence
  | output
  | outcome
  deriving DecidableEq, Repr

structure Error where
  errorClass : ErrorClass
  reason : Reason
  path : List Field
  index : Option Nat
  cause : Option KernelError
  deriving DecidableEq, Repr

namespace Error

def boundary (reason : Reason) (path : List Field) : Error := ⟨.boundary, reason, path, none, none⟩

def recovery (reason : Reason) (index : Option Nat) : Error := ⟨.recovery, reason, [], index, none⟩

def internal (reason : Reason) (index : Option Nat) : Error := ⟨.internal, reason, [], index, none⟩

def fromNative : ErrorN → Error
  | .kernel cause => ⟨.kernel, .kernel cause, [], none, none⟩
  | .instanceBusy => boundary .instanceBusy []
  | .capacityExceeded => boundary .capacityExceeded []
  | .sequenceExhausted => boundary .sequenceExhausted []
  | .resourcePoisoned => internal .resourcePoisoned none
  | _ => internal .nativeContractViolation none

def fromRecovery (reason : ErrorN) (index : Option Nat) : Error :=
  match reason with
  | .invalidVersion => recovery .invalidVersion index
  | .sequenceMismatch => recovery .sequenceMismatch index
  | .previousDigestMismatch => recovery .previousDigestMismatch index
  | .actionMismatch => recovery .actionMismatch index
  | .digestMismatch => recovery .digestMismatch index
  | .recoveryConsumed => recovery .recoveryConsumed index
  | .finalAnchorMismatch => recovery .finalAnchorMismatch index
  | .replayRefused cause => ⟨.recovery, .replayRefused, [], index, some cause⟩
  | .instanceBusy => ⟨.boundary, .instanceBusy, [], index, none⟩
  | .capacityExceeded => ⟨.boundary, .capacityExceeded, [], index, none⟩
  | .sequenceExhausted => ⟨.boundary, .sequenceExhausted, [], index, none⟩
  | .resourcePoisoned => internal .resourcePoisoned index
  | .kernel _ => internal .nativeContractViolation index

end Error

end ExArgus
