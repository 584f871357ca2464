import Einsof.Base.Fallible
import Einsof.Native.Limits
import Einsof.Native.State

namespace Argus

structure InstanceState where
  kernel : KernelState
  sequence : UInt64
  head : DigestN
  deriving DecidableEq

/-- A live instance. Calls are served one at a time: the lock is the order of the calls. -/
structure LiveInstance where
  background : BackgroundTheory
  inner : InstanceState
  deriving DecidableEq

/-- A recovery in progress; finalizing empties the slot. -/
structure RecoveryInstance where
  background : BackgroundTheory
  inner : Option InstanceState
  deriving DecidableEq

structure Applied where
  next : InstanceState
  envelope : EnvelopeN

variable (sha256 : List UInt8 → DigestN)

def InstanceState.initial (background : BackgroundN) : InstanceState :=
  ⟨KernelState.initial, 0, genesis sha256 background⟩

def applyWithoutCommit (current : InstanceState) (background : BackgroundTheory) (command : CommandN) :
    Except ErrorN Applied := do
  preflight current.kernel current.sequence command
  let sequence ← checkedSucc current.sequence
  let (kernel, action) ← (command.apply current.kernel background).mapError ErrorN.kernel
  let digest := link sha256 current.head sequence command action
  return ⟨⟨kernel, sequence, digest⟩, ⟨version, sequence, current.head, digest, command, action⟩⟩

namespace LiveInstance

def new (background : BackgroundN) : LiveInstance :=
  ⟨background.intoKernel, InstanceState.initial sha256 background⟩

def status (live : LiveInstance) : ChainN := ⟨version, live.inner.sequence, live.inner.head⟩

def state (live : LiveInstance) : Except ErrorN StateN := do
  checkState live.inner.kernel
  return StateN.fromKernel live.inner.kernel

def apply (live : LiveInstance) (command : CommandN) : LiveInstance × Except ErrorN EnvelopeN :=
  match applyWithoutCommit sha256 live.inner live.background command with
  | .ok applied => ({ live with inner := applied.next }, .ok applied.envelope)
  | .error e => (live, .error e)

def serve (live : LiveInstance) : List CommandN → LiveInstance × List (Except ErrorN EnvelopeN)
  | [] => (live, [])
  | command :: commands =>
    let (next, answer) := live.apply sha256 command
    let (last, answers) := next.serve commands
    (last, answer :: answers)

end LiveInstance

namespace RecoveryInstance

def new (background : BackgroundN) : RecoveryInstance :=
  ⟨background.intoKernel, some (InstanceState.initial sha256 background)⟩

/-- The state that a recorded envelope leads to, if every field of it is the derived one. -/
def verify (background : BackgroundTheory) (current : InstanceState) (recorded : EnvelopeN) :
    Except ErrorN InstanceState := do
  checkRecoveryLink current.kernel current.sequence
  if recorded.version ≠ version then .error .invalidVersion else .ok ()
  let expectedSequence ← checkedSucc current.sequence
  if recorded.sequence ≠ expectedSequence then .error .sequenceMismatch else .ok ()
  if recorded.previousDigest ≠ current.head then .error .previousDigestMismatch else .ok ()
  let applied ← (applyWithoutCommit sha256 current background recorded.command).mapError fun
    | .kernel cause => .replayRefused cause
    | other => other
  if applied.envelope.action ≠ recorded.action then .error .actionMismatch else .ok ()
  if applied.envelope.digest ≠ recorded.digest then .error .digestMismatch else .ok ()
  return applied.next

def replay (recovery : RecoveryInstance) (recorded : EnvelopeN) : RecoveryInstance × Except ErrorN Unit :=
  match recovery.inner with
  | none => (recovery, .error .recoveryConsumed)
  | some current =>
    match verify sha256 recovery.background current recorded with
    | .ok next => ({ recovery with inner := some next }, .ok ())
    | .error e => (recovery, .error e)

def finalize (recovery : RecoveryInstance) (expected : ChainN) :
    RecoveryInstance × Except ErrorN LiveInstance :=
  match recovery.inner with
  | none => (recovery, .error .recoveryConsumed)
  | some current =>
    if expected.version ≠ version then (recovery, .error .invalidVersion) else
    if expected.sequence ≠ current.sequence ∨ expected.head ≠ current.head then
      (recovery, .error .finalAnchorMismatch) else
    ({ recovery with inner := none }, .ok ⟨recovery.background, current⟩)

end RecoveryInstance

open Fallible

/-- The chain as a machine: a command extends it by one envelope or is refused. -/
def chain (background : BackgroundN) : Machine InstanceState CommandN EnvelopeN ErrorN where
  start := InstanceState.initial sha256 background
  step current command := (applyWithoutCommit sha256 current background.intoKernel command).map
    fun applied => (applied.next, applied.envelope)

variable {sha256} {background : BackgroundN} {current next : InstanceState} {command : CommandN}
  {envelope : EnvelopeN}

theorem applyWithoutCommit_ok {theory : BackgroundTheory} {applied : Applied} :
    applyWithoutCommit sha256 current theory command = .ok applied ↔
      preflight current.kernel current.sequence command = .ok () ∧
      ∃ sequence, checkedSucc current.sequence = .ok sequence ∧
      ∃ kernel action, command.apply current.kernel theory = .ok (kernel, action) ∧
        applied = ⟨⟨kernel, sequence, link sha256 current.head sequence command action⟩,
          ⟨version, sequence, current.head, link sha256 current.head sequence command action, command,
            action⟩⟩ := by
  simp only [applyWithoutCommit, bind_ok, mapError_ok, pure_ok, Prod.exists]
  constructor
  · intro facts
    rcases facts with ⟨_, ready, sequence, next, kernel, action, committed, rfl⟩
    exact ⟨ready, sequence, next, kernel, action, committed, rfl⟩
  · intro facts
    rcases facts with ⟨ready, sequence, next, kernel, action, committed, rfl⟩
    exact ⟨(), ready, sequence, next, kernel, action, committed, rfl⟩

theorem chain_step : (chain sha256 background).step current command = .ok (next, envelope) ↔
    applyWithoutCommit sha256 current background.intoKernel command = .ok ⟨next, envelope⟩ := by
  simp only [chain, map_ok, Prod.mk.injEq]
  exact ⟨fun ⟨applied, done, same, same'⟩ => same ▸ same' ▸ done, fun done => ⟨_, done, rfl, rfl⟩⟩

variable (sha256 background) in
theorem LiveInstance.apply_eq (current : InstanceState) (command : CommandN) :
    (LiveInstance.mk background.intoKernel current).apply sha256 command =
      match (chain sha256 background).step current command with
      | .ok (next, envelope) => (⟨background.intoKernel, next⟩, .ok envelope)
      | .error e => (⟨background.intoKernel, current⟩, .error e) := by
  simp only [apply, chain]
  cases applyWithoutCommit sha256 current background.intoKernel command <;> rfl

theorem LiveInstance.serve_state (current : InstanceState) (commands : List CommandN) :
    ((LiveInstance.mk background.intoKernel current).serve sha256 commands).1 =
      ⟨background.intoKernel, ((chain sha256 background).drive current commands).1⟩ := by
  induction commands generalizing current with
  | nil => rfl
  | cons command commands ih =>
    have first := apply_eq sha256 background current command
    cases answer : (chain sha256 background).step current command <;> rw [answer] at first <;>
      simp only [serve, first, Machine.drive, answer, ih]

end Argus
