import Einsof.Base.TryLock
import Einsof.Native.Crossing
import Einsof.Native.Recovery

namespace Argus

open TryLock

/-- A call on a live resource. Any process may make one at any time; a taken lock answers
    `InstanceBusy`, a poisoned one `ResourcePoisoned`, and a panic under the lock raises. -/
inductive LiveCall
  | apply (command : CommandN)
  | status
  | state

inductive LiveAnswer
  | applied (result : Except ErrorN EnvelopeN)
  | status (chain : ChainN)
  | observed (result : Except ErrorN StateN)

inductive RecoveryCall
  | replay (recorded : EnvelopeN)
  | finalize (expected : ChainN)

inductive RecoveryAnswer
  | replayed (result : Except ErrorN Unit)
  | finalized (result : Except ErrorN LiveInstance)

variable (sha256 : List UInt8 → DigestN)

def LiveInstance.perform (live : LiveInstance) : LiveCall → LiveInstance × LiveAnswer
  | .apply command => ((live.apply sha256 command).1, .applied (live.apply sha256 command).2)
  | .status => (live, .status live.status)
  | .state => (live, .observed live.state)

def RecoveryInstance.perform (recovery : RecoveryInstance) : RecoveryCall → RecoveryInstance × RecoveryAnswer
  | .replay recorded => ((recovery.replay sha256 recorded).1, .replayed (recovery.replay sha256 recorded).2)
  | .finalize expected => ((recovery.finalize expected).1, .finalized (recovery.finalize expected).2)

/-- The envelopes that recovery calls verified, in the order in which they took effect. -/
def verified (calls : List (RecoveryCall × RecoveryAnswer)) : List EnvelopeN :=
  calls.filterMap fun
    | (.replay recorded, .replayed (.ok _)) => some recorded
    | _ => none

variable {sha256} {background : BackgroundN} {Caller : Type} [DecidableEq Caller]

def mailerEnvelope : EnvelopeN :=
  ⟨version, 1, zeroDigest [], zeroDigest [], .registerTool "mailer", .registerTool "mailer"⟩

def mailerInstance : LiveInstance :=
  ((LiveInstance.new zeroDigest plainBackground).apply zeroDigest (.registerTool "mailer")).1

section Recovery

variable {theory : BackgroundTheory} {current : InstanceState}

def consumed : RecoveryCall → RecoveryAnswer
  | .replay _ => .replayed (.error .recoveryConsumed)
  | .finalize _ => .finalized (.error .recoveryConsumed)

theorem serially_consumed (calls : List RecoveryCall) :
    serially (RecoveryInstance.perform sha256) ⟨theory, none⟩ calls = (⟨theory, none⟩, calls.map consumed) := by
  induction calls with
  | nil => rfl
  | cons call calls ih =>
    cases call <;> simp [serially, RecoveryInstance.perform, RecoveryInstance.replay, RecoveryInstance.finalize,
      ih, consumed]

theorem finalize_empties {expected : ChainN} {live : LiveInstance}
    (done : ((RecoveryInstance.mk theory (some current)).finalize expected).2 = .ok live) :
    ((RecoveryInstance.mk theory (some current)).finalize expected).1 = ⟨theory, none⟩ := by
  simp only [RecoveryInstance.finalize] at done ⊢
  by_cases old : expected.version ≠ version
  · rw [if_pos old] at done
    cases done
  · by_cases anchor : expected.sequence ≠ current.sequence ∨ expected.head ≠ current.head
    · rw [if_neg old, if_pos anchor] at done
      cases done
    · rw [if_neg old, if_neg anchor]

theorem serially_recovery {history : List (CommandN × EnvelopeN)} {current : InstanceState}
    (run : (chain sha256 background).Run history current) {recovery : RecoveryInstance}
    {before after : List (RecoveryCall × RecoveryAnswer)} {expected : ChainN} {live : LiveInstance}
    (served : serially (RecoveryInstance.perform sha256) ⟨background.intoKernel, some current⟩
        ((before ++ (.finalize expected, .finalized (.ok live)) :: after).map Prod.fst) =
      (recovery, (before ++ (.finalize expected, .finalized (.ok live)) :: after).map Prod.snd)) :
    live.status = expected ∧
      (∃ more, (chain sha256 background).Run (history ++ more) live.inner ∧
        more.map Prod.snd = verified before) ∧
      after.map Prod.snd = (after.map Prod.fst).map consumed := by
  induction before generalizing history current with
  | nil =>
    simp only [List.nil_append, List.map_cons, serially, RecoveryInstance.perform, Prod.mk.injEq,
      List.cons.injEq, RecoveryAnswer.finalized.injEq] at served
    obtain ⟨-, handed, rest⟩ := served
    obtain ⟨rfl, status⟩ := RecoveryInstance.finalize_ok.mp handed
    rw [finalize_empties handed, serially_consumed] at rest
    exact ⟨status, ⟨[], by simpa using run, rfl⟩, rest.symm⟩
  | cons first before ih =>
    rcases first with ⟨call, answer⟩
    cases call with
    | replay recorded =>
      cases checked : RecoveryInstance.verify sha256 background.intoKernel current recorded with
      | error e =>
        simp only [List.cons_append, List.map_cons, serially, RecoveryInstance.perform,
          RecoveryInstance.replay, checked, Prod.mk.injEq, List.cons.injEq] at served
        obtain ⟨final, rfl, rest⟩ := served
        exact ih run (Prod.ext final rest)
      | ok next =>
        simp only [List.cons_append, List.map_cons, serially, RecoveryInstance.perform,
          RecoveryInstance.replay, checked, Prod.mk.injEq, List.cons.injEq] at served
        obtain ⟨final, rfl, rest⟩ := served
        have linked := chain_step.mpr (RecoveryInstance.verify_ok.mp checked)
        obtain ⟨status, ⟨more, longer, handed⟩, spent⟩ := ih (run.step linked) (Prod.ext final rest)
        exact ⟨status, ⟨(recorded.command, recorded) :: more, by simpa using longer,
          by simpa [verified] using handed⟩, spent⟩
    | finalize chain =>
      simp only [List.cons_append, List.map_cons, serially, RecoveryInstance.perform, Prod.mk.injEq,
        List.cons.injEq] at served
      obtain ⟨final, rfl, rest⟩ := served
      cases done : ((RecoveryInstance.mk background.intoKernel (some current)).finalize chain).2 with
      | error e =>
        rw [RecoveryInstance.finalize_refused done] at final rest
        exact ih run (Prod.ext final rest)
      | ok live' =>
        rw [finalize_empties done, serially_consumed] at rest
        simp only [List.map_append, List.map_map, List.map_cons] at rest
        cases (List.append_inj rest (by simp)).2

end Recovery

/-- However the calls on a recovery resource interleave, the instance is handed out once: built from the
    envelopes verified before, with the expected status, and every later call is refused. -/
theorem RecoveryInstance.handed_out_once
    {moves : List (Move Caller RecoveryCall RecoveryAnswer)}
    {c : Config Caller RecoveryInstance RecoveryCall RecoveryAnswer}
    (run : Run (perform sha256) (.start (new sha256 background)) moves c)
    {before after : List (RecoveryCall × RecoveryAnswer)} {expected : ChainN} {live : LiveInstance}
    (handed : effects moves = before ++ (.finalize expected, .finalized (.ok live)) :: after) :
    live.status = expected ∧
      (∃ history, (chain sha256 background).Run history live.inner ∧
        history.map Prod.snd = verified before) ∧
      after.map Prod.snd = (after.map Prod.fst).map consumed := by
  have served := run.serial
  rw [handed] at served
  exact serially_recovery (Machine.Run.start : (chain sha256 background).Run [] _) served

def workerEnvelope : EnvelopeN :=
  ⟨version, 2, zeroDigest [], zeroDigest [], .delegate "root" "worker", .delegate "root" "worker"⟩

def restoredChain : ChainN := ⟨version, 2, zeroDigest []⟩

def restoredInstance : LiveInstance :=
  (mailerInstance.apply zeroDigest (.delegate "root" "worker")).1

def restoredEffects : List (RecoveryCall × RecoveryAnswer) :=
  [(.replay mailerEnvelope, .replayed (.ok ())), (.replay workerEnvelope, .replayed (.ok ())),
    (.finalize restoredChain, .finalized (.ok restoredInstance)),
    (.replay workerEnvelope, .replayed (.error .recoveryConsumed))]

/-- Two processes replay an envelope each, one of them turned away at first; one finalizes, and the other
    comes too late. -/
theorem RecoveryInstance.restored_run :
    ∃ moves, ∃ c : Config Bool RecoveryInstance RecoveryCall RecoveryAnswer,
      Run (perform zeroDigest) (.start (new zeroDigest plainBackground)) moves c ∧
        effects moves = restoredEffects := by
  have started : Run (perform zeroDigest) (.start (new zeroDigest plainBackground) :
    Config Bool RecoveryInstance RecoveryCall RecoveryAnswer) [] _ := .start
  have called : Run _ _ (_ ++ [.call false (RecoveryCall.replay mailerEnvelope)]) _ := started.step (.call rfl)
  have entered := called.step (.enter (t := false) rfl rfl rfl)
  have called : Run _ _ (_ ++ [.call true (RecoveryCall.replay workerEnvelope)]) _ := entered.step (.call rfl)
  have refused := called.step (.busy (t := true) rfl rfl)
  have read := refused.step (.read (t := false) rfl)
  have returned := read.step (.ret (t := true) rfl)
  have replayed := returned.step (.commit (t := false) rfl)
  have called : Run _ _ (_ ++ [.call true (RecoveryCall.replay workerEnvelope)]) _ := replayed.step (.call rfl)
  have released := called.step (.release (t := false) rfl)
  have entered := released.step (.enter (t := true) rfl rfl rfl)
  have returned := entered.step (.ret (t := false) rfl)
  have read := returned.step (.read (t := true) rfl)
  have replayed := read.step (.commit (t := true) rfl)
  have called : Run _ _ (_ ++ [.call false (RecoveryCall.finalize restoredChain)]) _ :=
    replayed.step (.call rfl)
  have released := called.step (.release (t := true) rfl)
  have entered := released.step (.enter (t := false) rfl rfl rfl)
  have returned := entered.step (.ret (t := true) rfl)
  have read := returned.step (.read (t := false) rfl)
  have called : Run _ _ (_ ++ [.call true (RecoveryCall.replay workerEnvelope)]) _ := read.step (.call rfl)
  have handed := called.step (.commit (t := false) rfl)
  have released := handed.step (.release (t := false) rfl)
  have entered := released.step (.enter (t := true) rfl rfl rfl)
  have read := entered.step (.read (t := true) rfl)
  exact ⟨_, _, read.step (.commit (t := true) rfl), rfl⟩

theorem RecoveryInstance.handed_out_once_sample :
    restoredInstance.status = restoredChain ∧
    (∃ history, (chain zeroDigest plainBackground).Run history restoredInstance.inner ∧
      history.map Prod.snd = [mailerEnvelope, workerEnvelope]) ∧
    (restoredEffects.drop 3).map Prod.snd = [consumed (.replay workerEnvelope)] := by
  obtain ⟨moves, c, run, told⟩ := restored_run
  exact handed_out_once run (show effects moves = restoredEffects.take 2 ++
    (.finalize restoredChain, .finalized (.ok restoredInstance)) :: restoredEffects.drop 3 from told)

end Argus
