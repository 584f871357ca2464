import Einsof.Native.Preflight

namespace Argus

open Fallible

variable (sha256 : List UInt8 → DigestN)

namespace RecoveryInstance

def feed (recovery : RecoveryInstance) : List EnvelopeN → RecoveryInstance × List (Except ErrorN Unit)
  | [] => (recovery, [])
  | recorded :: rest =>
    let (next, answer) := recovery.replay sha256 recorded
    let (last, answers) := next.feed rest
    (last, answer :: answers)

/-- The envelopes of a list of attempts that are not refused. -/
def accepted (recovery : RecoveryInstance) : List EnvelopeN → List EnvelopeN
  | [] => []
  | recorded :: rest =>
    match recovery.replay sha256 recorded with
    | (next, .ok _) => recorded :: next.accepted rest
    | (next, .error _) => next.accepted rest

/-- Every envelope replays and the finalization hands out the live instance. -/
structure Restores (recovery : RecoveryInstance) (history : List EnvelopeN) (expected : ChainN)
    (live : LiveInstance) : Prop where
  replayed : ∀ answer ∈ (recovery.feed sha256 history).2, answer = .ok ()
  finalized : ((recovery.feed sha256 history).1.finalize expected).2 = .ok live

end RecoveryInstance

variable {sha256} {theory : BackgroundTheory} {current next : InstanceState} {recorded : EnvelopeN}

theorem checkRecoveryLink_of_preflight {s : KernelState} {sequence : UInt64} {command : CommandN}
    (ready : preflight s sequence command = .ok ()) : checkRecoveryLink s sequence = .ok () := by
  obtain ⟨next, succ, below, text, fits, -⟩ := preflight_ok.mp ready
  simp only [checkRecoveryLink, bind_ok, check_ok, UInt64.not_lt]
  exact ⟨(), checkState_ok.mpr (checkedStateText_ok.mp fits).1, next, succ, below⟩

namespace RecoveryInstance

/-- A recorded envelope is verified exactly when the live path derives that very envelope. -/
theorem verify_ok : verify sha256 theory current recorded = .ok next ↔
    applyWithoutCommit sha256 current theory recorded.command = .ok ⟨next, recorded⟩ := by
  simp only [verify, bind_ok, refuse_ok, mapError_ok, pure_ok, not_not, ne_eq]
  constructor
  · intro facts
    rcases facts with ⟨_, -, sameVersion, expected, succ, sameSequence, sameHead, applied, derived, sameAction,
      sameDigest, rfl⟩
    rw [derived]
    obtain ⟨-, sequence, succ', kernel, action, -, rfl⟩ := applyWithoutCommit_ok.mp derived
    rw [succ] at succ'
    cases succ'
    cases recorded
    simp_all
  · intro derived
    obtain ⟨ready, sequence, succ, kernel, action, -, same⟩ := applyWithoutCommit_ok.mp derived
    simp only [Applied.mk.injEq] at same
    rcases same with ⟨-, same⟩
    refine ⟨(), checkRecoveryLink_of_preflight ready, ?_, sequence, succ, ?_, ?_, _, derived, rfl, rfl, rfl⟩ <;>
      rw [same]

theorem finalize_ok {expected : ChainN} {live : LiveInstance} :
    ((RecoveryInstance.mk theory (some current)).finalize expected).2 = .ok live ↔
      live = ⟨theory, current⟩ ∧ live.status = expected := by
  rcases expected with ⟨version', sequence, head⟩
  simp only [finalize, LiveInstance.status]
  split
  · rename_i wrong
    simp only [reduceCtorEq, false_iff, not_and, ChainN.mk.injEq]
    intro _ same
    exact absurd same.symm wrong
  · split
    · rename_i wrong
      simp only [reduceCtorEq, false_iff, not_and]
      intro restored same
      subst restored
      cases same
      simp at wrong
    · simp_all [eq_comm]

/-- Replaying a history answers as serving its commands does, as long as nothing is refused. -/
theorem feed_serve (current : InstanceState) (history : List EnvelopeN) :
    let fed := (RecoveryInstance.mk theory (some current)).feed sha256 history
    let served := (LiveInstance.mk theory current).serve sha256 (history.map (·.command))
    ((∀ answer ∈ fed.2, answer = .ok ()) ↔ served.2 = history.map .ok) ∧
      ((∀ answer ∈ fed.2, answer = .ok ()) → fed.1 = ⟨served.1.background, some served.1.inner⟩) := by
  induction history generalizing current with
  | nil => simp [feed, LiveInstance.serve]
  | cons recorded history ih =>
    cases verified : verify sha256 theory current recorded with
    | error e =>
      cases derived : applyWithoutCommit sha256 current theory recorded.command with
      | error e' => simp [feed, replay, verified, LiveInstance.serve, LiveInstance.apply, derived]
      | ok applied =>
        have forged : applied.envelope ≠ recorded := by
          intro same
          subst same
          rw [verify_ok.mpr derived] at verified
          cases verified
        simp [feed, replay, verified, LiveInstance.serve, LiveInstance.apply, derived, forged]
    | ok next =>
      have derived := verify_ok.mp verified
      simpa [feed, replay, verified, LiveInstance.serve, LiveInstance.apply, derived] using ih next

theorem replay_refused {recovery : RecoveryInstance} {e : ErrorN}
    (refused : (recovery.replay sha256 recorded).2 = .error e) :
    (recovery.replay sha256 recorded).1 = recovery := by
  rcases recovery with ⟨theory, inner⟩
  cases inner with
  | none => rfl
  | some current =>
    cases verified : verify sha256 theory current recorded with
    | error e' => simp only [replay, verified]
    | ok next => simp only [replay, verified, reduceCtorEq] at refused

theorem finalize_refused {recovery : RecoveryInstance} {expected : ChainN} {e : ErrorN}
    (refused : (recovery.finalize expected).2 = .error e) : (recovery.finalize expected).1 = recovery := by
  rcases recovery with ⟨theory, inner⟩
  cases inner with
  | none => rfl
  | some current =>
    simp only [finalize] at refused ⊢
    by_cases old : expected.version ≠ version
    · rw [if_pos old]
    · by_cases anchor : expected.sequence ≠ current.sequence ∨ expected.head ≠ current.head
      · rw [if_neg old, if_pos anchor]
      · rw [if_neg old, if_neg anchor] at refused
        cases refused

/-- Refused attempts in between do not matter. -/
theorem feed_accepted (recovery : RecoveryInstance) (attempts : List EnvelopeN) :
    (recovery.feed sha256 attempts).1 = (recovery.feed sha256 (recovery.accepted sha256 attempts)).1 ∧
      ∀ answer ∈ (recovery.feed sha256 (recovery.accepted sha256 attempts)).2, answer = .ok () := by
  induction attempts generalizing recovery with
  | nil => simp [feed, accepted]
  | cons recorded attempts ih =>
    cases answer : recovery.replay sha256 recorded with
    | mk next result =>
      cases result with
      | error e =>
        have refused : (recovery.replay sha256 recorded).2 = .error e := congrArg Prod.snd answer
        have unchanged := replay_refused refused
        rw [answer] at unchanged
        subst unchanged
        simpa [feed, accepted, answer] using ih next
      | ok _ => simpa [feed, accepted, answer] using ih next

end RecoveryInstance

/-- A restored instance is the one that serves the commands of its history. -/
theorem restores_iff {background : BackgroundN} {history : List EnvelopeN} {expected : ChainN}
    {live : LiveInstance} :
    let served := (LiveInstance.new sha256 background).serve sha256 (history.map (·.command))
    (RecoveryInstance.new sha256 background).Restores sha256 history expected live ↔
      served.2 = history.map .ok ∧ live = served.1 ∧ live.status = expected := by
  intro served
  obtain ⟨same, follows⟩ : ((∀ answer ∈ ((RecoveryInstance.new sha256 background).feed sha256 history).2,
      answer = .ok ()) ↔ served.2 = history.map .ok) ∧
      ((∀ answer ∈ ((RecoveryInstance.new sha256 background).feed sha256 history).2, answer = .ok ()) →
        ((RecoveryInstance.new sha256 background).feed sha256 history).1 =
          ⟨served.1.background, some served.1.inner⟩) :=
    RecoveryInstance.feed_serve (InstanceState.initial sha256 background) history
  constructor
  · intro facts
    rcases facts with ⟨replayed, finalized⟩
    rw [follows replayed] at finalized
    exact ⟨same.mp replayed, RecoveryInstance.finalize_ok.mp finalized⟩
  · intro facts
    rcases facts with ⟨answers, done⟩
    have replayed := same.mpr answers
    refine ⟨replayed, ?_⟩
    rw [follows replayed]
    exact RecoveryInstance.finalize_ok.mpr done

/-- Recovery accepts exactly the histories a live instance produces, and hands out that instance. -/
theorem recovery_exact (sha256 : List UInt8 → DigestN) (background : BackgroundN)
    (history : List EnvelopeN) (expected : ChainN) :
    let recovery := RecoveryInstance.new sha256 background
    let served := (LiveInstance.new sha256 background).serve sha256 (history.map (·.command))
    ((∃ live, recovery.Restores sha256 history expected live) ↔
      served.2 = history.map .ok ∧ served.1.status = expected) ∧
    (∀ live, recovery.Restores sha256 history expected live → live = served.1) ∧
    (∀ (recovery : RecoveryInstance) (recorded : EnvelopeN) (e : ErrorN),
      (recovery.replay sha256 recorded).2 = .error e → (recovery.replay sha256 recorded).1 = recovery) ∧
    (∀ (recovery : RecoveryInstance) (expected : ChainN) (e : ErrorN),
      (recovery.finalize expected).2 = .error e → (recovery.finalize expected).1 = recovery) ∧
    ∀ attempts, (recovery.feed sha256 attempts).1 =
      (recovery.feed sha256 (recovery.accepted sha256 attempts)).1 ∧
      ∀ answer ∈ (recovery.feed sha256 (recovery.accepted sha256 attempts)).2, answer = .ok () := by
  intro recovery served
  refine ⟨⟨?_, ?_⟩, fun live done => (restores_iff.mp done).2.1,
    fun _ _ _ => RecoveryInstance.replay_refused, fun _ _ _ => RecoveryInstance.finalize_refused,
    recovery.feed_accepted⟩
  · intro facts
    rcases facts with ⟨live, done⟩
    obtain ⟨answers, rfl, status⟩ := restores_iff.mp done
    exact ⟨answers, status⟩
  · intro facts
    rcases facts with ⟨answers, status⟩
    exact ⟨served.1, restores_iff.mpr ⟨answers, rfl, status⟩⟩

end Argus
