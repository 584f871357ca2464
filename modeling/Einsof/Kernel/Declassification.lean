import Einsof.Kernel.Confinement

namespace Argus

/-- What the assignment of an endorsed crossing promises: the released integrity stays within its
    target, and a level is released below a held one only down to the most public target. -/
def ReleaseBounded (s : KernelState) (q : CrossInput) : Prop :=
  q.releasedInteg ≤ q.tInteg ∧
    ∀ l, s.Taints q.src l → l ≤ q.releasedConf ∨ ∃ c, q.tConf = some c ∧ c ≤ q.releasedConf

variable {s s' : KernelState} {bg : BackgroundTheory} {q : CrossInput} {d : Disposition}

theorem endorsed_bound
    (committed : crossOutput s bg q = .ok (s', .crossOutput q.src q.rcv q.crossing .endorsed d)) :
    crossBound s q = true := by
  obtain ⟨-, -, -, -, bound, d', -, -, same⟩ := crossOutput_ok.mp committed
  obtain ⟨-, -, -, branch, -⟩ := KernelAction.crossOutput.inj same
  exact bound branch.symm

/-- The comparison of the release with the target stands the wrong way round, so the promise holds
    exactly when the release is the target itself or nothing held lies above the release. -/
theorem release_bounded_iff
    (committed : crossOutput s bg q = .ok (s', .crossOutput q.src q.rcv q.crossing .endorsed d)) :
    ReleaseBounded s q ↔
      ∀ c, q.tConf = some c → q.releasedConf ≠ c → ∀ l, s.Taints q.src l → l ≤ q.releasedConf := by
  obtain ⟨integ, below, dominates⟩ := crossBound_iff.mp (endorsed_bound committed)
  constructor
  · intro bounded c target strict l held
    rcases bounded.2 l held with ok | ⟨c', target', covers⟩
    · exact ok
    · have same : c' = c := Option.some.inj (target'.symm.trans target)
      rw [same] at covers
      exact absurd (ConfLevel.le_antisymm (below c target) covers) strict
  · intro condition
    refine ⟨integ, fun l held => ?_⟩
    cases target : q.tConf with
    | none => exact .inl (dominates target l held)
    | some c =>
      by_cases exact : q.releasedConf = c
      · exact .inr ⟨c, rfl, exact ▸ ConfLevel.le_refl _⟩
      · exact .inl (condition c target exact l held)

def crossingCommands : List KernelCommand :=
  [.delegate AgentId.root ⟨"source"⟩, .delegate AgentId.root ⟨"receiver"⟩,
    .ingest ⟨"source"⟩ none .restricted .trusted,
    .grantCrossing AgentId.root ⟨"receiver"⟩ ⟨"assignment"⟩ 1]

def crossingState : KernelState := ((kernel sampleBackground).drive KernelState.initial crossingCommands).1

/-- A crossing whose assignment declassifies down to `sensitive` and which releases `released`. -/
def sampleCrossing (released : ConfLevel) : CrossInput where
  src := ⟨"source"⟩
  rcv := ⟨"receiver"⟩
  crossing := ⟨"crossing"⟩
  outputHash := ⟨"output"⟩
  descriptor := ⟨"descriptor"⟩
  fallback := .fail
  tInteg := .trusted
  tConf := some .sensitive
  assignment := ⟨"assignment"⟩
  evidence := some ⟨⟨"evidence"⟩, ⟨"output"⟩, ⟨"source"⟩, ⟨"receiver"⟩, ⟨"descriptor"⟩, ⟨"assignment"⟩, true⟩
  releasedConf := released
  releasedInteg := .trusted

theorem sampleCrossing_committed (released : ConfLevel) (below : released ≤ .sensitive) :
    crossOutput crossingState sampleBackground (sampleCrossing released) =
      .ok (crossed crossingState (sampleCrossing released) .endorsed .permitted,
        .crossOutput ⟨"source"⟩ ⟨"receiver"⟩ ⟨"crossing"⟩ .endorsed .permitted) := by
  cases released with
  | restricted => exact absurd below (by decide)
  | _ => decide

theorem release_bounded_iff_sample :
    ReleaseBounded crossingState (sampleCrossing .sensitive) ↔
      ∀ c, (sampleCrossing .sensitive).tConf = some c → (sampleCrossing .sensitive).releasedConf ≠ c →
        ∀ l, crossingState.Taints (sampleCrossing .sensitive).src l →
          l ≤ (sampleCrossing .sensitive).releasedConf :=
  release_bounded_iff (sampleCrossing_committed .sensitive (by decide))

/-- A source holding restricted data has it released as public under a `sensitive` target. -/
theorem release_unbounded : ¬ ∀ (s : KernelState) (bg : BackgroundTheory) (q : CrossInput)
    (s' : KernelState) (d : Disposition), (kernel bg).Reachable s →
      crossOutput s bg q = .ok (s', .crossOutput q.src q.rcv q.crossing .endorsed d) →
      ReleaseBounded s q := by
  intro claim
  have bounded := claim crossingState sampleBackground (sampleCrossing .«public»)
    (crossed crossingState (sampleCrossing .«public») .endorsed .permitted) .permitted
    (Machine.drive_reachable _ crossingCommands) (sampleCrossing_committed .«public» (by decide))
  have held : crossingState.Taints ⟨"source"⟩ .restricted := by decide
  rcases bounded.2 .restricted held with below | ⟨c, target, covers⟩
  · revert below
    decide
  · cases target
    revert covers
    decide

def endorsedCommands : List KernelCommand := crossingCommands ++ [.crossOutput (sampleCrossing .sensitive)]

def endorsedState : KernelState := ((kernel sampleBackground).drive KernelState.initial endorsedCommands).1

end Argus
