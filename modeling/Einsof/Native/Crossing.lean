import Einsof.Native.Preflight

namespace Argus

open Fallible

section Merge

variable {T : Type} [DecidableEq T] {n : Nat}

/-- What a set holds and what it misses of another never exceed the number of values there are. -/
theorem missing_le (bound : ∀ set : VecSet T, set.len ≤ n) (source receiver : VecSet T) :
    receiver.len + (source.items.filter (!receiver.contains ·)).length ≤ n := by
  have apart : List.Disjoint receiver.items (source.items.filter (!receiver.contains ·)) := by
    intro x held missed
    have absent := (List.mem_filter.mp missed).2
    rw [VecSet.contains_iff.mpr held] at absent
    cases absent
  have union := bound ⟨_, receiver.unique.append (source.unique.filter _) apart⟩
  rwa [VecSet.len, List.length_append] at union

/-- The forced minimum of one matters only to a receiver that already holds every value. -/
theorem checkSetMerge_ok (bound : ∀ set : VecSet T, set.len ≤ n) {source receiver : Option (VecSet T)}
    {u : Unit} : checkSetMerge source receiver n = .ok u ↔ receiver.elim 0 VecSet.len < n := by
  simp only [checkSetMerge, bind_ok, checkedCapacity_ok, pure_ok, exists_and_left, exists_eq, and_true]
  cases receiver with
  | none =>
    cases source with
    | none => exact Nat.succ_le_iff
    | some levels =>
      have fits : levels.items.length ≤ n := bound levels
      simp only [Option.elim_none, List.filter_true]
      omega
  | some set =>
    cases source with
    | none => exact Nat.succ_le_iff
    | some levels =>
      have fits := missing_le bound levels set
      simp only [Option.elim_some]
      omega

end Merge

/-- Every string of a crossing. -/
def CrossInputN.texts (input : CrossInputN) : List String :=
  [input.src, input.rcv, input.crossing, input.outputHash, input.descriptor, input.assignment] ++
    match input.evidence with
    | some evidence => [evidence.id, evidence.output, evidence.src, evidence.rcv, evidence.descriptor,
        evidence.assignment]
    | none => []

/-- Every limit but the sizes of the receiver's own label sets leaves room for the crossing. -/
structure CrossingRoom (s : KernelState) (sequence : UInt64) (input : CrossInputN) : Prop where
  short : ∀ value ∈ input.texts, value.utf8ByteSize ≤ maxOpaqueUtf8Bytes
  below : sequence < maxAcceptedSequence
  crossings : s.consumedCrossings.len + 1 ≤ maxConsumedCrossings
  attestations : input.evidence.isSome = true → s.consumedAttestations.len + 1 ≤ maxConsumedAttestations
  taintKey : s.taintLevels.containsKey ⟨input.rcv⟩ = true ∨ s.taintLevels.len + 1 ≤ maxParentOrLabelKeys
  integKey : s.integLevels.containsKey ⟨input.rcv⟩ = true ∨ s.integLevels.len + 1 ≤ maxParentOrLabelKeys
  text : ∃ text, retainedText s = .ok text ∧
    text.total + (input.retained.map String.utf8ByteSize).sum ≤ maxRetainedUtf8Bytes

variable {s : KernelState} {sequence : UInt64} {input : CrossInputN} {text : TextBudget}

theorem retained_short (short : ∀ value ∈ input.texts, value.utf8ByteSize ≤ maxOpaqueUtf8Bytes) :
    (input.retained.map overlong).sum = 0 := by
  rw [List.sum_eq_zero_iff]
  intro n member
  obtain ⟨value, kept, rfl⟩ := List.mem_map.mp member
  refine overlong_eq_zero.mpr (short value ?_)
  unfold CrossInputN.retained at kept
  unfold CrossInputN.texts
  cases evidence : input.evidence <;> rw [evidence] at kept <;>
    simp only [List.mem_append, List.mem_cons, List.not_mem_nil, or_false] at kept ⊢ <;> tauto

theorem checkCrossInput_ok {u : Unit} : checkCrossInput input = .ok u ↔
    ∀ value ∈ input.texts, value.utf8ByteSize ≤ maxOpaqueUtf8Bytes := by
  unfold CrossInputN.texts
  cases evidence : input.evidence <;>
    simp [checkCrossInput, checkEvidence, evidence, bind_ok, checkAll_ok, and_assoc]

theorem checkLabelKey_room {V : Type} {m : VecMap AgentId V} {a : AgentId} (bounded : m.len ≤ maxParentOrLabelKeys)
    (room : m.containsKey a = true ∨ m.len + 1 ≤ maxParentOrLabelKeys) : checkLabelKey m a = .ok () := by
  rw [checkLabelKey_ok, newKey]
  rcases room with known | fits
  · rwa [if_pos known]
  · split <;> omega

/-- Of the checks of a crossing only the two merges are left to decide. -/
theorem CrossingRoom.merges (room : CrossingRoom s sequence input)
    (counts : ∀ c : Collection, c.count s ≤ c.limit)
    (charged : text.total + (input.retained.map String.utf8ByteSize).sum ≤ maxRetainedUtf8Bytes) :
    (∃ text', checkCrossPost s input text = .ok text') ↔
      (s.taintLevels.get ⟨input.rcv⟩).elim 0 VecSet.len < maxConfLevels ∧
        (s.integLevels.get ⟨input.rcv⟩).elim 0 VecSet.len < maxIntegLevels := by
  have taints := checkLabelKey_room (counts .taintLevels) room.taintKey
  have integs := checkLabelKey_room (counts .integLevels) room.integKey
  have bounded : text.total ≤ maxRetainedUtf8Bytes := by omega
  have spent : text.addAll input.retained = .ok ⟨_⟩ :=
    (TextBudget.addAll_ok bounded).mpr ⟨retained_short room.short, rfl, charged⟩
  simp only [checkCrossPost_ok, checkSetMerge_ok ConfLevel.len_le, checkSetMerge_ok IntegLevel.len_le]
  constructor
  · intro facts
    obtain ⟨_, -, -, -, -, conf, integ, -⟩ := facts
    exact ⟨conf, integ⟩
  · intro free
    exact ⟨_, room.crossings, room.attestations, taints, integs, free.1, free.2, spent⟩

/-- With every other limit leaving room, a crossing passes the checks exactly when the receiver still
    misses a level in each dimension. -/
theorem crossing_ready_iff (sha256 : List UInt8 → DigestN) (background : BackgroundN)
    (commands : List CommandN) (input : CrossInputN)
    (room : CrossingRoom ((LiveInstance.new sha256 background).serve sha256 commands).1.inner.kernel
      ((LiveInstance.new sha256 background).serve sha256 commands).1.inner.sequence input) :
    let current := ((LiveInstance.new sha256 background).serve sha256 commands).1.inner
    preflight current.kernel current.sequence (.crossOutput input) = .ok () ↔
      (current.kernel.taintLevels.getSetOrEmpty ⟨input.rcv⟩).len < maxConfLevels ∧
        (current.kernel.integLevels.getSetOrEmpty ⟨input.rcv⟩).len < maxIntegLevels := by
  intro current
  have sound : Sound current := serve_sound sha256 background commands
  obtain ⟨text, retained, charged⟩ := room.text
  have stated : checkedStateText current.kernel = .ok text :=
    bind_ok.mpr ⟨(), checkStateShape_ok.mpr sound.fits.counts, retained⟩
  have post := room.merges sound.fits.counts charged
  have size : ∀ {T : Type} (m : VecMap AgentId (VecSet T)),
      (m.get ⟨input.rcv⟩).elim 0 VecSet.len = (m.getSetOrEmpty ⟨input.rcv⟩).len := by
    intro T m
    rw [VecMap.getSetOrEmpty, VecMap.getCloned_eq_get]
    cases m.get ⟨input.rcv⟩ <;> rfl
  rw [size, size] at post
  rw [← post, preflight_ok]
  constructor
  · intro facts
    obtain ⟨_, -, -, text', stated', -, spent⟩ := facts
    rw [stated] at stated'
    cases stated'
    exact spent
  · intro spent
    obtain ⟨succ, within⟩ := checkedSucc_of_lt room.below
    exact ⟨_, succ, within, text, stated, checkCrossInput_ok.mpr room.short, spent⟩

/-- The four ingests that give the root every level in both dimensions. -/
def fillingCommands : List CommandN :=
  [.delegate "root" "source", .ingest "root" none .«public» .untrusted,
    .ingest "root" none .«internal» .standard, .ingest "root" none .sensitive .trusted,
    .ingest "root" none .restricted .attested]

def servedState (commands : List CommandN) : InstanceState :=
  ((LiveInstance.new zeroDigest plainBackground).serve zeroDigest commands).1.inner

theorem emptyCrossing_room {commands : List CommandN} {total : Nat}
    (below : (servedState commands).sequence < maxAcceptedSequence)
    (crossings : (servedState commands).kernel.consumedCrossings.len + 1 ≤ maxConsumedCrossings)
    (taintKey : (servedState commands).kernel.taintLevels.containsKey ⟨"root"⟩ = true)
    (integKey : (servedState commands).kernel.integLevels.containsKey ⟨"root"⟩ = true)
    (retained : retainedText (servedState commands).kernel = .ok ⟨total⟩)
    (fits : total + 16 ≤ maxRetainedUtf8Bytes) :
    CrossingRoom (servedState commands).kernel (servedState commands).sequence emptyCrossing :=
  ⟨by decide, below, crossings, nofun, .inl taintKey, .inl integKey, ⟨total⟩, retained, fits⟩

/-- A receiver that holds every level is refused a crossing that adds nothing. -/
theorem crossing_refused_full :
    CrossingRoom (servedState fillingCommands).kernel (servedState fillingCommands).sequence emptyCrossing ∧
      preflight (servedState fillingCommands).kernel (servedState fillingCommands).sequence
        (.crossOutput emptyCrossing) = .error .capacityExceeded := by
  have retained : retainedText (servedState fillingCommands).kernel = .ok ⟨32⟩ := by rfl
  exact ⟨emptyCrossing_room (by decide) (by decide) (by decide) (by decide) retained (by decide), by decide⟩

theorem crossing_ready_iff_sample :
    preflight (servedState (fillingCommands.take 2)).kernel (servedState (fillingCommands.take 2)).sequence
      (.crossOutput emptyCrossing) = .ok () := by
  have retained : retainedText (servedState (fillingCommands.take 2)).kernel = .ok ⟨32⟩ := by rfl
  have room := emptyCrossing_room (by decide) (by decide) (by decide) (by decide) retained (by decide)
  exact (crossing_ready_iff zeroDigest plainBackground (fillingCommands.take 2) emptyCrossing room).mpr (by decide)

end Argus
