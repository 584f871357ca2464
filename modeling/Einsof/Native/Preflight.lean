import Einsof.Native.Capacity

namespace Argus

open Fallible

variable {s s' : KernelState} {bg : BackgroundTheory} {text text' : TextBudget}

structure Room (s : KernelState) (command : KernelCommand) : Prop where
  counts : ∀ c : Collection, c.count s + command.growth (Gauge.count c) s ≤ c.limit
  short : command.growth (Gauge.text overlong) s = 0
  total : s.weigh (Gauge.text String.utf8ByteSize) + command.growth (Gauge.text String.utf8ByteSize) s ≤
    maxRetainedUtf8Bytes

theorem StateFits.step {command : KernelCommand} {r : KernelAction} (fits : StateFits s)
    (room : Room s command) (applied : command.apply bg s = .ok (s', r)) : StateFits s' where
  counts c := by
    have grown := KernelCommand.apply_weigh (Gauge.count c) applied
    rw [KernelState.weigh_count, KernelState.weigh_count] at grown
    exact grown.trans (room.counts c)
  short := by
    have grown := KernelCommand.apply_weigh (Gauge.text overlong) applied
    rw [fits.short, room.short] at grown
    exact Nat.le_zero.mp grown
  total := (KernelCommand.apply_weigh (Gauge.text String.utf8ByteSize) applied).trans room.total

theorem StateFits.room_of_no_growth {command : KernelCommand} (fits : StateFits s)
    (none : ∀ g, command.growth g s = 0) : Room s command where
  counts c := by rw [none]; exact fits.counts c
  short := none _
  total := by rw [none]; exact fits.total

theorem StateFits.room {command : KernelCommand} {texts : List String} (fits : StateFits s)
    (charged : text.total = s.weigh (Gauge.text String.utf8ByteSize))
    (counts : ∀ c : Collection, c.count s ≤ c.limit →
      c.count s + command.growth (Gauge.count c) s ≤ c.limit)
    (spent : text.addAll texts = .ok text')
    (covers : ∀ f, command.growth (Gauge.text f) s ≤ (texts.map f).sum) : Room s command := by
  have bounded : text.total ≤ maxRetainedUtf8Bytes := charged ▸ fits.total
  obtain ⟨short, total, within⟩ := (TextBudget.addAll_ok bounded).mp spent
  refine ⟨fun c => counts c (fits.counts c), ?_, ?_⟩
  · exact Nat.le_zero.mp (short ▸ covers overlong)
  · have covered := covers String.utf8ByteSize
    omega

theorem newKey_le {V : Type} (m : VecMap AgentId V) (f : AgentId → Nat) (a : AgentId) :
    newKey m f a ≤ f a := by
  unfold newKey
  split
  · exact Nat.zero_le _
  · exact Nat.le_refl _

theorem newKey_zero {V : Type} (m : VecMap AgentId V) (a : AgentId) : newKey m (fun _ => 0) a = 0 :=
  Nat.le_zero.mp (newKey_le m _ a)

theorem checkLabelKey_ok {V : Type} {m : VecMap AgentId V} {a : AgentId} {u : Unit} :
    checkLabelKey m a = .ok u ↔ m.len + newKey m (fun _ => 1) a ≤ maxParentOrLabelKeys := by
  simp only [checkLabelKey, bind_ok, checkedCapacity_ok, pure_ok, exists_and_left, exists_eq, and_true]
  exact Iff.rfl

theorem newKeys_le (f : String → Nat) (a : AgentId) :
    newKey s.taintLevels (fun a => f a.val) a + newKey s.integLevels (fun a => f a.val) a ≤
      f a.val + f a.val :=
  Nat.add_le_add (newKey_le _ _ _) (newKey_le _ _ _)

theorem settleInvocation_room {inv : String} {outcome : Outcome}
    {resolution : Option ResolutionAttestationN} (fits : StateFits s)
    (charged : text.total = s.weigh (Gauge.text String.utf8ByteSize))
    (allowed : checkPostTransition s (.settleInvocation inv outcome resolution) text = .ok text') :
    Room s (CommandN.settleInvocation inv outcome resolution).intoKernel := by
  cases resolution with
  | none =>
    cases found : s.pending.get ⟨inv⟩ with
    | none =>
      refine fits.room_of_no_growth fun g => ?_
      simp only [CommandN.intoKernel, KernelCommand.growth, found, Option.map_none, Option.elim_none]
    | some j =>
      simp only [checkPostTransition, found, Option.isSome_none, Bool.false_eq_true, if_false, bind_ok,
        pure_ok, checkLabelKey_ok] at allowed
      rcases allowed with ⟨_, taints, _, integs, _, spent, rfl⟩
      refine fits.room charged ?_ spent ?_
      · intro c held
        cases c <;> simp only [CommandN.intoKernel, KernelCommand.growth, found, Option.elim_some,
          Option.map_none, Option.elim_none, Gauge.count, Gauge.zero, newKey_zero, Nat.add_zero,
          Nat.zero_add] <;> first | exact held | exact taints | exact integs
      · intro f
        have keys := newKeys_le (s := s) f j.agent
        simpa only [CommandN.intoKernel, KernelCommand.growth, found, Option.elim_some, Option.map_none,
          Option.elim_none, Gauge.text, List.map_cons, List.map_nil, List.sum_cons, List.sum_nil,
          Nat.add_zero] using keys
  | some x =>
    simp only [checkPostTransition, Option.isSome_some, if_true, bind_ok, checkedCapacity_ok] at allowed
    rcases allowed with ⟨_, ⟨attestations, -⟩, allowed⟩
    cases found : s.pending.get ⟨inv⟩ with
    | none =>
      simp only [found, pure_bind, TextBudget.add_eq_addAll] at allowed
      refine fits.room charged ?_ allowed ?_
      · intro c held
        cases c <;> simp only [CommandN.intoKernel, KernelCommand.growth, found, Option.elim_none,
          Nat.zero_add] <;> first | exact held | exact attestations
      · intro f
        simp only [CommandN.intoKernel, KernelCommand.growth, found, Option.elim_none, Option.map_some,
          Option.elim_some, ResolutionAttestationN.intoKernel, Gauge.text, List.map_cons, List.map_nil,
          List.sum_cons, List.sum_nil]
        omega
    | some j =>
      simp only [found, checkLabelKey_ok, bind_ok, TextBudget.add_eq_addAll] at allowed
      rcases allowed with ⟨_, taints, _, integs, _, first, second⟩
      refine fits.room charged ?_ (TextBudget.addAll_trans first second) ?_
      · intro c held
        cases c <;> simp only [CommandN.intoKernel, KernelCommand.growth, found, Option.elim_some,
          Option.map_some, Gauge.count, Gauge.zero, newKey_zero, Nat.add_zero, Nat.zero_add] <;>
          first | exact held | exact attestations | exact taints | exact integs
      · intro f
        have keys := newKeys_le (s := s) f j.agent
        simp only [CommandN.intoKernel, KernelCommand.growth, found, Option.elim_some, Option.map_some,
          ResolutionAttestationN.intoKernel, Gauge.text, List.map_cons, List.map_nil, List.map_append,
          List.sum_append, List.sum_cons, List.sum_nil]
        omega

/-- The strings the state may come to retain. -/
def CrossInputN.retained (input : CrossInputN) : List String :=
  [input.crossing, input.rcv, input.rcv] ++ match input.evidence with
    | some evidence => [evidence.id]
    | none => []

theorem checkCrossPost_ok {input : CrossInputN} : checkCrossPost s input text = .ok text' ↔
    s.consumedCrossings.len + 1 ≤ maxConsumedCrossings ∧
    (input.evidence.isSome = true → s.consumedAttestations.len + 1 ≤ maxConsumedAttestations) ∧
    checkLabelKey s.taintLevels ⟨input.rcv⟩ = .ok () ∧ checkLabelKey s.integLevels ⟨input.rcv⟩ = .ok () ∧
    checkSetMerge (s.taintLevels.get ⟨input.src⟩) (s.taintLevels.get ⟨input.rcv⟩) maxConfLevels = .ok () ∧
    checkSetMerge (s.integLevels.get ⟨input.src⟩) (s.integLevels.get ⟨input.rcv⟩) maxIntegLevels = .ok () ∧
    text.addAll input.retained = .ok text' := by
  unfold CrossInputN.retained
  cases evidence : input.evidence <;>
    simp [checkCrossPost, evidence, bind_ok, checkedCapacity_ok, Unique.exists_iff]

theorem crossOutput_room {input : CrossInputN} (fits : StateFits s)
    (charged : text.total = s.weigh (Gauge.text String.utf8ByteSize))
    (allowed : checkPostTransition s (.crossOutput input) text = .ok text') :
    Room s (CommandN.crossOutput input).intoKernel := by
  obtain ⟨crossings, attestations, taints, integs, -, -, spent⟩ := checkCrossPost_ok.mp allowed
  rw [checkLabelKey_ok] at taints integs
  refine fits.room charged ?_ spent ?_
  · intro c held
    cases evidence : input.evidence with
    | none =>
      cases c <;> simp only [CommandN.intoKernel, KernelCommand.growth, CrossInputN.intoKernel, evidence,
        Option.map_none, Option.elim_none, Gauge.count, Gauge.zero, newKey_zero, Nat.add_zero,
        Nat.zero_add] <;> first | exact held | exact crossings | exact taints | exact integs
    | some e =>
      rw [evidence] at attestations
      cases c <;> simp only [CommandN.intoKernel, KernelCommand.growth, CrossInputN.intoKernel, evidence,
        Option.map_some, Option.elim_some, Gauge.count, Gauge.zero, newKey_zero, Nat.add_zero,
        Nat.zero_add] <;>
          first | exact held | exact crossings | exact attestations rfl | exact taints | exact integs
  · intro f
    have keys : _ ≤ f input.rcv + f input.rcv := newKeys_le (s := s) f ⟨input.rcv⟩
    unfold CrossInputN.retained
    cases evidence : input.evidence <;>
      simp only [CommandN.intoKernel, KernelCommand.growth, CrossInputN.intoKernel, evidence,
        ConformanceAttestationN.intoKernel, Option.map_none, Option.elim_none, Option.map_some,
        Option.elim_some, Gauge.text, List.append_nil, List.map_cons, List.map_nil, List.map_append,
        List.sum_append, List.sum_cons, List.sum_nil] <;>
      omega

/-- A checked command leaves room for all that it may add. -/
theorem checkPostTransition_room {command : CommandN} (fits : StateFits s)
    (charged : text.total = s.weigh (Gauge.text String.utf8ByteSize))
    (allowed : checkPostTransition s command text = .ok text') : Room s command.intoKernel := by
  cases command with
  | unregisterTool tool => exact fits.room_of_no_growth fun _ => rfl
  | revoke parent target => exact fits.room_of_no_growth fun _ => rfl
  | cascadeRevoke child parent => exact fits.room_of_no_growth fun _ => rfl
  | registerTool tool =>
    simp only [checkPostTransition, bind_ok, checkedCapacity_ok, TextBudget.add_eq_addAll] at allowed
    rcases allowed with ⟨_, ⟨tools, -⟩, spent⟩
    refine fits.room charged ?_ spent fun f => Nat.le_refl _
    intro c held
    cases c <;> first | exact held | exact tools
  | delegate grantor grantee =>
    simp only [checkPostTransition, bind_ok, checkedCapacity_ok] at allowed
    rcases allowed with ⟨_, ⟨agents, -⟩, _, ⟨parents, -⟩, spent⟩
    refine fits.room charged ?_ spent ?_
    · intro c held
      cases c <;> first | exact held | exact agents | exact parents
    · intro f
      simp only [CommandN.intoKernel, KernelCommand.growth, Gauge.text, List.map_cons, List.map_nil,
        List.sum_cons, List.sum_nil]
      omega
  | beginInvocation agent inv challenge policy egress argsHash authorized =>
    simp only [checkPostTransition, bind_ok, checkedCapacity_ok] at allowed
    rcases allowed with ⟨_, ⟨pending, -⟩, _, ⟨challenges, -⟩, _, ⟨ids, -⟩, spent⟩
    refine fits.room charged ?_ spent ?_
    · intro c held
      cases c <;> first | exact held | exact pending | exact challenges | exact ids
    · intro f
      simp only [CommandN.intoKernel, KernelCommand.growth, Gauge.text, pendingTexts, challengeTexts,
        ActionPolicySnapshotN.intoKernel, List.map_cons, List.map_nil, List.map_append, List.sum_append,
        List.sum_cons, List.sum_nil]
      omega
  | grantCrossing grantor agent assignment n =>
    simp only [checkPostTransition, bind_ok, checkedCapacity_ok] at allowed
    rcases allowed with ⟨_, ⟨grants, -⟩, spent⟩
    refine fits.room charged ?_ spent ?_
    · intro c held
      cases c <;> first | exact held | exact grants
    · intro f
      simp only [CommandN.intoKernel, KernelCommand.growth, Gauge.text, List.map_cons, List.map_nil,
        List.sum_cons, List.sum_nil]
      omega
  | grantCapability parent child cap =>
    simp only [checkPostTransition, bind_ok, checkLabelKey_ok] at allowed
    rcases allowed with ⟨_, keys, _, -, spent⟩
    have spent' : text.addAll (if (s.agentCap.get ⟨child⟩).isNone then [child] else []) = .ok text' := by
      split at spent
      · rwa [if_pos ‹_›, ← TextBudget.add_eq_addAll]
      · rwa [if_neg ‹_›]
    refine fits.room charged ?_ spent' ?_
    · intro c held
      cases c <;> simp only [CommandN.intoKernel, KernelCommand.growth, Gauge.count, Gauge.zero,
        newKey_zero, Nat.add_zero] <;> first | exact held | exact keys
    · intro f
      simp only [CommandN.intoKernel, KernelCommand.growth, Gauge.text, newKey, VecMap.containsKey_eq]
      cases s.agentCap.get ⟨child⟩ <;> simp
  | ingest agent src pconf pinteg =>
    simp only [checkPostTransition, bind_ok, checkedCapacity_ok] at allowed
    rcases allowed with ⟨_, ⟨taints, -⟩, _, ⟨integs, -⟩, _, -, _, -, spent⟩
    have spent' : text.addAll ((if addLabelKeyIfAbsent s.taintLevels ⟨agent⟩ = 1 then [agent] else []) ++
        if addLabelKeyIfAbsent s.integLevels ⟨agent⟩ = 1 then [agent] else []) = .ok text' := by
      rw [TextBudget.addAll_append]
      by_cases taint : addLabelKeyIfAbsent s.taintLevels ⟨agent⟩ = 1 <;>
        by_cases integ : addLabelKeyIfAbsent s.integLevels ⟨agent⟩ = 1 <;>
        simpa only [taint, integ, if_true, if_false, TextBudget.add_eq_addAll, TextBudget.addAll_nil] using spent
    refine fits.room charged ?_ spent' ?_
    · intro c held
      cases c <;> simp only [CommandN.intoKernel, KernelCommand.growth, Gauge.count, Gauge.zero,
        newKey_zero, Nat.add_zero, Nat.zero_add] <;> first | exact held | exact taints | exact integs
    · intro f
      simp only [CommandN.intoKernel, KernelCommand.growth, Gauge.text, newKey, addLabelKeyIfAbsent]
      split <;> split <;> simp
  | authorizeInspected inv attestation =>
    simp only [checkPostTransition, bind_ok, checkedCapacity_ok] at allowed
    rcases allowed with ⟨_, ⟨pending, -⟩, _, ⟨attestations, -⟩, spent⟩
    refine fits.room charged ?_ spent ?_
    · intro c held
      simp only [CommandN.intoKernel, KernelCommand.growth]
      cases s.challenges.get ⟨inv⟩ <;> cases c <;>
        first | exact held | exact attestations | exact pending
    · intro f
      simp only [CommandN.intoKernel, KernelCommand.growth]
      cases s.challenges.get ⟨inv⟩ <;>
        simp only [Option.elim_none, Option.elim_some, Gauge.text, pendingTexts,
          InspectionAttestationN.intoKernel, List.map_cons, List.map_nil, List.map_append,
          List.sum_append, List.sum_cons, List.sum_nil] <;> omega
  | settleInvocation inv outcome resolution => exact settleInvocation_room fits charged allowed
  | crossOutput input => exact crossOutput_room fits charged allowed

theorem preflight_ok {sequence : UInt64} {command : CommandN} {u : Unit} :
    preflight s sequence command = .ok u ↔
      ∃ next, checkedSucc sequence = .ok next ∧ next ≤ maxAcceptedSequence ∧
      ∃ text, checkedStateText s = .ok text ∧ checkCommand command = .ok () ∧
        ∃ text', checkPostTransition s command text = .ok text' := by
  simp only [preflight, bind_ok, refuse_ok, pure_ok, UInt64.not_lt]
  constructor
  · intro facts
    rcases facts with ⟨next, succ, below, text, fits, _, short, text', room, -⟩
    exact ⟨next, succ, below, text, fits, short, text', room⟩
  · intro facts
    rcases facts with ⟨next, succ, below, text, fits, short, text', room⟩
    exact ⟨next, succ, below, text, fits, (), short, text', room, trivial⟩

variable {sha256 : List UInt8 → DigestN} {background : BackgroundN}

structure Sound (current : InstanceState) : Prop where
  fits : StateFits current.kernel
  accepted : current.sequence ≤ maxAcceptedSequence

theorem initial_fits : StateFits KernelState.initial where
  counts c := by cases c <;> decide
  short := by decide
  total := by decide

theorem Sound.of_derived {current next : InstanceState} {command : CommandN} {envelope : EnvelopeN}
    {theory : BackgroundTheory} (sound : Sound current)
    (derived : applyWithoutCommit sha256 current theory command = .ok ⟨next, envelope⟩) : Sound next := by
  obtain ⟨ready, sequence, succ, kernel, action, committed, same⟩ := applyWithoutCommit_ok.mp derived
  obtain ⟨next', succ', below, text, charged, -, text', room⟩ := preflight_ok.mp ready
  obtain ⟨r, applied, -⟩ := CommandN.apply_ok.mp committed
  cases same
  refine ⟨sound.fits.step (checkPostTransition_room sound.fits (checkedStateText_ok.mp charged).2 room) applied, ?_⟩
  rw [succ] at succ'
  cases succ'
  exact below

theorem chain_sound {current : InstanceState} (reach : (chain sha256 background).Reachable current) :
    Sound current := by
  refine reach.invariant ⟨initial_fits, ?_⟩ fun _ _ _ _ sound accepted =>
    sound.of_derived (chain_step.mp accepted)
  show (0 : UInt64) ≤ maxAcceptedSequence
  decide

theorem serve_sound (sha256 : List UInt8 → DigestN) (background : BackgroundN) (commands : List CommandN) :
    Sound ((LiveInstance.new sha256 background).serve sha256 commands).1.inner := by
  have reach := (chain sha256 background).drive_reachable commands
  rw [LiveInstance.new, LiveInstance.serve_state]
  exact chain_sound reach

/-- The commands that take authority away, with arguments of bounded length. -/
inductive Withdrawal : CommandN → Prop
  | unregisterTool {tool : String} (short : tool.utf8ByteSize ≤ maxOpaqueUtf8Bytes) :
      Withdrawal (.unregisterTool tool)
  | revoke {parent target : String} (short : parent.utf8ByteSize ≤ maxOpaqueUtf8Bytes)
      (short' : target.utf8ByteSize ≤ maxOpaqueUtf8Bytes) : Withdrawal (.revoke parent target)
  | cascadeRevoke {child parent : String} (short : child.utf8ByteSize ≤ maxOpaqueUtf8Bytes)
      (short' : parent.utf8ByteSize ≤ maxOpaqueUtf8Bytes) : Withdrawal (.cascadeRevoke child parent)

/-- The answer that hands the kernel's verdict through: its refusal, or its new state under the next
    envelope. -/
def LiveInstance.kernelAnswer (sha256 : List UInt8 → DigestN) (live : LiveInstance) (command : CommandN) :
    LiveInstance × Except ErrorN EnvelopeN :=
  match command.apply live.inner.kernel live.background with
  | .error e => (live, .error (.kernel e))
  | .ok (kernel, action) =>
    let sequence := live.inner.sequence + 1
    let digest := link sha256 live.inner.head sequence command action
    (⟨live.background, kernel, sequence, digest⟩,
      .ok ⟨version, sequence, live.inner.head, digest, command, action⟩)

theorem Withdrawal.allowed {command : CommandN} (withdrawal : Withdrawal command) (text : TextBudget) :
    checkCommand command = .ok () ∧ checkPostTransition s command text = .ok text := by
  cases withdrawal <;> refine ⟨checkAll_ok.mpr ?_, rfl⟩ <;> simp_all

theorem checkedSucc_ok {sequence next : UInt64} :
    checkedSucc sequence = .ok next ↔ next.toNat = sequence.toNat + 1 := by
  have bounded := next.toNat_lt
  unfold checkedSucc
  by_cases last : sequence.toNat + 1 < 2 ^ 64
  · have succ : (sequence + 1).toNat = sequence.toNat + 1 := by
      rw [UInt64.toNat_add, show (1 : UInt64).toNat = 1 from rfl]
      omega
    have room : sequence ≠ UInt64.ofNat (UInt64.size - 1) := by
      intro same
      subst same
      exact absurd last (by decide)
    rw [if_neg room, Except.ok.injEq, ← UInt64.toNat_inj, succ, eq_comm]
  · have full : sequence = UInt64.ofNat (UInt64.size - 1) := by
      have bounded' := sequence.toNat_lt
      rw [← UInt64.toNat_inj, show (UInt64.ofNat (UInt64.size - 1)).toNat = 2 ^ 64 - 1 from rfl]
      omega
    rw [if_pos full]
    constructor
    · exact fun refused => nomatch refused
    · omega

theorem checkedSucc_of_lt {sequence : UInt64} (below : sequence < maxAcceptedSequence) :
    checkedSucc sequence = .ok (sequence + 1) ∧ sequence + 1 ≤ maxAcceptedSequence := by
  have below' : sequence.toNat < 100000 := UInt64.lt_iff_toNat_lt.mp below
  have succ : (sequence + 1).toNat = sequence.toNat + 1 := by
    rw [UInt64.toNat_add, show (1 : UInt64).toNat = 1 from rfl]
    omega
  refine ⟨checkedSucc_ok.mpr succ, UInt64.le_iff_toNat_le.mpr ?_⟩
  rw [succ]
  exact below'

theorem Withdrawal.ready {current : InstanceState} {command : CommandN} (withdrawal : Withdrawal command)
    (sound : Sound current) (below : current.sequence < maxAcceptedSequence) :
    preflight current.kernel current.sequence command = .ok () := by
  obtain ⟨succ, within⟩ := checkedSucc_of_lt below
  obtain ⟨short, room⟩ := withdrawal.allowed (s := current.kernel)
    ⟨current.kernel.weigh (Gauge.text String.utf8ByteSize)⟩
  exact preflight_ok.mpr ⟨_, succ, within, _, checkedStateText_ok.mpr ⟨sound.fits, rfl⟩, short, _, room⟩

theorem Withdrawal.answer {live : LiveInstance} {command : CommandN} (sound : Sound live.inner)
    (below : live.inner.sequence < maxAcceptedSequence) (withdrawal : Withdrawal command) :
    live.apply sha256 command = live.kernelAnswer sha256 command := by
  unfold LiveInstance.apply LiveInstance.kernelAnswer applyWithoutCommit
  rw [withdrawal.ready sound below, (checkedSucc_of_lt below).1]
  cases command.apply live.inner.kernel live.background <;> rfl

/-- Every state a live instance reaches is within all limits, so it can be observed, and below the last
    sequence number no withdrawal is refused for capacity. -/
theorem capacity_preflight_sound (sha256 : List UInt8 → DigestN) (background : BackgroundN)
    (commands : List CommandN) :
    let live := ((LiveInstance.new sha256 background).serve sha256 commands).1
    checkState live.inner.kernel = .ok () ∧
      live.inner.sequence ≤ maxAcceptedSequence ∧
      live.state ≠ .error .capacityExceeded ∧
      (live.inner.sequence < maxAcceptedSequence → ∀ command, Withdrawal command →
        live.apply sha256 command = live.kernelAnswer sha256 command) := by
  intro live
  have sound : Sound live.inner := serve_sound sha256 background commands
  have fits := checkState_ok (u := ()).mpr sound.fits
  refine ⟨fits, sound.accepted, ?_, fun below command withdrawal => withdrawal.answer sound below⟩
  have observed : live.state = .ok (StateN.fromKernel live.inner.kernel) := by
    rw [LiveInstance.state, fits]
    rfl
  rw [observed]
  exact fun refused => nomatch refused

def zeroDigest : List UInt8 → DigestN := fun _ => ⟨Vector.replicate 32 0⟩

def plainBackground : BackgroundN := ⟨.enforce, fun _ => none, fun _ => none⟩

/-- A crossing from a source that holds no level. -/
def emptyCrossing : CrossInputN :=
  ⟨"source", "root", "crossing", "output", "descriptor", .releaseUnendorsed, .trusted, none, "assignment",
    none, .«public», .attested⟩

def mailerPolicy : ActionPolicySnapshotN :=
  ⟨"mailer", [.networkEgress], .sensitive, .standard, .untrusted, .«internal», .trusted, [], "policy"⟩

/-- A worker with labels, a capability and an invocation in flight, and a crossing to the root. -/
def busyCommands : List CommandN :=
  [.registerTool "mailer", .delegate "root" "worker", .grantCapability "root" "worker" .networkEgress,
    .ingest "worker" none .«internal» .trusted,
    .beginInvocation "worker" "call" "challenge" mailerPolicy [] "args" true,
    .delegate "root" "source", .crossOutput emptyCrossing]

def busyInstance : LiveInstance :=
  ((LiveInstance.new zeroDigest plainBackground).serve zeroDigest busyCommands).1

theorem busy_sequence : busyInstance.inner.sequence = 7 := by decide

theorem capacity_preflight_sound_sample :
    checkState busyInstance.inner.kernel = .ok () ∧
      busyInstance.apply zeroDigest (.revoke "root" "worker") =
        busyInstance.kernelAnswer zeroDigest (.revoke "root" "worker") := by
  have below : busyInstance.inner.sequence < maxAcceptedSequence := by
    rw [busy_sequence]
    decide
  obtain ⟨fits, -, -, hands⟩ := capacity_preflight_sound zeroDigest plainBackground busyCommands
  exact ⟨fits, hands below _ (.revoke (by decide) (by decide))⟩

end Argus
