import Einsof.Host.Normal
import Einsof.Native.Recovery

namespace ExArgus

open Argus Fallible

/-- What one envelope adds to the replay content. -/
def replayContent (recorded : EnvelopeN) : Nat :=
  64 + Validation.commandContent recorded.command + Validation.actionContent recorded.action

variable {sha256 : List UInt8 → DigestN} {theory : BackgroundTheory} {current last : InstanceState}

/-- A history that leads from one state of the chain to another. -/
inductive Chained (sha256 : List UInt8 → DigestN) (theory : BackgroundTheory) :
    InstanceState → List EnvelopeN → InstanceState → Prop
  | nil {current : InstanceState} : Chained sha256 theory current [] current
  | cons {current next last : InstanceState} {recorded : EnvelopeN} {rest : List EnvelopeN}
      (derived : applyWithoutCommit sha256 current theory recorded.command = .ok ⟨next, recorded⟩)
      (normal : Validation.command recorded.command = .ok recorded.command)
      (proper : ∀ text ∈ Validation.texts recorded.command, Opaque text)
      (tail : Chained sha256 theory next rest last) :
      Chained sha256 theory current (recorded :: rest) last

theorem Request.validate_normal {request : Request} {normal : CommandN}
    (checked : request.validate = .ok normal) :
    Validation.command normal = .ok normal ∧ ∀ text ∈ Validation.texts normal, Opaque text := by
  cases request with
  | transition command => exact Validation.command_normal checked
  | resolveQuarantine inv outcome attestation =>
    simp only [validate, Validation.quarantineResolution, bind_ok] at checked
    rcases checked with ⟨normal', checked, rest⟩
    by_cases ambiguous : outcome = .ambiguous
    · rw [if_pos ambiguous] at rest
      cases rest
    · rw [if_neg ambiguous] at rest
      cases rest
      exact Validation.command_normal checked

/-- What the native layer guarantees of an envelope it derives. -/
structure Link (theory : BackgroundTheory) (current next : InstanceState) (recorded : EnvelopeN) : Prop where
  version : recorded.version = 5
  sequence : recorded.sequence = next.sequence
  successor : next.sequence.toNat = current.sequence.toNat + 1
  accepted : next.sequence ≤ maxAcceptedSequence
  predecessor : recorded.previousDigest = current.head
  digest : recorded.digest = next.head
  committed : recorded.command.apply current.kernel theory = .ok (next.kernel, recorded.action)

theorem link_of_derived {next : InstanceState} {recorded : EnvelopeN} {command : CommandN}
    (derived : applyWithoutCommit sha256 current theory command = .ok ⟨next, recorded⟩) :
    Link theory current next recorded ∧ recorded.command = command := by
  obtain ⟨ready, sequence, succ, kernel, action, committed, same⟩ := applyWithoutCommit_ok.mp derived
  obtain ⟨next', succ', below, -⟩ := preflight_ok.mp ready
  cases succ.symm.trans succ'
  cases same
  exact ⟨⟨rfl, rfl, checkedSucc_ok.mp succ, below, rfl, rfl, committed⟩, rfl⟩

theorem Link.positive {next : InstanceState} {recorded : EnvelopeN}
    (link : Link theory current next recorded) : 0 < recorded.sequence := by
  rw [link.sequence, UInt64.lt_iff_toNat_lt, link.successor]
  exact Nat.succ_pos _

/-- The owners of pending records are named by validated commands, so the recorded action validates. -/
theorem Link.action {next : InstanceState} {recorded : EnvelopeN} (link : Link theory current next recorded)
    (held : Proper current.kernel) (proper : ∀ text ∈ Validation.texts recorded.command, Opaque text)
    (path : List Field) : Validation.action recorded.action path = .ok recorded.action := by
  refine map_ok.mpr ⟨(), Validation.opaques_ok.mpr fun field member => ?_, rfl⟩
  cases action_texts link.committed member with
  | inl own => exact proper _ own
  | inr owner =>
    rcases owner with ⟨inv, j, found, same⟩
    have texts := pending_texts (f := unfit) found
    rw [held] at texts
    simp only [pendingTexts, List.map_append, List.map_cons, List.map_nil, List.sum_append, List.sum_cons,
      List.sum_nil] at texts
    rw [same, ← unfit_eq_zero]
    omega

namespace Validation

theorem checkedReplayContent_ok {total bytes next : Nat} :
    checkedReplayContent total bytes = .ok next ↔
      total + bytes ≤ maxReplayContentBytes ∧ next = total + bytes := by
  unfold checkedReplayContent
  split
  · simp only [Except.ok.injEq, eq_comm (b := next)]
    omega
  · simp only [reduceCtorEq, false_iff]
    omega

theorem envelopeContent_ok {recorded : EnvelopeN} {bytes : Nat} :
    envelopeContent recorded.command recorded.action = .ok bytes ↔
      replayContent recorded ≤ maxReplayContentBytes ∧ bytes = replayContent recorded := by
  simp only [envelopeContent, bind_ok, checkedReplayContent_ok, replayContent]
  constructor
  · intro facts
    rcases facts with ⟨_, ⟨-, rfl⟩, _, ⟨-, rfl⟩, fits, rfl⟩
    omega
  · intro facts
    rcases facts with ⟨fits, rfl⟩
    exact ⟨_, ⟨by omega, rfl⟩, _, ⟨by omega, rfl⟩, by omega, by omega⟩

theorem envelope_ok {next : InstanceState} {recorded : EnvelopeN} {index : Nat} {checked : EnvelopeN × Nat}
    (link : Link theory current next recorded) (held : Proper current.kernel)
    (normal : command recorded.command = .ok recorded.command)
    (proper : ∀ text ∈ texts recorded.command, Opaque text) : envelope recorded index = .ok checked ↔
      replayContent recorded ≤ maxReplayContentBytes ∧ checked = (recorded, replayContent recorded) := by
  have version : recoveryVersion recorded.version (some index) = .ok () := if_pos link.version
  have sequence : envelopeSequence recorded.sequence = .ok () :=
    if_pos ⟨link.positive, link.sequence ▸ link.accepted⟩
  have validated : envelopeCommand recorded.command = .ok recorded.command := mapError_ok.mpr normal
  simp only [envelope, putIndex, mapError_ok, bind_ok, version, sequence, validated,
    link.action held proper, Except.ok.injEq, exists_eq_left', exists_const, envelopeContent_ok, pure_ok,
    true_and]
  constructor
  · intro facts
    rcases facts with ⟨_, ⟨fits, rfl⟩, rfl⟩
    exact ⟨fits, rfl⟩
  · intro facts
    rcases facts with ⟨fits, rfl⟩
    exact ⟨_, ⟨fits, rfl⟩, rfl⟩

/-- A chained history passes exactly when its replay content is within the limit. -/
theorem history_ok {recorded : List EnvelopeN} (chained : Chained sha256 theory current recorded last)
    (held : Proper current.kernel) {index content : Nat} {lastDigest : Option DigestN}
    {normalized : List EnvelopeN} {result : List EnvelopeN × Nat × Option DigestN}
    (place : current.sequence.toNat = index)
    (joint : lastDigest = none ∧ index = 0 ∨ lastDigest = some current.head)
    (within : content ≤ maxReplayContentBytes) :
    history recorded index lastDigest content normalized = .ok result ↔
      content + (recorded.map replayContent).sum ≤ maxReplayContentBytes ∧
        result = (normalized.reverse ++ recorded, last.sequence.toNat,
          if recorded = [] then lastDigest else some last.head) := by
  induction chained generalizing index content lastDigest normalized with
  | nil =>
    simp [history, place, within, eq_comm]
  | @cons current next last recorded rest derived normal proper tail ih =>
    obtain ⟨link, -⟩ := link_of_derived derived
    have accepted : next.sequence.toNat ≤ 100000 := UInt64.le_iff_toNat_le.mp link.accepted
    have successor := link.successor
    have count : checkedRecoveryCount index = .ok () := if_pos (by unfold maxRecoveryEnvelopes; omega)
    have declared : declaredSequence recorded.sequence index = .ok () :=
      if_pos (by rw [link.sequence, successor, place])
    have predecessor : predecessor recorded.previousDigest lastDigest index = .ok () :=
      if_pos (link.predecessor ▸ joint)
    have next_held : Proper next.kernel := held.step proper link.committed
    have place' : next.sequence.toNat = index + 1 := by rw [successor, place]
    have joint' : (some recorded.digest : Option DigestN) = some next.head := by rw [link.digest]
    have shape : (normalized.reverse ++ recorded :: rest, last.sequence.toNat,
        if recorded :: rest = [] then lastDigest else some last.head) =
          ((recorded :: normalized).reverse ++ rest, last.sequence.toNat,
            if rest = [] then some recorded.digest else some last.head) := by
      cases tail with
      | nil => simp [link.digest]
      | cons => simp
    rw [shape]
    simp only [history, bind_ok, count, envelope_ok link held normal proper, Prod.exists, Prod.mk.injEq,
      putIndex, mapError_ok, checkedReplayContent_ok, List.map_cons, List.sum_cons]
    constructor
    · intro facts
      rcases facts with ⟨_, -, _, _, ⟨-, rfl, rfl⟩, _, -, _, -, _, ⟨fits, rfl⟩, checked⟩
      obtain ⟨total, same⟩ := (ih next_held place' (.inr joint') fits).mp checked
      exact ⟨by omega, same⟩
    · intro facts
      rcases facts with ⟨total, same⟩
      have fits : content + replayContent recorded ≤ maxReplayContentBytes := by omega
      refine ⟨(), trivial, recorded, _, ⟨by omega, rfl, rfl⟩, (), declared, (), predecessor, _, ⟨fits, rfl⟩, ?_⟩
      exact (ih next_held place' (.inr joint') fits).mpr ⟨by omega, same⟩

end Validation

namespace Instance

theorem exactEnvelope_derived {next : InstanceState} {envelope : EnvelopeN} {command : CommandN}
    (derived : applyWithoutCommit sha256 current theory command = .ok ⟨next, envelope⟩) :
    exactEnvelope envelope command = true ∧ envelope.command = command := by
  obtain ⟨link, same⟩ := link_of_derived derived
  have bounds : 0 < envelope.sequence ∧ envelope.sequence ≤ maxAcceptedSequence :=
    ⟨link.positive, link.sequence ▸ link.accepted⟩
  simp [exactEnvelope, link.version, bounds, same]

theorem transition_derived {next : InstanceState} {envelope : EnvelopeN} {request : Request}
    {normal : CommandN} (checked : request.validate = .ok normal)
    (derived : applyWithoutCommit sha256 current theory normal = .ok ⟨next, envelope⟩) :
    transition sha256 ⟨theory, current⟩ request = (⟨theory, next⟩, .ok envelope) := by
  simp only [transition, checked, LiveInstance.apply, derived, (exactEnvelope_derived derived).1, if_true]

/-- The envelopes handed out form a chained history, whatever is refused in between. -/
theorem issue_chained (requests : List Request) (current : InstanceState) :
    ∃ last, (issue sha256 ⟨theory, current⟩ requests).1 = ⟨theory, last⟩ ∧
      Chained sha256 theory current (issue sha256 ⟨theory, current⟩ requests).2 last := by
  induction requests generalizing current with
  | nil => exact ⟨current, rfl, .nil⟩
  | cons request requests ih =>
    cases checked : request.validate with
    | error e => simpa only [issue, transition, checked] using ih current
    | ok normal =>
      cases derived : applyWithoutCommit sha256 current theory normal with
      | error e => simpa only [issue, transition, checked, LiveInstance.apply, derived] using ih current
      | ok applied =>
        rcases applied with ⟨next, envelope⟩
        have same := (link_of_derived derived).2
        subst same
        obtain ⟨kept, proper⟩ := request.validate_normal checked
        obtain ⟨last, reached, tail⟩ := ih next
        rw [issue, transition_derived checked derived]
        exact ⟨last, reached, .cons derived kept proper tail⟩

theorem replayHistory_chained {history : List EnvelopeN} (chained : Chained sha256 theory current history last)
    (index : Nat) : replayHistory sha256 ⟨theory, some current⟩ history index = .ok ⟨theory, some last⟩ := by
  induction chained generalizing index with
  | nil => rfl
  | cons derived _ _ _ ih =>
    simp only [replayHistory, RecoveryInstance.replay, RecoveryInstance.verify_ok.mpr derived]
    exact ih (index + 1)

theorem Chained.accepted {history : List EnvelopeN} (chained : Chained sha256 theory current history last)
    (start : current.sequence ≤ maxAcceptedSequence) : last.sequence ≤ maxAcceptedSequence := by
  induction chained with
  | nil => exact start
  | cons derived _ _ _ ih => exact ih (link_of_derived derived).1.accepted

theorem background_ok {background normal : BackgroundN}
    (checked : Validation.background background = .ok normal) : normal = background := by
  simp only [Validation.background, bind_ok, pure_ok] at checked
  rcases checked with ⟨_, -, _, -, rfl⟩
  rfl

theorem new_ok {background : BackgroundN} {live : LiveInstance} :
    new sha256 background = .ok live ↔
      Validation.background background = .ok background ∧ live = LiveInstance.new sha256 background := by
  simp only [new, bind_ok, pure_ok]
  constructor
  · intro facts
    rcases facts with ⟨normal, checked, rfl⟩
    cases background_ok checked
    exact ⟨checked, rfl⟩
  · intro facts
    rcases facts with ⟨checked, rfl⟩
    exact ⟨background, checked, rfl⟩

theorem recovery_ok {background : BackgroundN} {history : List EnvelopeN}
    {result : BackgroundN × List EnvelopeN} (valid : Validation.background background = .ok background)
    (chained : Chained sha256 theory (InstanceState.initial sha256 background) history last) :
    Validation.recovery background history ⟨version, last.sequence, last.head⟩ = .ok result ↔
      (history.map replayContent).sum ≤ maxReplayContentBytes ∧ result = (background, history) := by
  have start : (InstanceState.initial sha256 background).sequence ≤ maxAcceptedSequence :=
    UInt64.le_iff_toNat_le.mpr (Nat.zero_le _)
  have anchor : Validation.chain ⟨version, last.sequence, last.head⟩ = .ok () := by
    have bounded : Validation.chainSequence last.sequence = .ok () := if_pos (Chained.accepted chained start)
    exact bind_ok.mpr ⟨(), if_pos rfl, bounded⟩
  have length : Validation.expectedSequence last.sequence last.sequence.toNat = .ok () := if_pos rfl
  have head : Validation.expectedHead last.head (if history = [] then none else some last.head) = .ok () := by
    refine if_pos ?_
    split <;> simp
  have checked : ∀ {result}, Validation.history history 0 none 0 [] = .ok result ↔
      0 + (history.map replayContent).sum ≤ maxReplayContentBytes ∧ result = ([].reverse ++ history,
        last.sequence.toNat, if history = [] then none else some last.head) :=
    Validation.history_ok chained initial_proper rfl (.inl ⟨rfl, rfl⟩) (Nat.zero_le _)
  simp only [Validation.recovery, valid, anchor, bind_ok, Except.ok.injEq, exists_eq_left', exists_const,
    checked, pure_ok, true_and, Nat.zero_add, List.reverse_nil, List.nil_append]
  constructor
  · intro facts
    rcases facts with ⟨_, ⟨fits, rfl⟩, _, -, _, -, rfl⟩
    exact ⟨fits, rfl⟩
  · intro facts
    rcases facts with ⟨fits, rfl⟩
    exact ⟨_, ⟨fits, rfl⟩, (), length, (), head, rfl⟩

theorem recover_chained {background : BackgroundN} {history : List EnvelopeN} {restored : LiveInstance}
    (valid : Validation.background background = .ok background)
    (chained : Chained sha256 background.intoKernel (InstanceState.initial sha256 background) history last) :
    recover sha256 background history ⟨version, last.sequence, last.head⟩ = .ok restored ↔
      (history.map replayContent).sum ≤ maxReplayContentBytes ∧ restored = ⟨background.intoKernel, last⟩ := by
  have replayed := replayHistory_chained chained 0
  simp only [recover, bind_ok, recovery_ok valid chained, recoveryFinalize, mapError_ok]
  constructor
  · intro facts
    rcases facts with ⟨_, ⟨fits, rfl⟩, recovery, replayed', finalized⟩
    cases replayed.symm.trans replayed'
    exact ⟨fits, (RecoveryInstance.finalize_ok.mp finalized).1⟩
  · intro facts
    rcases facts with ⟨fits, rfl⟩
    exact ⟨_, ⟨fits, rfl⟩, _, replayed, RecoveryInstance.finalize_ok.mpr ⟨rfl, rfl⟩⟩

end Instance

/-- The accepted envelopes of any sequence of transitions recover the instance, with its state and its
    status, exactly when their replay content is within the recovery limit. -/
theorem accepted_history_recovers_iff {sha256 : List UInt8 → DigestN} {background : BackgroundN}
    {live : LiveInstance} (created : Instance.new sha256 background = .ok live) (requests : List Request) :
    let issued := Instance.issue sha256 live requests
    (∃ restored, Instance.recover sha256 background issued.2 issued.1.status = .ok restored ∧
      restored.state = issued.1.state ∧ restored.status = issued.1.status) ↔
        (issued.2.map replayContent).sum ≤ maxReplayContentBytes := by
  obtain ⟨valid, rfl⟩ := Instance.new_ok.mp created
  intro issued
  obtain ⟨last, reached, chained⟩ : ∃ last, issued.1 = ⟨background.intoKernel, last⟩ ∧
      Chained sha256 background.intoKernel (InstanceState.initial sha256 background) issued.2 last :=
    Instance.issue_chained requests _
  have recovers : ∀ restored, Instance.recover sha256 background issued.2 issued.1.status = .ok restored ↔
      (issued.2.map replayContent).sum ≤ maxReplayContentBytes ∧ restored = issued.1 := by
    intro restored
    rw [reached]
    exact Instance.recover_chained valid chained
  simp only [recovers]
  constructor
  · intro facts
    rcases facts with ⟨restored, ⟨fits, -⟩, -⟩
    exact fits
  · intro fits
    exact ⟨issued.1, ⟨fits, rfl⟩, rfl, rfl⟩

/-- A background that admits nothing. -/
def denyAll : BackgroundN := ⟨.enforce, fun _ => some none, fun _ => some none⟩

/-- The second registration is refused; the other four requests leave an envelope each. -/
theorem accepted_history_recovers_iff_sample :
    let zero : List UInt8 → DigestN := fun _ => ⟨Vector.replicate 32 0⟩
    let issued := Instance.issue zero (LiveInstance.new zero denyAll)
      [.transition (.registerTool "mailer"), .transition (.registerTool "mailer"),
        .transition (.delegate "root" "worker"), .transition (.ingest "worker" none .sensitive .trusted),
        .transition (.revoke "root" "worker")]
    issued.2.length = 4 ∧
      ∃ restored, Instance.recover zero denyAll issued.2 issued.1.status = .ok restored ∧
        restored.state = issued.1.state ∧ restored.status = issued.1.status :=
  ⟨by decide, (accepted_history_recovers_iff rfl _).mpr (by decide)⟩

/-- A tool registered and unregistered over and over. -/
def cycles (tool : String) : Nat → List Request
  | 0 => []
  | n + 1 => .transition (.registerTool tool) :: .transition (.unregisterTool tool) :: cycles tool n

section Cycles

variable {tool : String}

theorem validate_tool (proper : Opaque tool) :
    (Request.transition (.registerTool tool)).validate = .ok (.registerTool tool) ∧
      (Request.transition (.unregisterTool tool)).validate = .ok (.unregisterTool tool) := by
  have checked : Validation.opaques [] [(.tool, tool)] = .ok () := Validation.opaques_ok.mpr (by simpa using proper)
  constructor <;> simp [Request.validate, Validation.command, checked, Except.map]

def withTool (tool : String) : KernelState :=
  { KernelState.initial with toolRegistered := VecSet.new.insert ⟨tool⟩ }

theorem withTool_remove (tool : String) :
    { withTool tool with toolRegistered := (withTool tool).toolRegistered.remove ⟨tool⟩ } =
      KernelState.initial := by
  have emptied : (VecSet.new.insert (⟨tool⟩ : ToolId)).remove ⟨tool⟩ = VecSet.new := by
    apply VecSet.ext_items
    rw [VecSet.remove_items, VecSet.insert_items_of_not_mem VecSet.mem_new]
    simp [VecSet.new]
  rw [withTool, emptied]
  rfl

variable (sha256 theory)

theorem register_derived (proper : Opaque tool) (clean : current.kernel = KernelState.initial)
    (below : current.sequence < maxAcceptedSequence) : ∃ next registered,
      applyWithoutCommit sha256 current theory (.registerTool tool) = .ok ⟨next, registered⟩ ∧
        next.kernel = withTool tool ∧ registered.action = .registerTool tool := by
  obtain ⟨succ, within⟩ := checkedSucc_of_lt below
  obtain ⟨text, charged⟩ : ∃ text, checkedStateText KernelState.initial = .ok text :=
    ⟨⟨_⟩, checkedStateText_ok.mpr ⟨initial_fits, rfl⟩⟩
  have total : text.total = 8 := (checkedStateText_ok.mp charged).2.trans (by decide)
  have room : checkPostTransition KernelState.initial (.registerTool tool) text =
      .ok ⟨text.total + tool.utf8ByteSize⟩ := by
    refine bind_ok.mpr ⟨_, checkedCapacity_ok.mpr ⟨by decide, rfl⟩, ?_⟩
    refine TextBudget.add_ok.mpr ⟨overlong_eq_zero.mpr proper.2, rfl, ?_⟩
    have short := proper.2
    simp only [maxOpaqueUtf8Bytes, maxRetainedUtf8Bytes, total] at short ⊢
    omega
  have ready : preflight current.kernel current.sequence (.registerTool tool) = .ok () := by
    rw [clean]
    exact preflight_ok.mpr ⟨_, succ, within, text, charged, checkAll_ok.mpr (by simpa using proper.2), _, room⟩
  have committed : (CommandN.registerTool tool).apply current.kernel theory =
      .ok (withTool tool, .registerTool tool) := by
    rw [clean]
    exact CommandN.apply_ok.mpr ⟨_, registerTool_ok.mpr ⟨VecSet.mem_new, rfl, rfl⟩, rfl⟩
  exact ⟨_, _, applyWithoutCommit_ok.mpr ⟨ready, _, succ, _, _, committed, rfl⟩, rfl, rfl⟩

theorem unregister_derived (proper : Opaque tool) (sound : Sound current) (held : current.kernel = withTool tool)
    (below : current.sequence < maxAcceptedSequence) : ∃ next unregistered,
      applyWithoutCommit sha256 current theory (.unregisterTool tool) = .ok ⟨next, unregistered⟩ ∧
        next.kernel = KernelState.initial ∧ unregistered.action = .unregisterTool tool := by
  obtain ⟨succ, -⟩ := checkedSucc_of_lt below
  have ready := (Withdrawal.unregisterTool proper.2).ready sound below
  have committed : (CommandN.unregisterTool tool).apply current.kernel theory =
      .ok (KernelState.initial, .unregisterTool tool) := by
    rw [held]
    refine CommandN.apply_ok.mpr ⟨_, unregisterTool_ok.mpr ⟨?_, ?_, ?_, (withTool_remove tool).symm, rfl⟩, rfl⟩
    · exact VecSet.mem_insert.mpr (.inr rfl)
    · exact fun _ _ found => nomatch found
    · exact fun _ _ found => nomatch found
  exact ⟨_, _, applyWithoutCommit_ok.mpr ⟨ready, _, succ, _, _, committed, rfl⟩, rfl, rfl⟩

theorem register_cycle (proper : Opaque tool) (clean : current.kernel = KernelState.initial)
    (room : current.sequence.toNat + 2 ≤ 100000) : ∃ middle next registered unregistered,
      applyWithoutCommit sha256 current theory (.registerTool tool) = .ok ⟨middle, registered⟩ ∧
      applyWithoutCommit sha256 middle theory (.unregisterTool tool) = .ok ⟨next, unregistered⟩ ∧
      next.kernel = KernelState.initial ∧ next.sequence.toNat = current.sequence.toNat + 2 ∧
      replayContent registered = 64 + 2 * tool.utf8ByteSize ∧
      replayContent unregistered = 64 + 2 * tool.utf8ByteSize := by
  have below : ∀ {sequence : UInt64}, sequence.toNat < 100000 → sequence < maxAcceptedSequence :=
    fun small => UInt64.lt_iff_toNat_lt.mpr small
  obtain ⟨middle, registered, first, held, added⟩ :=
    register_derived sha256 theory proper clean (below (by omega))
  obtain ⟨link, named⟩ := link_of_derived first
  have sound : Sound middle :=
    Sound.of_derived ⟨clean ▸ initial_fits, UInt64.le_of_lt (below (by omega))⟩ first
  obtain ⟨next, unregistered, second, clean', removed⟩ :=
    unregister_derived sha256 theory proper sound held (below (by rw [link.successor]; omega))
  obtain ⟨link', named'⟩ := link_of_derived second
  refine ⟨middle, next, registered, unregistered, first, second, clean', ?_, ?_, ?_⟩
  · rw [link'.successor, link.successor]
  · rw [replayContent, named, added]
    simp only [Validation.commandContent, Validation.actionContent]
    omega
  · rw [replayContent, named', removed]
    simp only [Validation.commandContent, Validation.actionContent]
    omega

theorem issue_cycles (proper : Opaque tool) (rounds : Nat) {current : InstanceState}
    (clean : current.kernel = KernelState.initial) (room : current.sequence.toNat + 2 * rounds ≤ 100000) :
    ((Instance.issue sha256 ⟨theory, current⟩ (cycles tool rounds)).2.map replayContent).sum =
      rounds * (2 * (64 + 2 * tool.utf8ByteSize)) := by
  induction rounds generalizing current with
  | zero => simp [cycles, Instance.issue]
  | succ rounds ih =>
    obtain ⟨middle, next, registered, unregistered, first, second, clean', later, content, content'⟩ :=
      register_cycle sha256 theory proper clean (by omega)
    have rest := ih clean' (by omega)
    obtain ⟨register, unregister⟩ := validate_tool proper
    rw [cycles, Instance.issue, Instance.transition_derived register first]
    simp only [Instance.issue, Instance.transition_derived unregister second, List.map_cons, List.sum_cons,
      rest, content, content', Nat.succ_mul]
    omega

theorem cycles_validated (proper : Opaque tool) (rounds : Nat) :
    ∀ request ∈ cycles tool rounds, ∃ normal, request.validate = .ok normal := by
  induction rounds with
  | zero => simp [cycles]
  | succ rounds ih =>
    obtain ⟨register, unregister⟩ := validate_tool proper
    simp only [cycles, List.forall_mem_cons]
    exact ⟨⟨_, register⟩, ⟨_, unregister⟩, ih⟩

end Cycles

theorem utf8ByteSize_replicate (n : Nat) : (String.ofList (List.replicate n 'x')).utf8ByteSize = n := by
  induction n with
  | zero => rfl
  | succ n ih =>
    rw [List.replicate_succ, String.ofList_cons, String.utf8ByteSize_append, ih, String.utf8ByteSize_singleton]
    exact Nat.add_comm 1 n

/-- A name of the largest size. -/
def floodTool : String := String.ofList (List.replicate 1024 'x')

theorem floodTool_size : floodTool.utf8ByteSize = 1024 := utf8ByteSize_replicate 1024

theorem long_history_unrecoverable :
    (∀ request ∈ cycles floodTool 15888, ∃ normal, request.validate = .ok normal) ∧
      ∀ sha256, ∃ live, Instance.new sha256 denyAll = .ok live ∧
        ¬ ∃ restored, Instance.recover sha256 denyAll (Instance.issue sha256 live (cycles floodTool 15888)).2
          (Instance.issue sha256 live (cycles floodTool 15888)).1.status = .ok restored := by
  have proper : Opaque floodTool := by
    refine ⟨fun empty => ?_, Nat.le_of_eq floodTool_size⟩
    have size := floodTool_size
    rw [empty] at size
    cases size
  refine ⟨cycles_validated proper 15888, fun sha256 => ⟨_, Instance.new_ok.mpr ⟨rfl, rfl⟩, ?_⟩⟩
  intro facts
  rcases facts with ⟨restored, recovered⟩
  have start : (InstanceState.initial sha256 denyAll).sequence.toNat = 0 := rfl
  have content := issue_cycles sha256 denyAll.intoKernel proper 15888
    (rfl : (InstanceState.initial sha256 denyAll).kernel = _) (by omega)
  obtain ⟨last, reached, chained⟩ : ∃ last, (Instance.issue sha256 (LiveInstance.new sha256 denyAll)
      (cycles floodTool 15888)).1 = ⟨denyAll.intoKernel, last⟩ ∧
        Chained sha256 denyAll.intoKernel (InstanceState.initial sha256 denyAll) _ last :=
    Instance.issue_chained _ _
  rw [reached] at recovered
  obtain ⟨fits, -⟩ := (Instance.recover_chained rfl chained).mp recovered
  rw [content, floodTool_size] at fits
  exact absurd fits (by decide)

end ExArgus
