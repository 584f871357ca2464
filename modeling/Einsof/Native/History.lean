import Einsof.Base.Anchor
import Einsof.Native.Order
import Einsof.Native.Recovery

namespace Argus

open Fallible HashChain

def EnvelopeN.transcript (envelope : EnvelopeN) : List UInt8 :=
  linkTranscript envelope.previousDigest envelope.sequence envelope.command envelope.action

/-- Everything that is hashed on the way to the head of a history. -/
def transcripts (background : BackgroundN) (history : List EnvelopeN) : List (List UInt8) :=
  genesisTranscript background :: history.map EnvelopeN.transcript

/-- The transcript of an envelope after a given head. -/
def linkText (head : DigestN) (envelope : EnvelopeN) : List UInt8 :=
  linkTranscript head envelope.sequence envelope.command envelope.action

variable {sha256 : List UInt8 → DigestN} {theory : BackgroundTheory} {s : KernelState}

section Fits

theorem short_of_checked {value : String} (checked : value.utf8ByteSize ≤ maxOpaqueUtf8Bytes) :
    Short value :=
  checked.trans_lt (by decide)

theorem checkAll_short {values : List String} (checked : checkAll values = .ok ()) :
    ∀ value ∈ values, Short value :=
  fun value member => short_of_checked (checkAll_ok.mp checked value member)

/-- A checked command fits the transcript format, and its sets are within the limits. -/
theorem checkCommand_fits {command : CommandN} (checked : checkCommand command = .ok ()) :
    command.Fits ∧ command.SetsFit := by
  cases command with
  | registerTool tool => exact ⟨by simpa [CommandN.Fits] using checkAll_short checked, trivial⟩
  | unregisterTool tool => exact ⟨by simpa [CommandN.Fits] using checkAll_short checked, trivial⟩
  | delegate grantor grantee => exact ⟨by simpa [CommandN.Fits] using checkAll_short checked, trivial⟩
  | grantCapability parent child cap =>
    exact ⟨by simpa [CommandN.Fits] using checkAll_short checked, trivial⟩
  | grantCrossing grantor agent assignment n =>
    exact ⟨by simpa [CommandN.Fits] using checkAll_short checked, trivial⟩
  | revoke parent target => exact ⟨by simpa [CommandN.Fits] using checkAll_short checked, trivial⟩
  | cascadeRevoke child parent => exact ⟨by simpa [CommandN.Fits] using checkAll_short checked, trivial⟩
  | ingest agent src pconf pinteg =>
    exact ⟨by simpa [CommandN.Fits] using checkAll_short checked, trivial⟩
  | beginInvocation agent inv challenge policy egress argsHash authorized =>
    simp only [checkCommand, checkPolicy, bind_ok, checkLen_ok, exists_const] at checked
    obtain ⟨_, strings, ⟨caps, declared⟩, attested⟩ := checked
    have short := checkAll_short strings
    have few : ∀ {n : Nat}, n ≤ maxCapabilities → n < 2 ^ 32 := fun below => below.trans_lt (by decide)
    have few' : ∀ {n : Nat}, n ≤ maxEgressKinds → n < 2 ^ 32 := fun below => below.trans_lt (by decide)
    simp only [List.forall_mem_cons] at short
    rcases short with ⟨agentShort, invShort, challengeShort, toolShort, digestShort, hashShort, -⟩
    exact ⟨⟨agentShort, invShort, challengeShort, ⟨toolShort, few caps, few' declared, digestShort⟩,
      few' attested, hashShort⟩, caps, declared, attested⟩
  | authorizeInspected inv attestation =>
    exact ⟨by simpa [CommandN.Fits, InspectionAttestationN.Fits] using checkAll_short checked, trivial⟩
  | settleInvocation inv outcome resolution =>
    refine ⟨?_, trivial⟩
    cases resolution with
    | none => simpa [CommandN.Fits] using checkAll_short checked
    | some attestation => simpa [CommandN.Fits, ResolutionAttestationN.Fits] using checkAll_short checked
  | crossOutput input =>
    simp only [checkCommand, checkCrossInput, bind_ok] at checked
    obtain ⟨_, strings, evidence⟩ := checked
    have short := checkAll_short strings
    simp only [List.forall_mem_cons] at short
    rcases short with ⟨src, rcv, crossing, output, descriptor, assignment, -⟩
    refine ⟨⟨src, rcv, crossing, output, descriptor, assignment, fun e here => ?_⟩, trivial⟩
    rw [here] at evidence
    simpa [ConformanceAttestationN.Fits] using checkAll_short evidence

/-- The owner of a pending record is a short string. -/
theorem StateFits.owner_short {inv : InvocationId} {j : PendingInvocation} (fits : StateFits s)
    (present : s.pending.get inv = some j) : Short j.agent.val := by
  have held := VecMap.le_weigh (Gauge.text overlong).pending present
  have short := fits.short
  simp only [KernelState.weigh] at short
  have owner : overlong j.agent.val ≤ (Gauge.text overlong).pending inv j := by
    simp only [Gauge.text, pendingTexts, List.cons_append, List.map_cons, List.sum_cons]
    omega
  exact short_of_checked (overlong_eq_zero.mp (by omega))

theorem apply_action_fits {next : KernelState} {command : CommandN} {action : ActionN}
    (fits : StateFits s) (short : command.Fits)
    (applied : command.apply s theory = .ok (next, action)) : action.Fits := by
  obtain ⟨r, accepted, rfl⟩ := CommandN.apply_ok.mp applied
  cases command with
  | registerTool tool =>
    obtain ⟨-, -, rfl⟩ := registerTool_ok.mp accepted
    exact short
  | unregisterTool tool =>
    obtain ⟨-, -, -, -, rfl⟩ := unregisterTool_ok.mp accepted
    exact short
  | delegate grantor grantee =>
    obtain ⟨-, -, -, -, -, rfl⟩ := delegate_ok.mp accepted
    exact short
  | grantCapability parent child cap =>
    obtain ⟨-, -, -, -, -, rfl⟩ := grantCapability_ok.mp accepted
    exact short
  | grantCrossing grantor agent assignment n =>
    obtain ⟨-, -, -, -, rfl⟩ := grantCrossing_ok.mp accepted
    exact short
  | revoke parent target =>
    obtain ⟨-, -, -, -, -, rfl⟩ := revoke_ok.mp accepted
    exact short
  | cascadeRevoke child parent =>
    obtain ⟨-, -, -, -, -, rfl⟩ := cascadeRevoke_ok.mp accepted
    exact short
  | ingest agent src pconf pinteg =>
    obtain ⟨-, -, d, -, -, rfl⟩ := ingest_ok.mp accepted
    cases src <;> exact short
  | beginInvocation agent inv challenge policy egress argsHash authorized =>
    obtain ⟨-, -, rfl⟩ := beginInvocation_ok.mp accepted
    exact ⟨short.1, short.2.1, short.2.2.2.1.1⟩
  | authorizeInspected inv attestation =>
    obtain ⟨sc, -, -, -, -, rfl⟩ := authorizeInspected_ok.mp accepted
    exact ⟨short.1, short.2.1⟩
  | settleInvocation inv outcome resolution =>
    obtain ⟨j, present, -, -, -, -, rfl⟩ := settleInvocation_ok.mp accepted
    refine ⟨short.1, fits.owner_short present, fun attestation here => ?_⟩
    cases resolution with
    | none => cases here
    | some x =>
      cases here
      exact (short.2 x rfl).1
  | crossOutput input =>
    obtain ⟨-, -, -, -, -, d, -, -, rfl⟩ := crossOutput_ok.mp accepted
    exact ⟨short.1, short.2.1, short.2.2.1⟩

end Fits

theorem derived_fits {current : InstanceState} {applied : Applied} (sound : Sound current)
    (derived : applyWithoutCommit sha256 current theory applied.envelope.command = .ok applied) :
    applied.envelope.command.Fits ∧ applied.envelope.command.SetsFit ∧ applied.envelope.action.Fits := by
  obtain ⟨ready, _, -, kernel, action, committed, same⟩ := applyWithoutCommit_ok.mp derived
  obtain ⟨_, -, -, _, -, checked, -⟩ := preflight_ok.mp ready
  obtain ⟨short, sets⟩ := checkCommand_fits checked
  have written : applied.envelope.action = action := congrArg (·.envelope.action) same
  exact ⟨short, sets, written ▸ apply_action_fits sound.fits short committed⟩

/-- A history that is served as recorded is the hash chain behind the head it leads to. -/
theorem serve_history {current : InstanceState} (sound : Sound current) {history : List EnvelopeN}
    (answers : ((LiveInstance.mk theory current).serve sha256 (history.map (·.command))).2 =
      history.map .ok) :
    ((LiveInstance.mk theory current).serve sha256 (history.map (·.command))).1.inner.head =
      head sha256 linkText current.head history ∧
    texts sha256 linkText current.head history = history.map EnvelopeN.transcript ∧
    ∀ recorded ∈ history, recorded.command.Fits ∧ recorded.command.SetsFit ∧ recorded.action.Fits := by
  induction history generalizing current with
  | nil => exact ⟨rfl, rfl, fun _ none => nomatch none⟩
  | cons recorded history ih =>
    cases derived : applyWithoutCommit sha256 current theory recorded.command with
    | error e =>
      simp only [List.map_cons, LiveInstance.serve, LiveInstance.apply, derived, List.cons.injEq,
        reduceCtorEq, false_and] at answers
    | ok applied =>
      simp only [List.map_cons, LiveInstance.serve, LiveInstance.apply, derived, List.cons.injEq,
        Except.ok.injEq] at answers ⊢
      rcases answers with ⟨rfl, rest⟩
      have next : Sound applied.next := sound.of_derived derived
      obtain ⟨anchored, written, fits⟩ := ih next rest
      have linked : applied.envelope.transcript = linkText current.head applied.envelope ∧
          applied.next.head = sha256 (linkText current.head applied.envelope) := by
        obtain ⟨-, _, -, _, _, -, same⟩ := applyWithoutCommit_ok.mp derived
        rw [same]
        exact ⟨rfl, rfl⟩
      refine ⟨?_, ?_, ?_⟩
      · rw [anchored, linked.2, head_cons]
      · rw [texts, ← linked.2, written, linked.1]
      · exact List.forall_mem_cons.mpr ⟨derived_fits sound derived, fits⟩

/-- What an envelope says, but for the order in its sets. -/
def EnvelopeN.SameEntry (x y : EnvelopeN) : Prop := x.command.Same y.command ∧ x.action = y.action

theorem linkText_reads (head head' : DigestN) (x y : EnvelopeN)
    (fits : x.command.Fits ∧ x.command.SetsFit ∧ x.action.Fits)
    (fits' : y.command.Fits ∧ y.command.SetsFit ∧ y.action.Fits)
    (same : linkText head x = linkText head' y) : head = head' ∧ x.SameEntry y := by
  have front : linkText head x <+: linkText head' y := same ▸ List.prefix_refl _
  have entry := Transcript.link_readable.of_prefix (a := (((head, x.sequence), x.command), x.action))
    (b := (((head', y.sequence), y.command), y.action)) ⟨fits.1, fits.2.2⟩ ⟨fits'.1, fits'.2.2⟩ front
  simp only [Prod.mk.injEq] at entry
  exact ⟨entry.1.1.1, CommandN.same_iff.mpr entry.1.2, entry.2⟩

theorem genesis_ne_linkText (background : BackgroundN) (head : DigestN) (envelope : EnvelopeN) :
    genesisTranscript background ≠ linkText head envelope := fun same =>
  genesis_not_prefix_link background head envelope.sequence envelope.command envelope.action
    (same ▸ List.prefix_refl _)

theorem intoKernel_same {background background' : BackgroundN} (mode : background.mode = background'.mode)
    (ceilings : ∀ e, (background.allowCeiling e).join = (background'.allowCeiling e).join ∧
      (background.inspectCeiling e).join = (background'.inspectCeiling e).join) :
    background.intoKernel = background'.intoKernel := by
  simp only [BackgroundN.intoKernel, mode, fun e => (ceilings e).1, fun e => (ceilings e).2]

section Served

variable {background background' : BackgroundN} {history history' : List EnvelopeN}
  (answers : ((LiveInstance.new sha256 background).serve sha256 (history.map (·.command))).2 =
    history.map .ok)
  (answers' : ((LiveInstance.new sha256 background').serve sha256 (history'.map (·.command))).2 =
    history'.map .ok)

include answers answers'

theorem served_pinned
    (separates : Separates sha256 (transcripts background history ++ transcripts background' history'))
    (same : ((LiveInstance.new sha256 background).serve sha256 (history.map (·.command))).1.inner.head =
      ((LiveInstance.new sha256 background').serve sha256 (history'.map (·.command))).1.inner.head) :
    genesisTranscript background = genesisTranscript background' ∧
      List.Forall₂ EnvelopeN.SameEntry history history' := by
  obtain ⟨anchored, written, fits⟩ := serve_history (serve_sound sha256 background []) answers
  obtain ⟨anchored', written', fits'⟩ := serve_history (serve_sound sha256 background' []) answers'
  refine pinned linkText_reads (genesis_ne_linkText background) (genesis_ne_linkText background') fits fits'
    ?_ ((anchored.symm.trans same).trans anchored')
  have hashed : genesisTranscript background :: texts sha256 linkText (genesis sha256 background) history =
      transcripts background history := congrArg _ written
  have hashed' : genesisTranscript background' ::
      texts sha256 linkText (genesis sha256 background') history' = transcripts background' history' :=
    congrArg _ written'
  rw [genesis] at hashed hashed'
  rw [hashed, hashed']
  exact separates

theorem served_same (start : genesisTranscript background = genesisTranscript background')
    (related : List.Forall₂ EnvelopeN.SameEntry history history') :
    ((LiveInstance.new sha256 background).serve sha256 (history.map (·.command))).1.inner.Same
      ((LiveInstance.new sha256 background').serve sha256 (history'.map (·.command))).1.inner := by
  have sound : Sound (InstanceState.initial sha256 background) := serve_sound sha256 background []
  obtain ⟨-, -, fits⟩ := serve_history (serve_sound sha256 background []) answers
  obtain ⟨-, -, fits'⟩ := serve_history (serve_sound sha256 background' []) answers'
  obtain ⟨mode, ceilings⟩ := genesisTranscript_eq_iff.mp start
  have commands : List.Forall₂ CommandN.Same (history.map (·.command)) (history'.map (·.command)) := by
    rw [List.forall₂_map_left_iff, List.forall₂_map_right_iff]
    exact related.imp fun _ _ entry => entry.1
  have initial : (InstanceState.initial sha256 background).Same (InstanceState.initial sha256 background') :=
    ⟨.refl _, rfl, congrArg sha256 start⟩
  rw [LiveInstance.new, LiveInstance.new, ← intoKernel_same mode ceilings]
  exact (serve_same background.intoKernel initial sound commands
    (List.forall_mem_map.mpr fun x member => (fits x member).2.1)
    (List.forall_mem_map.mpr fun x member => (fits' x member).2.1)).1

end Served

/-- A trusted head pins the whole history, as long as the hash tells the transcripts behind the two
    heads apart. -/
theorem head_pins_history (sha256 : List UInt8 → DigestN) (background background' : BackgroundN)
    (history history' : List EnvelopeN) (expected expected' : ChainN) (live live' : LiveInstance)
    (separates : Separates sha256 (transcripts background history ++ transcripts background' history'))
    (restored : (RecoveryInstance.new sha256 background).Restores sha256 history expected live)
    (restored' : (RecoveryInstance.new sha256 background').Restores sha256 history' expected' live')
    (same : expected.head = expected'.head) :
    (background.mode = background'.mode ∧ ∀ e,
      (background.allowCeiling e).join = (background'.allowCeiling e).join ∧
      (background.inspectCeiling e).join = (background'.inspectCeiling e).join) ∧
    history.length = history'.length ∧
    List.Forall₂ (fun x y => x.command.Same y.command) history history' ∧
    history.map (·.action) = history'.map (·.action) ∧
    StateN.fromKernel live.inner.kernel = StateN.fromKernel live'.inner.kernel ∧
    live.inner.sequence = live'.inner.sequence := by
  obtain ⟨answers, rfl, status⟩ := restores_iff.mp restored
  obtain ⟨answers', rfl, status'⟩ := restores_iff.mp restored'
  have heads := (congrArg ChainN.head status).trans (same.trans (congrArg ChainN.head status').symm)
  obtain ⟨start, related⟩ := served_pinned answers answers' separates heads
  have states := served_same answers answers' start related
  refine ⟨genesisTranscript_eq_iff.mp start, related.length_eq, related.imp fun _ _ entry => entry.1, ?_,
    fromKernel_same states.kernel, states.sequence⟩
  rw [← List.forall₂_eq_eq_eq, List.forall₂_map_left_iff, List.forall₂_map_right_iff]
  exact related.imp fun _ _ entry => entry.2

/-- Two recordings of one history that list the sets of a begin in different orders. -/
theorem head_pins_history_sample :
    let byLength : List UInt8 → DigestN := fun text => ⟨Vector.replicate 32 (UInt8.ofNat text.length)⟩
    let background : BackgroundN := ⟨.monitor, fun _ => none, fun _ => none⟩
    let background' : BackgroundN := ⟨.monitor, fun _ => some none, fun _ => none⟩
    let policy : ActionPolicySnapshotN := ⟨"t", [.ipc, .clipboard, .ipc], .restricted, .untrusted,
      .untrusted, .«public», .attested, [.ipc, .networkInternal], "d"⟩
    let policy' : ActionPolicySnapshotN := { policy with requiredCaps := [.clipboard, .ipc] }
    let front : List CommandN := [.registerTool "t", .delegate "root" "w"]
    let record := fun (background : BackgroundN) (policy : ActionPolicySnapshotN) =>
      (LiveInstance.new byLength background).serve byLength
        (front ++ [.beginInvocation "w" "i" "c" policy [.ipc] "h" true])
    let history := (record background policy).2.filterMap Except.toOption
    let history' := (record background' policy').2.filterMap Except.toOption
    history.length = 3 ∧ history ≠ history' ∧ history.map (·.action) = history'.map (·.action) := by
  intro byLength background background' policy policy' front record history history'
  have restored : (RecoveryInstance.new byLength background).Restores byLength history
      (record background policy).1.status (record background policy).1 :=
    restores_iff.mpr ⟨by decide +kernel, by decide +kernel, rfl⟩
  have restored' : (RecoveryInstance.new byLength background').Restores byLength history'
      (record background' policy').1.status (record background' policy').1 :=
    restores_iff.mpr ⟨by decide +kernel, by decide +kernel, rfl⟩
  have separates : Separates byLength (transcripts background history ++ transcripts background' history') := by
    unfold Separates
    decide +kernel
  exact ⟨by decide +kernel, by decide +kernel, (head_pins_history byLength background background' history history' _ _ _ _
    separates restored restored' (by decide +kernel)).2.2.2.1⟩

end Argus
