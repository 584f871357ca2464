import Einsof.Base.Codec
import Einsof.Native.Chain
import Mathlib.Algebra.Group.Nat.Defs

namespace Argus

open Codec (Readable)

/-- Shorter than the length field can count. -/
def Short (value : String) : Prop := value.utf8ByteSize < 2 ^ 32

def Few {α : Type} (values : List α) : Prop := values.length < 2 ^ 32

/-- The tags tell the variants apart. -/
class LawfulTag (α : Type) [CanonicalTag α] : Prop where
  injective : Function.Injective (canonicalTag : α → UInt8)

theorem LawfulTag.of_listed {α : Type} [CanonicalTag α] (all : List α)
    (listed : ∀ a, all[(canonicalTag a).toNat]? = some a) : LawfulTag α where
  injective a b same := by
    have here := listed a
    rw [same, listed b] at here
    exact (Option.some.inj here).symm

instance : LawfulTag ConfLevel :=
  .of_listed [.«public», .«internal», .sensitive, .restricted] (by intro a; cases a <;> rfl)

instance : LawfulTag IntegLevel :=
  .of_listed [.untrusted, .standard, .trusted, .attested] (by intro a; cases a <;> rfl)

instance : LawfulTag EgressKind := .of_listed EgressKind.all (by intro a; cases a <;> rfl)

instance : LawfulTag CapKind := .of_listed CapKind.all (by intro a; cases a <;> rfl)

instance : LawfulTag Verdict :=
  .of_listed [.allow, .inspectionRequired, .deny] (by intro a; cases a <;> rfl)

instance : LawfulTag Disposition :=
  .of_listed [.permitted, .blocked, .monitorBypassed] (by intro a; cases a <;> rfl)

instance : LawfulTag Mode := .of_listed [.enforce, .monitor] (by intro a; cases a <;> rfl)

instance : LawfulTag Outcome :=
  .of_listed [.success, .failure, .ambiguous] (by intro a; cases a <;> rfl)

instance : LawfulTag Fallback :=
  .of_listed [.fail, .releaseUnendorsed] (by intro a; cases a <;> rfl)

instance : LawfulTag CrossBranch :=
  .of_listed [.endorsed, .unendorsed, .fail] (by intro a; cases a <;> rfl)

section NormalizedSet

variable {α : Type} [CanonicalTag α]

/-- The list that stands for a set in the transcript. -/
def normalizedSet (values : List α) : List α :=
  (values.insertionSort fun a b => canonicalTag a ≤ canonicalTag b).destutter
    fun a b => canonicalTag a ≠ canonicalTag b

theorem canonicalSet_eq (values : List α) :
    Transcript.canonicalSet values = Transcript.list (normalizedSet values) := rfl

theorem length_normalizedSet (values : List α) : (normalizedSet values).length ≤ values.length :=
  (List.destutter_sublist _ _).length_le.trans (List.length_insertionSort _ _).le

variable [LawfulTag α]

theorem normalizedSet_eq_dedup [DecidableEq α] (values : List α) : normalizedSet values =
    (values.insertionSort fun a b => canonicalTag a ≤ canonicalTag b).dedup := by
  have ordered := List.pairwise_insertionSort (fun a b : α => canonicalTag a ≤ canonicalTag b) values
  have antisymm : Std.Antisymm fun a b : α => canonicalTag a ≤ canonicalTag b :=
    ⟨fun _ _ up down => LawfulTag.injective (UInt8.le_antisymm up down)⟩
  have adjacent : (normalizedSet values).map id = ((values.insertionSort fun a b =>
      canonicalTag a ≤ canonicalTag b).map id).destutter (· ≠ ·) :=
    List.map_destutter fun _ _ _ _ => LawfulTag.injective.ne_iff
  rwa [List.map_id, List.map_id, ordered.destutter_eq_dedup] at adjacent

theorem mem_normalizedSet {values : List α} {a : α} : a ∈ normalizedSet values ↔ a ∈ values := by
  classical
  rw [normalizedSet_eq_dedup, List.mem_dedup, List.mem_insertionSort]

theorem normalizedSet_pairwise (values : List α) :
    (normalizedSet values).Pairwise fun a b => canonicalTag a < canonicalTag b := by
  classical
  have ordered := List.pairwise_insertionSort (fun a b : α => canonicalTag a ≤ canonicalTag b) values
  have distinct := List.nodup_dedup (values.insertionSort fun a b => canonicalTag a ≤ canonicalTag b)
  rw [normalizedSet_eq_dedup]
  have both := (ordered.sublist (List.dedup_sublist _)).and distinct
  exact both.imp fun apart => UInt8.lt_of_le_of_ne apart.1 fun same => apart.2 (LawfulTag.injective same)

/-- Sets are written alike exactly when they have the same members. -/
theorem normalizedSet_eq_iff {values values' : List α} :
    normalizedSet values = normalizedSet values' ↔ ∀ a, a ∈ values ↔ a ∈ values' := by
  constructor
  · intro same a
    rw [← mem_normalizedSet, same, mem_normalizedSet]
  · intro members
    have irrefl : Std.Irrefl fun a b : α => canonicalTag a < canonicalTag b :=
      ⟨fun _ => UInt8.lt_irrefl _⟩
    have antisymm : Std.Antisymm fun a b : α => canonicalTag a < canonicalTag b :=
      ⟨fun _ _ up down => absurd (UInt8.lt_trans up down) (UInt8.lt_irrefl _)⟩
    refine (normalizedSet_pairwise values).eq_of_mem_iff (normalizedSet_pairwise values') fun a => ?_
    rw [mem_normalizedSet, mem_normalizedSet, members]

end NormalizedSet

namespace Transcript

/-- The bytes above and the byte here settle the number from here on. -/
theorem shift_eq_of_byte {a b : Nat} (k : Nat) (above : a >>> (k + 8) = b >>> (k + 8))
    (here : a >>> k % 2 ^ 8 = b >>> k % 2 ^ 8) : a >>> k = b >>> k := by
  rw [Nat.shiftRight_add, Nat.shiftRight_add, Nat.shiftRight_eq_div_pow (a >>> k),
    Nat.shiftRight_eq_div_pow (b >>> k)] at above
  omega

theorem u32_injective : Function.Injective u32 := by
  intro a b same
  simp only [u32, List.cons.injEq, ← UInt8.toNat_inj, UInt32.toNat_toUInt8, UInt32.toNat_shiftRight,
    and_true] at same
  obtain ⟨b3, b2, b1, b0⟩ := same
  rw [← UInt32.toNat_inj]
  have top : a.toNat >>> 32 = b.toNat >>> 32 := by
    rw [Nat.shiftRight_eq_zero _ _ a.toNat_lt, Nat.shiftRight_eq_zero _ _ b.toNat_lt]
  have from24 := shift_eq_of_byte 24 top b3
  have from16 := shift_eq_of_byte 16 from24 b2
  have from8 := shift_eq_of_byte 8 from16 b1
  exact shift_eq_of_byte 0 from8 b0

theorem u64_injective : Function.Injective u64 := by
  intro a b same
  simp only [u64, List.cons.injEq, ← UInt8.toNat_inj, UInt64.toNat_toUInt8, UInt64.toNat_shiftRight,
    and_true] at same
  obtain ⟨b7, b6, b5, b4, b3, b2, b1, b0⟩ := same
  rw [← UInt64.toNat_inj]
  have top : a.toNat >>> 64 = b.toNat >>> 64 := by
    rw [Nat.shiftRight_eq_zero _ _ a.toNat_lt, Nat.shiftRight_eq_zero _ _ b.toNat_lt]
  have from56 := shift_eq_of_byte 56 top b7
  have from48 := shift_eq_of_byte 48 from56 b6
  have from40 := shift_eq_of_byte 40 from48 b5
  have from32 := shift_eq_of_byte 32 from40 b4
  have from24 := shift_eq_of_byte 24 from32 b3
  have from16 := shift_eq_of_byte 16 from24 b2
  have from8 := shift_eq_of_byte 8 from16 b1
  exact shift_eq_of_byte 0 from8 b0

theorem u32_readable : Readable u32 (fun _ => True) id :=
  .sized (show ∀ value, (u32 value).length = 4 from fun _ => rfl) u32_injective

theorem u64_readable : Readable u64 (fun _ => True) id :=
  .sized (show ∀ value, (u64 value).length = 8 from fun _ => rfl) u64_injective

theorem count_readable : Readable (fun n => u32 (UInt32.ofNat n)) (· < 2 ^ 32) id where
  split left right _ _ same := by
    obtain ⟨alike, follows⟩ := u32_readable.split trivial trivial same
    refine ⟨?_, follows⟩
    have equal := congrArg UInt32.toNat alike
    rwa [id, id, UInt32.toNat_ofNat_of_lt' left, UInt32.toNat_ofNat_of_lt' right] at equal

theorem byte_readable : Readable (fun b : UInt8 => [b]) (fun _ => True) id :=
  .symbol Function.injective_id

theorem bytes_readable : Readable (fun bytes : List UInt8 => u32 (UInt32.ofNat bytes.length) ++ bytes)
    Few id := by
  have counted := count_readable.counted byte_readable
  simp only [List.flatMap_singleton', List.map_id_fun] at counted
  exact counted.weaken (fun _ few => ⟨few, fun _ _ => trivial⟩) fun _ _ alike => alike

theorem text_readable : Readable (writeCanonical : String → List UInt8) Short id :=
  (bytes_readable.comap fun value : String => value.toByteArray.data.toList).weaken (fun _ short => short)
    fun a b alike => String.toByteArray_inj.mp (by
      have bytes : a.toByteArray.data.toList = b.toByteArray.data.toList := alike
      exact ByteArray.ext (Array.toList_inj.mp bytes))

theorem word_readable : Readable (writeCanonical : UInt32 → List UInt8) (fun _ => True) id :=
  u32_readable

theorem flag_readable : Readable (writeCanonical : Bool → List UInt8) (fun _ => True) id :=
  .symbol (show Function.Injective fun value : Bool => if value then (1 : UInt8) else 0 by
    intro a b
    cases a <;> cases b <;> decide)

theorem option_readable {α γ : Type} [Canonical α] {fits : α → Prop} {view : α → γ}
    (readable : Readable writeCanonical fits view) : Readable (writeCanonical : Option α → List UInt8)
      (fun value => ∀ a, value = some a → fits a) (Option.map view) :=
  readable.option (show (1 : UInt8) ≠ 0 by decide) (fun _ => rfl) rfl

section Tag

variable (α : Type) [CanonicalTag α] [LawfulTag α]

theorem tag_readable : Readable (writeCanonical : α → List UInt8) (fun _ => True) id :=
  .symbol LawfulTag.injective

theorem set_readable : Readable (canonicalSet : List α → List UInt8) Few normalizedSet := by
  refine ((count_readable.counted (tag_readable α)).comap normalizedSet).weaken ?_ ?_
  · intro values few
    exact ⟨(length_normalizedSet values).trans_lt few, fun _ _ => trivial⟩
  · intro values values' alike
    rwa [List.map_id, List.map_id] at alike

end Tag

end Transcript

/-- Every string fits its length field. -/
def InspectionAttestationN.Fits (x : InspectionAttestationN) : Prop :=
  Short x.id ∧ Short x.inv ∧ Short x.challenge ∧ Short x.argsHash ∧ Short x.policyDigest

def ResolutionAttestationN.Fits (x : ResolutionAttestationN) : Prop := Short x.id ∧ Short x.inv

def ConformanceAttestationN.Fits (x : ConformanceAttestationN) : Prop :=
  Short x.id ∧ Short x.output ∧ Short x.src ∧ Short x.rcv ∧ Short x.descriptor ∧ Short x.assignment

def CrossInputN.Fits (q : CrossInputN) : Prop :=
  Short q.src ∧ Short q.rcv ∧ Short q.crossing ∧ Short q.outputHash ∧ Short q.descriptor ∧
    Short q.assignment ∧ ∀ evidence, q.evidence = some evidence → evidence.Fits

def ActionPolicySnapshotN.Fits (policy : ActionPolicySnapshotN) : Prop :=
  Short policy.tool ∧ Few policy.requiredCaps ∧ Few policy.declaredEgress ∧ Short policy.policyDigest

def CommandN.Fits : CommandN → Prop
  | .registerTool tool | .unregisterTool tool => Short tool
  | .delegate grantor grantee => Short grantor ∧ Short grantee
  | .grantCapability parent child _ => Short parent ∧ Short child
  | .grantCrossing grantor agent assignment _ => Short grantor ∧ Short agent ∧ Short assignment
  | .revoke parent target => Short parent ∧ Short target
  | .cascadeRevoke child parent => Short child ∧ Short parent
  | .ingest agent src _ _ => Short agent ∧ ∀ source, src = some source → Short source
  | .beginInvocation agent inv challenge policy egress argsHash _ =>
    Short agent ∧ Short inv ∧ Short challenge ∧ policy.Fits ∧ Few egress ∧ Short argsHash
  | .authorizeInspected inv attestation => Short inv ∧ attestation.Fits
  | .settleInvocation inv _ resolution =>
    Short inv ∧ ∀ attestation, resolution = some attestation → attestation.Fits
  | .crossOutput input => input.Fits

def ActionN.Fits : ActionN → Prop
  | .registerTool tool | .unregisterTool tool => Short tool
  | .delegate grantor grantee => Short grantor ∧ Short grantee
  | .grantCapability parent child _ => Short parent ∧ Short child
  | .grantCrossing grantor agent assignment _ => Short grantor ∧ Short agent ∧ Short assignment
  | .revoke parent target => Short parent ∧ Short target
  | .cascadeRevoke child parent => Short child ∧ Short parent
  | .ingest agent src _ _ _ => Short agent ∧ ∀ source, src = some source → Short source
  | .beginInvocation agent inv tool _ _ => Short agent ∧ Short inv ∧ Short tool
  | .authorizeInspected inv attestation _ => Short inv ∧ Short attestation
  | .settleInvocation inv agent _ _ _ _ resolution =>
    Short inv ∧ Short agent ∧ ∀ attestation, resolution = some attestation → Short attestation
  | .crossOutput src rcv crossing _ _ => Short src ∧ Short rcv ∧ Short crossing

def ActionPolicySnapshotN.normalized (policy : ActionPolicySnapshotN) : ActionPolicySnapshotN :=
  { policy with
    requiredCaps := normalizedSet policy.requiredCaps
    declaredEgress := normalizedSet policy.declaredEgress }

/-- The command with its set-valued lists sorted and without repetitions. -/
def CommandN.normalized : CommandN → CommandN
  | .beginInvocation agent inv challenge policy egress argsHash authorized =>
    .beginInvocation agent inv challenge policy.normalized (normalizedSet egress) argsHash authorized
  | command => command

namespace Transcript

theorem inspection_readable :
    Readable (writeCanonical : InspectionAttestationN → List UInt8) InspectionAttestationN.Fits id := by
  have fields := ((((text_readable.pair text_readable).pair text_readable).pair text_readable).pair
    text_readable).pair flag_readable
  refine (fields.comap fun x : InspectionAttestationN =>
    (((((x.id, x.inv), x.challenge), x.argsHash), x.policyDigest), x.positive)).weaken ?_ ?_
  · intro x fits
    simpa [InspectionAttestationN.Fits, and_assoc] using fits
  · intro x y alike
    cases x; cases y
    simpa [and_assoc] using alike

theorem resolution_readable :
    Readable (writeCanonical : ResolutionAttestationN → List UInt8) ResolutionAttestationN.Fits id := by
  have fields := (text_readable.pair text_readable).pair (tag_readable Outcome)
  refine (fields.comap fun x : ResolutionAttestationN => ((x.id, x.inv), x.outcome)).weaken ?_ ?_
  · intro x fits
    simpa [ResolutionAttestationN.Fits] using fits
  · intro x y alike
    cases x; cases y
    simpa [and_assoc] using alike

theorem conformance_readable :
    Readable (writeCanonical : ConformanceAttestationN → List UInt8) ConformanceAttestationN.Fits id := by
  have fields := (((((text_readable.pair text_readable).pair text_readable).pair text_readable).pair
    text_readable).pair text_readable).pair flag_readable
  refine (fields.comap fun x : ConformanceAttestationN =>
    ((((((x.id, x.output), x.src), x.rcv), x.descriptor), x.assignment), x.positive)).weaken ?_ ?_
  · intro x fits
    simpa [ConformanceAttestationN.Fits, and_assoc] using fits
  · intro x y alike
    cases x; cases y
    simpa [and_assoc] using alike

theorem crossInput_readable :
    Readable (writeCanonical : CrossInputN → List UInt8) CrossInputN.Fits id := by
  have fields := ((((((((((text_readable.pair text_readable).pair text_readable).pair text_readable).pair
    text_readable).pair (tag_readable Fallback)).pair (tag_readable IntegLevel)).pair
    (option_readable (tag_readable ConfLevel))).pair text_readable).pair
    (option_readable conformance_readable)).pair (tag_readable ConfLevel)).pair
    (tag_readable IntegLevel)
  refine (fields.comap fun q : CrossInputN => (((((((((((q.src, q.rcv), q.crossing), q.outputHash),
    q.descriptor), q.fallback), q.tInteg), q.tConf), q.assignment), q.evidence), q.releasedConf),
    q.releasedInteg)).weaken ?_ ?_
  · intro q fits
    simpa [CrossInputN.Fits, and_assoc] using fits
  · intro p q alike
    cases p; cases q
    simpa [and_assoc] using alike

theorem policy_readable : Readable (writeCanonical : ActionPolicySnapshotN → List UInt8)
    ActionPolicySnapshotN.Fits ActionPolicySnapshotN.normalized := by
  have fields := (((((((text_readable.pair (set_readable CapKind)).pair
    (tag_readable ConfLevel)).pair (tag_readable IntegLevel)).pair
    (tag_readable IntegLevel)).pair (tag_readable ConfLevel)).pair
    (tag_readable IntegLevel)).pair (set_readable EgressKind)).pair text_readable
  refine (fields.comap fun policy : ActionPolicySnapshotN => ((((((((policy.tool, policy.requiredCaps),
    policy.confClearance), policy.integFloor), policy.integInspect), policy.outputConf),
    policy.outputInteg), policy.declaredEgress), policy.policyDigest)).weaken ?_ ?_
  · intro policy fits
    simpa [ActionPolicySnapshotN.Fits, and_assoc] using fits
  · intro policy policy' alike
    cases policy; cases policy'
    simpa [ActionPolicySnapshotN.normalized, and_assoc] using alike

theorem texts_readable : Readable (fun texts : String × String => writeCanonical texts.1 ++
    writeCanonical texts.2) (fun texts => Short texts.1 ∧ Short texts.2) id :=
  text_readable.pair text_readable

theorem command_readable :
    Readable (writeCanonical : CommandN → List UInt8) CommandN.Fits CommandN.normalized where
  split {a b} left right _ _ same := by
    cases a with
    | registerTool tool =>
      cases b with
      | registerTool tool' =>
        have payload := text_readable.marked 0
        have alike := payload.split (a := tool) (b := tool') left right same
        simpa [CommandN.normalized] using alike
      | _ => exact absurd (List.cons.inj same).1 (by decide)
    | unregisterTool tool =>
      cases b with
      | unregisterTool tool' =>
        have payload := text_readable.marked 1
        have alike := payload.split (a := tool) (b := tool') left right same
        simpa [CommandN.normalized] using alike
      | _ => exact absurd (List.cons.inj same).1 (by decide)
    | delegate grantor grantee =>
      cases b with
      | delegate grantor' grantee' =>
        have payload := texts_readable.marked 2
        have alike := payload.split (a := (grantor, grantee)) (b := (grantor', grantee')) left right same
        simpa [CommandN.normalized] using alike
      | _ => exact absurd (List.cons.inj same).1 (by decide)
    | grantCapability parent child cap =>
      cases b with
      | grantCapability parent' child' cap' =>
        have payload := (texts_readable.pair (tag_readable CapKind)).marked 3
        have alike := payload.split (a := ((parent, child), cap)) (b := ((parent', child'), cap'))
          ⟨left, trivial⟩ ⟨right, trivial⟩ same
        simpa [CommandN.normalized, and_assoc] using alike
      | _ => exact absurd (List.cons.inj same).1 (by decide)
    | grantCrossing grantor agent assignment n =>
      cases b with
      | grantCrossing grantor' agent' assignment' n' =>
        have payload := ((texts_readable.pair text_readable).pair word_readable).marked 4
        have alike := payload.split (a := (((grantor, agent), assignment), n))
          (b := (((grantor', agent'), assignment'), n')) ⟨⟨⟨left.1, left.2.1⟩, left.2.2⟩, trivial⟩
          ⟨⟨⟨right.1, right.2.1⟩, right.2.2⟩, trivial⟩ same
        simpa [CommandN.normalized, and_assoc] using alike
      | _ => exact absurd (List.cons.inj same).1 (by decide)
    | revoke parent target =>
      cases b with
      | revoke parent' target' =>
        have payload := texts_readable.marked 5
        have alike := payload.split (a := (parent, target)) (b := (parent', target')) left right same
        simpa [CommandN.normalized] using alike
      | _ => exact absurd (List.cons.inj same).1 (by decide)
    | cascadeRevoke child parent =>
      cases b with
      | cascadeRevoke child' parent' =>
        have payload := texts_readable.marked 6
        have alike := payload.split (a := (child, parent)) (b := (child', parent')) left right same
        simpa [CommandN.normalized] using alike
      | _ => exact absurd (List.cons.inj same).1 (by decide)
    | ingest agent src pconf pinteg =>
      cases b with
      | ingest agent' src' pconf' pinteg' =>
        have payload := (((text_readable.pair (option_readable text_readable)).pair
          (tag_readable ConfLevel)).pair (tag_readable IntegLevel)).marked 7
        have alike := payload.split (a := (((agent, src), pconf), pinteg))
          (b := (((agent', src'), pconf'), pinteg')) ⟨⟨left, trivial⟩, trivial⟩
          ⟨⟨right, trivial⟩, trivial⟩ same
        simpa [CommandN.normalized, and_assoc] using alike
      | _ => exact absurd (List.cons.inj same).1 (by decide)
    | beginInvocation agent inv challenge policy egress argsHash authorized =>
      cases b with
      | beginInvocation agent' inv' challenge' policy' egress' argsHash' authorized' =>
        have payload := (((((texts_readable.pair text_readable).pair policy_readable).pair
          (set_readable EgressKind)).pair text_readable).pair flag_readable).marked 8
        have alike := payload.split
          (a := ((((((agent, inv), challenge), policy), egress), argsHash), authorized))
          (b := ((((((agent', inv'), challenge'), policy'), egress'), argsHash'), authorized'))
          ⟨⟨⟨⟨⟨⟨left.1, left.2.1⟩, left.2.2.1⟩, left.2.2.2.1⟩, left.2.2.2.2.1⟩, left.2.2.2.2.2⟩, trivial⟩
          ⟨⟨⟨⟨⟨⟨right.1, right.2.1⟩, right.2.2.1⟩, right.2.2.2.1⟩, right.2.2.2.2.1⟩, right.2.2.2.2.2⟩, trivial⟩
          same
        simpa [CommandN.normalized, and_assoc] using alike
      | _ => exact absurd (List.cons.inj same).1 (by decide)
    | authorizeInspected inv attestation =>
      cases b with
      | authorizeInspected inv' attestation' =>
        have payload := (text_readable.pair inspection_readable).marked 9
        have alike := payload.split (a := (inv, attestation)) (b := (inv', attestation')) left right same
        simpa [CommandN.normalized] using alike
      | _ => exact absurd (List.cons.inj same).1 (by decide)
    | settleInvocation inv outcome resolution =>
      cases b with
      | settleInvocation inv' outcome' resolution' =>
        have payload := ((text_readable.pair (tag_readable Outcome)).pair
          (option_readable resolution_readable)).marked 10
        have alike := payload.split (a := ((inv, outcome), resolution))
          (b := ((inv', outcome'), resolution')) ⟨⟨left.1, trivial⟩, left.2⟩ ⟨⟨right.1, trivial⟩, right.2⟩
          same
        simpa [CommandN.normalized, and_assoc] using alike
      | _ => exact absurd (List.cons.inj same).1 (by decide)
    | crossOutput input =>
      cases b with
      | crossOutput input' =>
        have payload := crossInput_readable.marked 11
        have alike := payload.split (a := input) (b := input') left right same
        simpa [CommandN.normalized] using alike
      | _ => exact absurd (List.cons.inj same).1 (by decide)

theorem action_readable :
    Readable (writeCanonical : ActionN → List UInt8) ActionN.Fits id where
  split {a b} left right _ _ same := by
    cases a with
    | registerTool tool =>
      cases b with
      | registerTool tool' =>
        have payload := text_readable.marked 0
        have alike := payload.split (a := tool) (b := tool') left right same
        simpa using alike
      | _ => exact absurd (List.cons.inj same).1 (by decide)
    | unregisterTool tool =>
      cases b with
      | unregisterTool tool' =>
        have payload := text_readable.marked 1
        have alike := payload.split (a := tool) (b := tool') left right same
        simpa using alike
      | _ => exact absurd (List.cons.inj same).1 (by decide)
    | delegate grantor grantee =>
      cases b with
      | delegate grantor' grantee' =>
        have payload := texts_readable.marked 2
        have alike := payload.split (a := (grantor, grantee)) (b := (grantor', grantee')) left right same
        simpa using alike
      | _ => exact absurd (List.cons.inj same).1 (by decide)
    | grantCapability parent child cap =>
      cases b with
      | grantCapability parent' child' cap' =>
        have payload := (texts_readable.pair (tag_readable CapKind)).marked 3
        have alike := payload.split (a := ((parent, child), cap)) (b := ((parent', child'), cap'))
          ⟨left, trivial⟩ ⟨right, trivial⟩ same
        simpa [and_assoc] using alike
      | _ => exact absurd (List.cons.inj same).1 (by decide)
    | grantCrossing grantor agent assignment n =>
      cases b with
      | grantCrossing grantor' agent' assignment' n' =>
        have payload := ((texts_readable.pair text_readable).pair word_readable).marked 4
        have alike := payload.split (a := (((grantor, agent), assignment), n))
          (b := (((grantor', agent'), assignment'), n')) ⟨⟨⟨left.1, left.2.1⟩, left.2.2⟩, trivial⟩
          ⟨⟨⟨right.1, right.2.1⟩, right.2.2⟩, trivial⟩ same
        simpa [and_assoc] using alike
      | _ => exact absurd (List.cons.inj same).1 (by decide)
    | revoke parent target =>
      cases b with
      | revoke parent' target' =>
        have payload := texts_readable.marked 5
        have alike := payload.split (a := (parent, target)) (b := (parent', target')) left right same
        simpa using alike
      | _ => exact absurd (List.cons.inj same).1 (by decide)
    | cascadeRevoke child parent =>
      cases b with
      | cascadeRevoke child' parent' =>
        have payload := texts_readable.marked 6
        have alike := payload.split (a := (child, parent)) (b := (child', parent')) left right same
        simpa using alike
      | _ => exact absurd (List.cons.inj same).1 (by decide)
    | ingest agent src pconf pinteg disposition =>
      cases b with
      | ingest agent' src' pconf' pinteg' disposition' =>
        have payload := ((((text_readable.pair (option_readable text_readable)).pair
          (tag_readable ConfLevel)).pair (tag_readable IntegLevel)).pair
          (tag_readable Disposition)).marked 7
        have alike := payload.split (a := ((((agent, src), pconf), pinteg), disposition))
          (b := ((((agent', src'), pconf'), pinteg'), disposition')) ⟨⟨⟨left, trivial⟩, trivial⟩, trivial⟩
          ⟨⟨⟨right, trivial⟩, trivial⟩, trivial⟩ same
        simpa [and_assoc] using alike
      | _ => exact absurd (List.cons.inj same).1 (by decide)
    | beginInvocation agent inv tool verdict authorized =>
      cases b with
      | beginInvocation agent' inv' tool' verdict' authorized' =>
        have payload := (((texts_readable.pair text_readable).pair (tag_readable Verdict)).pair
          flag_readable).marked 8
        have alike := payload.split (a := ((((agent, inv), tool), verdict), authorized))
          (b := ((((agent', inv'), tool'), verdict'), authorized'))
          ⟨⟨⟨⟨left.1, left.2.1⟩, left.2.2⟩, trivial⟩, trivial⟩
          ⟨⟨⟨⟨right.1, right.2.1⟩, right.2.2⟩, trivial⟩, trivial⟩ same
        simpa [and_assoc] using alike
      | _ => exact absurd (List.cons.inj same).1 (by decide)
    | authorizeInspected inv attestation admitted =>
      cases b with
      | authorizeInspected inv' attestation' admitted' =>
        have payload := (texts_readable.pair flag_readable).marked 9
        have alike := payload.split (a := ((inv, attestation), admitted))
          (b := ((inv', attestation'), admitted')) ⟨left, trivial⟩ ⟨right, trivial⟩ same
        simpa [and_assoc] using alike
      | _ => exact absurd (List.cons.inj same).1 (by decide)
    | settleInvocation inv agent disposition outcome clvl ilvl resolution =>
      cases b with
      | settleInvocation inv' agent' disposition' outcome' clvl' ilvl' resolution' =>
        have payload := (((((texts_readable.pair (tag_readable Disposition)).pair
          (tag_readable Outcome)).pair (tag_readable ConfLevel)).pair (tag_readable IntegLevel)).pair
          (option_readable text_readable)).marked 10
        have alike := payload.split
          (a := ((((((inv, agent), disposition), outcome), clvl), ilvl), resolution))
          (b := ((((((inv', agent'), disposition'), outcome'), clvl'), ilvl'), resolution'))
          ⟨⟨⟨⟨⟨⟨left.1, left.2.1⟩, trivial⟩, trivial⟩, trivial⟩, trivial⟩, left.2.2⟩
          ⟨⟨⟨⟨⟨⟨right.1, right.2.1⟩, trivial⟩, trivial⟩, trivial⟩, trivial⟩, right.2.2⟩ same
        simpa [and_assoc] using alike
      | _ => exact absurd (List.cons.inj same).1 (by decide)
    | crossOutput src rcv crossing branch disposition =>
      cases b with
      | crossOutput src' rcv' crossing' branch' disposition' =>
        have payload := (((texts_readable.pair text_readable).pair (tag_readable CrossBranch)).pair
          (tag_readable Disposition)).marked 11
        have alike := payload.split (a := ((((src, rcv), crossing), branch), disposition))
          (b := ((((src', rcv'), crossing'), branch'), disposition'))
          ⟨⟨⟨⟨left.1, left.2.1⟩, left.2.2⟩, trivial⟩, trivial⟩
          ⟨⟨⟨⟨right.1, right.2.1⟩, right.2.2⟩, trivial⟩, trivial⟩ same
        simpa [and_assoc] using alike
      | _ => exact absurd (List.cons.inj same).1 (by decide)

theorem digest_readable : Readable (fun digest : DigestN => digest.bytes.toList) (fun _ => True) id := by
  refine .sized (n := 32) (fun digest => digest.bytes.length_toList) fun digest digest' same => ?_
  cases digest; cases digest'
  exact congrArg DigestN.mk (Vector.toList_inj.mp same)

theorem link_readable : Readable (fun entry : ((DigestN × UInt64) × CommandN) × ActionN =>
      linkTranscript entry.1.1.1 entry.1.1.2 entry.1.2 entry.2)
    (fun entry => entry.1.2.Fits ∧ entry.2.Fits)
    fun entry => (((entry.1.1.1, entry.1.1.2), entry.1.2.normalized), entry.2) where
  split {a b} left right rest rest' same := by
    have entries := ((digest_readable.pair u64_readable).pair command_readable).pair action_readable
    simp only [linkTranscript, List.append_assoc, List.append_cancel_left_eq] at same
    refine entries.split (a := a) (b := b) ⟨⟨⟨trivial, trivial⟩, left.1⟩, left.2⟩
      ⟨⟨⟨trivial, trivial⟩, right.1⟩, right.2⟩ ?_
    simpa only [List.append_assoc] using same

theorem ceilings_readable : Readable (fun ceilings : EgressKind → Option (Option ConfLevel) =>
      EgressKind.all.flatMap fun e => writeCanonical (ceilings e).join)
    (fun _ => True) (fun ceilings e => (ceilings e).join) where
  split {a b} _ _ rest rest' same := by
    have block := (option_readable (tag_readable ConfLevel)).block 4
    have listed := block.split (a := EgressKind.all.map fun e => (a e).join)
      (b := EgressKind.all.map fun e => (b e).join) ⟨rfl, fun _ _ _ _ => trivial⟩
      ⟨rfl, fun _ _ _ _ => trivial⟩ (by simpa only [List.flatMap_map] using same)
    rw [Option.map_id, List.map_id, List.map_id, List.map_inj_left] at listed
    exact ⟨funext fun e => listed.1 e e.mem_all, listed.2⟩

theorem background_readable : Readable (writeCanonical : BackgroundN → List UInt8) (fun _ => True)
    fun bg => (bg.mode, fun e => (bg.allowCeiling e).join, fun e => (bg.inspectCeiling e).join) := by
  have fields := ((tag_readable Mode).pair ceilings_readable).pair ceilings_readable
  refine (fields.comap fun bg : BackgroundN => ((bg.mode, bg.allowCeiling), bg.inspectCeiling)).weaken ?_ ?_
  · exact fun _ _ => ⟨⟨trivial, trivial⟩, trivial⟩
  · intro bg bg' alike
    simpa [and_assoc] using alike

end Transcript

open Transcript

theorem genesisTranscript_eq_iff {bg bg' : BackgroundN} : genesisTranscript bg = genesisTranscript bg' ↔
    bg.mode = bg'.mode ∧ ∀ e, (bg.allowCeiling e).join = (bg'.allowCeiling e).join ∧
      (bg.inspectCeiling e).join = (bg'.inspectCeiling e).join := by
  constructor
  · intro same
    have body := List.append_cancel_left same
    have front : writeCanonical bg <+: writeCanonical bg' := body ▸ List.prefix_refl _
    have alike := background_readable.of_prefix trivial trivial front
    simp only [Prod.mk.injEq, funext_iff] at alike
    exact ⟨alike.1, fun e => ⟨alike.2.1 e, alike.2.2 e⟩⟩
  · intro facts
    rcases facts with ⟨mode, ceilings⟩
    have body : writeCanonical bg = writeCanonical bg' := by
      simp only [writeCanonical, mode, ceilings]
    rw [genesisTranscript, genesisTranscript, body]

theorem genesis_not_prefix_link (bg : BackgroundN) (previous : DigestN) (sequence : UInt64)
    (command : CommandN) (action : ActionN) :
    ¬ genesisTranscript bg <+: linkTranscript previous sequence command action := by
  simp only [genesisTranscript, linkTranscript, List.append_assoc]
  exact Codec.not_prefix_of_head (i := 8) (by decide) (by decide) (by decide) _ _

theorem link_not_prefix_genesis (bg : BackgroundN) (previous : DigestN) (sequence : UInt64)
    (command : CommandN) (action : ActionN) :
    ¬ linkTranscript previous sequence command action <+: genesisTranscript bg := by
  simp only [genesisTranscript, linkTranscript, List.append_assoc]
  exact Codec.not_prefix_of_head (i := 8) (by decide) (by decide) (by decide) _ _

/-- A transcript can be read in one way only. -/
theorem transcripts_unambiguous :
    (∀ (previous previous' : DigestN) (sequence sequence' : UInt64) (command command' : CommandN)
      (action action' : ActionN), command.Fits → command'.Fits → action.Fits → action'.Fits →
      (linkTranscript previous sequence command action =
          linkTranscript previous' sequence' command' action' ∨
        linkTranscript previous sequence command action <+:
          linkTranscript previous' sequence' command' action' ∨
        linkTranscript previous' sequence' command' action' <+:
          linkTranscript previous sequence command action) →
      previous = previous' ∧ sequence = sequence' ∧ command.normalized = command'.normalized ∧
        action = action') ∧
    (∀ bg bg', genesisTranscript bg = genesisTranscript bg' ↔
      bg.mode = bg'.mode ∧ ∀ e, (bg.allowCeiling e).join = (bg'.allowCeiling e).join ∧
        (bg.inspectCeiling e).join = (bg'.inspectCeiling e).join) ∧
    ∀ bg previous sequence command action,
      ¬ genesisTranscript bg <+: linkTranscript previous sequence command action ∧
      ¬ linkTranscript previous sequence command action <+: genesisTranscript bg := by
  refine ⟨?_, fun _ _ => genesisTranscript_eq_iff, fun bg previous sequence command action =>
    ⟨genesis_not_prefix_link bg previous sequence command action,
      link_not_prefix_genesis bg previous sequence command action⟩⟩
  intro previous previous' sequence sequence' command command' action action' fits fits' short short' related
  have entry := link_readable.of_prefix (a := (((previous, sequence), command), action))
    (b := (((previous', sequence'), command'), action')) ⟨fits, short⟩ ⟨fits', short'⟩
  have entry' := link_readable.of_prefix (a := (((previous', sequence'), command'), action'))
    (b := (((previous, sequence), command), action)) ⟨fits', short'⟩ ⟨fits, short⟩
  simp only [Prod.mk.injEq, and_assoc] at entry entry'
  rcases related with same | front | back
  · exact entry (same ▸ List.prefix_refl _)
  · exact entry front
  · obtain ⟨digest, number, commands, actions⟩ := entry' back
    exact ⟨digest.symm, number.symm, commands.symm, actions.symm⟩

theorem transcripts_unambiguous_sample :
    let policy : ActionPolicySnapshotN := ⟨"t", [.ipc, .clipboard, .ipc], .«public», .standard, .standard,
      .«internal», .standard, [], "d"⟩
    let policy' : ActionPolicySnapshotN := { policy with requiredCaps := [.clipboard, .ipc] }
    let command : CommandN := .beginInvocation "a" "i" "c" policy [.networkInternal, .networkExternal] "h" true
    let command' : CommandN := .beginInvocation "a" "i" "c" policy' [.networkExternal, .networkInternal] "h"
      true
    command ≠ command' ∧ command.normalized = command'.normalized := by
  intro policy policy' command command'
  have fits : command.Fits ∧ command'.Fits ∧ (ActionN.registerTool "t").Fits := by
    simp only [CommandN.Fits, ActionPolicySnapshotN.Fits, ActionN.Fits, Short, Few]
    decide
  have same : linkTranscript ⟨Vector.replicate 32 0⟩ 1 command (.registerTool "t") =
      linkTranscript ⟨Vector.replicate 32 0⟩ 1 command' (.registerTool "t") := by decide
  exact ⟨by decide, (transcripts_unambiguous.1 _ _ _ _ _ _ _ _ fits.1 fits.2.1 fits.2.2 fits.2.2
    (.inl same)).2.2.1⟩

end Argus
